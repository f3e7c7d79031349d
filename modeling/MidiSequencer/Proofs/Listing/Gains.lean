import MidiSequencer.Proofs.Listing.Exactness
import MidiSequencer.Proofs.Listing.Keys

/-! # Ports that gain bits

A port whose type gains bits is still listed, and stays before whatever it stood before. -/
namespace MidiSequencer

namespace PortInfo

def gain (bits : UInt32) (p : PortInfo) : PortInfo :=
  { p with portType := ⟨p.portType.bits ||| bits⟩ }

def gainAt (address : Int × Int) (bits : UInt32) (p : PortInfo) : PortInfo :=
  if p.ids = address then p.gain bits else p

variable {bits : UInt32} {p : PortInfo} {t : PortType}

theorem contains_gain (h : p.portType.contains t = true) :
    (p.gain bits).portType.contains t = true := by
  rw [contains_iff] at h ⊢
  intro place ht
  have had := h place ht
  unfold Flags.HasBit gain at *
  rw [UInt32.toNat_or, Nat.testBit_or, had, Bool.true_or]

theorem rank_gain_le (preferred : List PortType) :
    (p.gain bits).rank preferred ≤ p.rank preferred :=
  List.findIdx_le_findIdx fun _ _ h => contains_gain h

/-- Nothing else is compared, so that the port is in order before what it was. -/
theorem inOrder_gain (f : PortFilter) : f.inOrder (p.gain bits) p = true := by
  have rank : (p.gain bits).rank f.preferred ≤ p.rank f.preferred := rank_gain_le f.preferred
  unfold PortFilter.inOrder
  rw [PortKey.le_iff]
  simp only [key]
  rcases Nat.lt_or_eq_of_le rank with lt | same
  · exact .inl lt
  · exact .inr ⟨same, .inr ⟨rfl, .inr ⟨rfl, Int.le_refl _⟩⟩⟩

variable {address : Int × Int}

theorem ids_gainAt : (p.gainAt address bits).ids = p.ids := by
  unfold gainAt
  split <;> rfl

theorem gainAt_withName (name : String) :
    { p with clientName := name }.gainAt address bits =
      { p.gainAt address bits with clientName := name } := by
  unfold gainAt
  by_cases h : p.ids = address
  · rw [if_pos h, if_pos (by exact h)]
    rfl
  · rw [if_neg h, if_neg (by exact h)]

theorem acceptsPort_gainAt {f : PortFilter} (h : f.acceptsPort p = true) :
    f.acceptsPort (p.gainAt address bits) = true := by
  unfold gainAt
  split
  · unfold PortFilter.acceptsPort at h ⊢
    simp only [Bool.and_eq_true] at h ⊢
    exact ⟨⟨contains_gain h.1.1, h.1.2⟩, h.2⟩
  · exact h

end PortInfo

theorem ascent_map {α : Type} {number : α → Int} {g : α → α} (hg : ∀ a, number (g a) = number a)
    (n : Int) (l : List α) : ascent number n (l.map g) = (ascent number n l).map g := by
  induction l generalizing n with
  | nil => rfl
  | cons a l ih =>
    rw [List.map_cons, ascent, ascent, hg]
    split
    · rw [List.map_cons, ih]
    · exact ih n

namespace Store

def gainAt (s : Store) (address : Int × Int) (bits : UInt32) : Store :=
  { s with ports := s.ports.map (PortInfo.gainAt address bits) }

variable {s : Store} {f : PortFilter} {address : Int × Int} {bits : UInt32}

theorem portsOf_gainAt (client : Int) :
    (s.gainAt address bits).portsOf client =
      (s.portsOf client).map (PortInfo.gainAt address bits) := by
  have number (p : PortInfo) : (p.gainAt address bits).portId = p.portId :=
    congrArg Prod.snd PortInfo.ids_gainAt
  have owner : (fun p : PortInfo => p.clientId == client) ∘ PortInfo.gainAt address bits =
      fun p => p.clientId == client := by
    funext p
    exact congrArg (· == client) (congrArg Prod.fst PortInfo.ids_gainAt)
  unfold portsOf gainAt
  rw [List.filter_map, owner, ascent_map number]

theorem gainAt_mem_listed {q : PortInfo} (h : q ∈ s.listed f) :
    q.gainAt address bits ∈ (s.gainAt address bits).listed f := by
  obtain ⟨c, hc, hq⟩ := List.mem_flatMap.1 h
  refine List.mem_flatMap.2 ⟨c, hc, ?_⟩
  unfold listedOf at hq ⊢
  split
  · next accepted =>
    rw [if_pos accepted] at hq
    obtain ⟨p, hp, rfl⟩ := List.mem_map.1 hq
    obtain ⟨member, accepted⟩ := List.mem_filter.1 hp
    rw [portsOf_gainAt]
    refine List.mem_map.2 ⟨p.gainAt address bits, List.mem_filter.2 ⟨?_, ?_⟩, ?_⟩
    · exact List.mem_map_of_mem member
    · exact PortInfo.acceptsPort_gainAt accepted
    · exact (PortInfo.gainAt_withName c.name).symm
  · next refused =>
    rw [if_neg refused] at hq
    cases hq

end Store

theorem pair_sublist {α : Type} {l : List α} {a b : α} (ha : a ∈ l) (hb : b ∈ l) (hab : a ≠ b) :
    [a, b].Sublist l ∨ [b, a].Sublist l := by
  obtain ⟨before, after, rfl⟩ := List.append_of_mem ha
  rcases List.mem_append.1 hb with hb | hb
  · exact .inr ((List.singleton_sublist.2 hb).append (List.singleton_sublist.2 List.mem_cons_self))
  · rcases List.mem_cons.1 hb with rfl | hb
    · exact absurd rfl hab
    · exact .inl (((List.singleton_sublist.2 hb).cons_cons a).trans (List.sublist_append_right _ _))

namespace Store

variable {s : Store} {f : PortFilter} {address : Int × Int} {bits : UInt32}

/-- A port that gains bits stays before whatever it stood before. -/
theorem gainAt_stays (hf : f.sort = true) {a b : PortInfo}
    (before : [a, b].Sublist (f.arrange (s.listed f))) (ha : a.ids = address) :
    [a.gain bits, b].Sublist (f.arrange ((s.gainAt address bits).listed f)) := by
  have arranges (l : List PortInfo) : f.arrange l = l.mergeSort f.inOrder := if_pos hf
  rw [arranges] at before ⊢
  have order := f.totalPreorder_inOrder
  have first : f.inOrder a b = true :=
    List.pairwise_iff_forall_sublist.1 (stablySorted_mergeSort order _).ordered before
  have apart : a.ids ≠ b.ids := by
    have distinct : ((s.listed f).map PortInfo.ids).Nodup := by
      rw [List.Nodup, List.pairwise_map]
      refine pairwise_listed.imp ?_
      intro p q hpq same
      simp only [IdsLt, same] at hpq
      omega
    have nodup := (((List.mergeSort_perm (s.listed f) f.inOrder).map PortInfo.ids).nodup_iff).2
      distinct
    have both := (before.map PortInfo.ids).nodup nodup
    simpa using both
  have gained : a.gainAt address bits = a.gain bits := if_pos ha
  have kept : b.gainAt address bits = b := if_neg fun hb => apart (ha.trans hb.symm)
  have listed {q : PortInfo} (hq : q ∈ [a, b]) : q.gainAt address bits ∈
      ((s.gainAt address bits).listed f).mergeSort f.inOrder :=
    List.mem_mergeSort.2 (gainAt_mem_listed (List.mem_mergeSort.1 (before.subset hq)))
  have ha' := listed (q := a) (by simp)
  have hb' := listed (q := b) (by simp)
  rw [gained] at ha'
  rw [kept] at hb'
  have different : a.gain bits ≠ b := by
    rintro rfl
    exact apart rfl
  rcases pair_sublist ha' hb' different with inFront | behind
  · exact inFront
  · -- then both would stand equal, which ports at different addresses do not
    have second : f.inOrder b (a.gain bits) = true :=
      List.pairwise_iff_forall_sublist.1 (stablySorted_mergeSort order _).ordered behind
    have back := order.trans b (a.gain bits) a second (PortInfo.inOrder_gain f)
    obtain ⟨client, port⟩ := PortFilter.ids_eq_of_inOrder first back
    exact absurd (Prod.ext client port) apart

end Store

end MidiSequencer
