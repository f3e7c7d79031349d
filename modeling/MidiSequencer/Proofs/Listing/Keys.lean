import MidiSequencer.Proofs.Listing.Admission
import MidiSequencer.Proofs.Listing.Sorting

/-! # Keys of ports

What a sorted listing compares ports by, in terms of their bits and numbers, and that the comparison
is a total preorder. -/
namespace MidiSequencer

namespace PortInfo

variable {p : PortInfo} {preferred : List PortType} {t : PortType} {n : Nat}

def HasType (p : PortInfo) (t : PortType) : Prop :=
  ∀ place, Flags.HasBit t.bits place → Flags.HasBit p.portType.bits place

theorem contains_iff : p.portType.contains t = true ↔ p.HasType t :=
  Flags.contains_iff

/-- The port has no preferred type before the place `n`, and has the one that stands there; where
none stands there, `n` is their number. -/
structure RankIn (p : PortInfo) (preferred : List PortType) (n : Nat) : Prop where
  bound : n ≤ preferred.length
  first : ∀ k < n, ∀ t, preferred[k]? = some t → ¬ p.HasType t
  matched : ∀ t, preferred[n]? = some t → p.HasType t

theorem rankIn_rank : p.RankIn preferred (p.rank preferred) where
  bound := List.findIdx_le_length
  first k hk t ht := by
    obtain ⟨within, rfl⟩ := List.getElem?_eq_some_iff.1 ht
    have missed : p.portType.contains preferred[k] = false := List.not_of_lt_findIdx hk
    rw [← contains_iff, missed]
    exact Bool.false_ne_true
  matched t ht := by
    obtain ⟨within, rfl⟩ := List.getElem?_eq_some_iff.1 ht
    have found : p.portType.contains preferred[p.rank preferred] = true :=
      List.findIdx_getElem (w := within)
    exact contains_iff.1 found

theorem RankIn.unique {m : Nat} (hn : p.RankIn preferred n) (hm : p.RankIn preferred m) :
    n = m := by
  have least {i j : Nat} (hi : p.RankIn preferred i) (hj : p.RankIn preferred j) : ¬ i < j := by
    intro hlt
    have within : i < preferred.length := Nat.lt_of_lt_of_le hlt hj.bound
    have stands := List.getElem?_eq_getElem within
    exact hj.first i hlt _ stands (hi.matched _ stands)
  have first := least hn hm
  have second := least hm hn
  omega

theorem rankIn_iff : p.RankIn preferred n ↔ p.rank preferred = n := by
  constructor
  · intro h
    exact rankIn_rank.unique h
  · rintro rfl
    exact rankIn_rank

theorem RankIn.rank_eq {q : PortInfo} (hp : p.RankIn preferred n) (hq : q.RankIn preferred n) :
    p.rank preferred = q.rank preferred :=
  (rankIn_iff.1 hp).trans (rankIn_iff.1 hq).symm

/-- The order of a sorted listing, the first difference deciding: the rank of the type, whether the
client loops events back, the number of the client and that of the port. -/
inductive KeyLe (preferred : List PortType) (a b : PortInfo) : Prop where
  | rank {m n : Nat} (first : a.RankIn preferred m) (second : b.RankIn preferred n) (lt : m < n)
  | through {n : Nat} (first : a.RankIn preferred n) (second : b.RankIn preferred n)
      (device : a.clientName ≠ "Midi Through") (loops : b.clientName = "Midi Through")
  | client {n : Nat} (first : a.RankIn preferred n) (second : b.RankIn preferred n)
      (alike : a.clientName = "Midi Through" ↔ b.clientName = "Midi Through")
      (lt : a.clientId < b.clientId)
  | port {n : Nat} (first : a.RankIn preferred n) (second : b.RankIn preferred n)
      (alike : a.clientName = "Midi Through" ↔ b.clientName = "Midi Through")
      (same : a.clientId = b.clientId) (le : a.portId ≤ b.portId)

end PortInfo

namespace PortKey

theorem le_iff {a b : PortKey} : a.le b = true ↔ a.rank < b.rank ∨ a.rank = b.rank ∧
    (a.through = false ∧ b.through = true ∨ a.through = b.through ∧
      (a.clientId < b.clientId ∨ a.clientId = b.clientId ∧ a.portId ≤ b.portId)) := by
  unfold le
  by_cases ranks : a.rank = b.rank
  · by_cases clients : a.clientId = b.clientId
    · cases a.through <;> cases b.through <;> simp [ranks, clients]
    · cases a.through <;> cases b.through <;> simp [ranks, clients]
  · simp [ranks]

theorem totalPreorder_le : TotalPreorder le where
  trans a b c := by
    rw [le_iff, le_iff, le_iff]
    cases a.through <;> cases b.through <;> cases c.through <;> simp <;> omega
  total a b := by
    rw [Bool.or_eq_true, le_iff, le_iff]
    cases a.through <;> cases b.through <;> simp <;> omega

theorem ids_eq_of_le {a b : PortKey} (hab : a.le b = true) (hba : b.le a = true) :
    a.clientId = b.clientId ∧ a.portId = b.portId := by
  rw [le_iff] at hab hba
  cases ha : a.through <;> cases hb : b.through <;> simp [ha, hb] at hab hba <;> omega

end PortKey

namespace PortFilter

variable {f : PortFilter} {a b : PortInfo}

theorem totalPreorder_inOrder (f : PortFilter) : TotalPreorder f.inOrder where
  trans a b _ := PortKey.totalPreorder_le.trans (a.key f.preferred) (b.key f.preferred) _
  total a b := PortKey.totalPreorder_le.total (a.key f.preferred) (b.key f.preferred)

theorem inOrder_iff : f.inOrder a b = true ↔ a.KeyLe f.preferred b := by
  have loops (p : PortInfo) : (p.key f.preferred).through = true ↔ p.clientName = "Midi Through" :=
    beq_iff_eq
  have device (p : PortInfo) :
      (p.key f.preferred).through = false ↔ p.clientName ≠ "Midi Through" := beq_eq_false_iff_ne
  have alike : (a.key f.preferred).through = (b.key f.preferred).through ↔
      (a.clientName = "Midi Through" ↔ b.clientName = "Midi Through") := by
    rw [Bool.eq_iff_iff, loops, loops]
  unfold inOrder
  rw [PortKey.le_iff, device, loops, alike]
  constructor
  · rintro (lt | ⟨same, ⟨ha, hb⟩ | ⟨both, lt | ⟨client, le⟩⟩⟩)
    · exact .rank PortInfo.rankIn_rank PortInfo.rankIn_rank lt
    · exact .through PortInfo.rankIn_rank (PortInfo.rankIn_iff.2 same.symm) ha hb
    · exact .client PortInfo.rankIn_rank (PortInfo.rankIn_iff.2 same.symm) both lt
    · exact .port PortInfo.rankIn_rank (PortInfo.rankIn_iff.2 same.symm) both client le
  · intro h
    cases h with
    | rank first second lt =>
      obtain rfl := PortInfo.rankIn_iff.1 first
      obtain rfl := PortInfo.rankIn_iff.1 second
      exact .inl lt
    | through first second ha hb => exact .inr ⟨first.rank_eq second, .inl ⟨ha, hb⟩⟩
    | client first second both lt => exact .inr ⟨first.rank_eq second, .inr ⟨both, .inl lt⟩⟩
    | port first second both client le =>
      exact .inr ⟨first.rank_eq second, .inr ⟨both, .inr ⟨client, le⟩⟩⟩

theorem ids_eq_of_inOrder (hab : f.inOrder a b = true) (hba : f.inOrder b a = true) :
    a.clientId = b.clientId ∧ a.portId = b.portId :=
  PortKey.ids_eq_of_le hab hba

end PortFilter

end MidiSequencer
