/-! # Sorting

What it is for a list to be the stable sort of another one by a total preorder. There is one such
list only, so that sorting goes past filtering. -/
namespace MidiSequencer

variable {α : Type}

structure TotalPreorder (le : α → α → Bool) : Prop where
  trans (a b c : α) : le a b = true → le b c = true → le a c = true
  total (a b : α) : (le a b || le b a) = true

theorem TotalPreorder.refl {le : α → α → Bool} (h : TotalPreorder le) (a : α) :
    le a a = true := by
  simpa using h.total a a

/-- The same elements, in order by `R`; what was in order before stays so, above all what stands
equal. -/
structure StablySorted (R : α → α → Prop) (l sorted : List α) : Prop where
  perm : sorted.Perm l
  ordered : sorted.Pairwise R
  stable (part : List α) : part.Sublist l → part.Pairwise R → part.Sublist sorted

theorem stablySorted_mergeSort {le : α → α → Bool} (h : TotalPreorder le) (l : List α) :
    StablySorted (fun a b => le a b = true) l (l.mergeSort le) where
  perm := List.mergeSort_perm l le
  ordered := List.pairwise_mergeSort h.trans h.total l
  stable _ sub inOrder := List.sublist_mergeSort h.trans h.total inOrder sub

namespace StablySorted

variable {le : α → α → Bool} {l s t : List α}

theorem filter_ties (h : TotalPreorder le) (hs : StablySorted (fun a b => le a b = true) l s)
    (a : α) : s.filter (fun b => le a b && le b a) = l.filter (fun b => le a b && le b a) := by
  have tied : (l.filter (fun b => le a b && le b a)).Pairwise fun b c => le b c = true := by
    refine List.pairwise_of_forall_mem_list fun b hb c hc => ?_
    have first := Bool.and_eq_true_iff.1 (List.mem_filter.1 hb).2
    have second := Bool.and_eq_true_iff.1 (List.mem_filter.1 hc).2
    exact h.trans b a c first.2 second.1
  have kept := (hs.stable _ List.filter_sublist tied).filter fun b => le a b && le b a
  rw [List.filter_filter] at kept
  simp only [Bool.and_self] at kept
  exact (kept.eq_of_length (hs.perm.filter _).length_eq.symm).symm

/-- A list in order is known from what stands equal in it; by induction on the list. -/
theorem eq_of_ties (h : TotalPreorder le) (hs : s.Pairwise fun a b => le a b = true)
    (ht : t.Pairwise fun a b => le a b = true)
    (same : ∀ a, s.filter (fun b => le a b && le b a) = t.filter fun b => le a b && le b a) :
    s = t := by
  have member {u v : List α}
      (huv : ∀ a, u.filter (fun b => le a b && le b a) = v.filter fun b => le a b && le b a)
      {a : α} (ha : a ∈ u) : a ∈ v := by
    have found : a ∈ u.filter fun b => le a b && le b a := by simp [ha, h.refl]
    rw [huv] at found
    exact (List.mem_filter.1 found).1
  induction s generalizing t with
  | nil =>
    refine (List.eq_nil_iff_forall_not_mem.2 fun b hb => ?_).symm
    cases member (fun a => (same a).symm) hb
  | cons a s ih =>
    cases t with
    | nil => cases member same List.mem_cons_self
    | cons b t =>
      obtain ⟨first, rest⟩ := List.pairwise_cons.1 hs
      obtain ⟨first', rest'⟩ := List.pairwise_cons.1 ht
      have hab : le a b = true := by
        rcases List.mem_cons.1 (member (fun a => (same a).symm) List.mem_cons_self) with rfl | hb
        · exact h.refl b
        · exact first b hb
      have hba : le b a = true := by
        rcases List.mem_cons.1 (member same List.mem_cons_self) with rfl | ha
        · exact h.refl a
        · exact first' a ha
      -- each heads what stands equal to it, and that is the same in both lists
      obtain rfl : a = b := by
        have heads := same a
        simp only [List.filter_cons, h.refl, hab, hba, Bool.and_self, if_true] at heads
        exact (List.cons.inj heads).1
      congr 1
      refine ih rest rest' fun c => ?_
      have both := same c
      simp only [List.filter_cons] at both
      split at both
      · exact (List.cons.inj both).2
      · exact both

theorem unique (h : TotalPreorder le) (hs : StablySorted (fun a b => le a b = true) l s)
    (ht : StablySorted (fun a b => le a b = true) l t) : s = t :=
  eq_of_ties h hs.ordered ht.ordered fun a => (hs.filter_ties h a).trans (ht.filter_ties h a).symm

theorem filter {R : α → α → Prop} (hs : StablySorted R l s) (p : α → Bool) :
    StablySorted R (l.filter p) (s.filter p) where
  perm := hs.perm.filter p
  ordered := hs.ordered.filter p
  stable part sub inOrder := by
    have kept := (hs.stable part (sub.trans List.filter_sublist) inOrder).filter p
    have all : part.filter p = part := by
      rw [List.filter_eq_self]
      exact fun a ha => (List.mem_filter.1 (sub.subset ha)).2
    rwa [all] at kept

end StablySorted

theorem filter_mergeSort {le : α → α → Bool} (h : TotalPreorder le) (p : α → Bool) (l : List α) :
    (l.mergeSort le).filter p = (l.filter p).mergeSort le :=
  ((stablySorted_mergeSort h l).filter p).unique h (stablySorted_mergeSort h _)

end MidiSequencer
