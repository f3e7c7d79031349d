/-! # Ascents

The entries that are found when each search begins behind the number of the last one. In a table in
the order of its numbers these are the first entries of every number. -/
namespace MidiSequencer

variable {α : Type} (number : α → Int)

/-- From behind `n`, the next entry with a larger number, and so on from there. -/
def ascent (n : Int) : List α → List α
  | [] => []
  | a :: rest => if n < number a then a :: ascent (number a) rest else ascent n rest

theorem ascent_of_find?_none {n : Int} {l : List α} (h : l.find? (n < number ·) = none) :
    ascent number n l = [] := by
  induction l with
  | nil => rfl
  | cons b rest ih =>
    rw [List.find?_cons] at h
    by_cases hb : n < number b
    · simp [hb] at h
    · rw [ascent, if_neg hb]
      simp only [hb, decide_false] at h
      exact ih h

theorem ascent_of_find?_some {n : Int} {l : List α} {a : α}
    (h : l.find? (n < number ·) = some a) :
    ascent number n l = a :: ascent number (number a) l := by
  induction l with
  | nil => cases h
  | cons b rest ih =>
    rw [List.find?_cons] at h
    by_cases hb : n < number b
    · simp only [hb, decide_true, Option.some.injEq] at h
      subst h
      have past : ¬ number b < number b := Int.lt_irrefl _
      rw [ascent, if_pos hb, ascent, if_neg past]
    · simp only [hb, decide_false] at h
      have above : n < number a := by simpa using List.find?_some h
      have past : ¬ number a < number b := by omega
      rw [ascent, if_neg hb, ascent, if_neg past]
      exact ih h

theorem head?_ascent (n : Int) (l : List α) :
    (ascent number n l).head? = l.find? (n < number ·) := by
  cases found : l.find? (n < number ·) with
  | none => rw [ascent_of_find?_none number found, List.head?_nil]
  | some a => rw [ascent_of_find?_some number found, List.head?_cons]

theorem ascent_sublist (n : Int) (l : List α) : (ascent number n l).Sublist l := by
  induction l generalizing n with
  | nil => exact .slnil
  | cons b rest ih =>
    rw [ascent]
    split
    · exact (ih _).cons_cons b
    · exact (ih n).cons b

theorem lt_of_mem_ascent {n : Int} {l : List α} {a : α} (h : a ∈ ascent number n l) :
    n < number a := by
  induction l generalizing n with
  | nil => cases h
  | cons b rest ih =>
    by_cases hb : n < number b
    · rw [ascent, if_pos hb] at h
      rcases List.mem_cons.1 h with rfl | h
      · exact hb
      · have above := ih h
        omega
    · rw [ascent, if_neg hb] at h
      exact ih h

theorem pairwise_ascent (n : Int) (l : List α) :
    (ascent number n l).Pairwise fun a b => number a < number b := by
  induction l generalizing n with
  | nil => exact .nil
  | cons b rest ih =>
    by_cases hb : n < number b
    · rw [ascent, if_pos hb]
      exact .cons (fun a ha => lt_of_mem_ascent number ha) (ih _)
    · rw [ascent, if_neg hb]
      exact ih n

/-- In a table in order nothing is passed over: the ascent consists of the first entries of all
numbers behind `n`. -/
theorem mem_ascent_iff {l : List α} (sorted : l.Pairwise fun a b => number a ≤ number b) {n : Int}
    {a : α} :
    a ∈ ascent number n l ↔ n < number a ∧ l.find? (number · == number a) = some a := by
  induction l generalizing n with
  | nil => simp [ascent]
  | cons b rest ih =>
    obtain ⟨least, sorted⟩ := List.pairwise_cons.1 sorted
    rw [List.find?_cons]
    by_cases hb : n < number b
    · rw [ascent, if_pos hb, List.mem_cons, ih sorted]
      by_cases same : number b = number a
      · have found : (number b == number a) = true := beq_iff_eq.2 same
        rw [found]
        constructor
        · rintro (rfl | ⟨above, -⟩)
          · exact ⟨hb, rfl⟩
          · omega
        · rintro ⟨-, h⟩
          cases h
          exact .inl rfl
      · have other : (number b == number a) = false := beq_eq_false_iff_ne.2 same
        rw [other]
        constructor
        · rintro (rfl | ⟨above, h⟩)
          · exact absurd rfl same
          · exact ⟨by omega, h⟩
        · rintro ⟨-, h⟩
          have later := least a (List.mem_of_find?_eq_some h)
          exact .inr ⟨by omega, h⟩
    · rw [ascent, if_neg hb, ih sorted]
      constructor
      · rintro ⟨above, h⟩
        have other : (number b == number a) = false := beq_eq_false_iff_ne.2 (by omega)
        exact ⟨above, by rw [other]; exact h⟩
      · rintro ⟨above, h⟩
        have other : (number b == number a) = false := beq_eq_false_iff_ne.2 (by omega)
        rw [other] at h
        exact ⟨above, h⟩

end MidiSequencer
