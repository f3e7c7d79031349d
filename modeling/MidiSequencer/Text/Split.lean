/-! # Splitting texts

A text in two parts around the first character of some kind.
-/
namespace MidiSequencer.Text

/-- The part before the first character that passes the test, and the part after it, if there is
such a character. -/
def splitFirst (test : Char → Bool) : List Char → List Char × Option (List Char)
  | [] => ([], none)
  | c :: s =>
    if test c then ([], some s)
    else (c :: (splitFirst test s).1, (splitFirst test s).2)

theorem splitFirst_append {test : Char → Bool} {s rest : List Char} {c : Char}
    (hs : ∀ x ∈ s, test x = false) (hc : test c = true) :
    splitFirst test (s ++ c :: rest) = (s, some rest) := by
  induction s with
  | nil => simp [splitFirst, hc]
  | cons x s ih =>
    have hx : test x = false := hs x (by simp)
    have h := ih fun y hy => hs y (by simp [hy])
    simp [splitFirst, hx, h]

theorem splitFirst_of_all {test : Char → Bool} {s : List Char}
    (hs : ∀ x ∈ s, test x = false) : splitFirst test s = (s, none) := by
  induction s with
  | nil => rfl
  | cons x s ih =>
    have hx : test x = false := hs x (by simp)
    have h := ih fun y hy => hs y (by simp [hy])
    simp [splitFirst, hx, h]

end MidiSequencer.Text
