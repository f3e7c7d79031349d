import Mathlib.Data.List.TakeWhile
import Mathlib.Data.List.Induction
import MidiSequencer.Text.Blank
import MidiSequencer.Text.Number

/-! # Numerals and blanks

Which texts stand for a number, said digit by digit from the first to the last, and which part of a
text is left without the blanks at its ends. Reading and trimming do what is said here. -/
namespace MidiSequencer.Text

inductive Digits : List Char → Nat → Prop where
  | one (d : Fin 10) : Digits [Nat.digitChar d] d
  | more {s : List Char} {n : Nat} (d : Fin 10) :
      Digits s n → Digits (s ++ [Nat.digitChar d]) (10 * n + d)

inductive Numeral : List Char → Nat → Prop where
  | plain {s : List Char} {n : Nat} : Digits s n → Numeral s n
  | plus {s : List Char} {n : Nat} : Digits s n → Numeral ('+' :: s) n

/-- What is left of a text without the blanks at its ends. -/
structure Trimmed (s t : List Char) : Prop where
  padded : ∃ left right, s = left ++ t ++ right ∧
    (∀ c ∈ left, isBlank c = true) ∧ ∀ c ∈ right, isBlank c = true
  first : ∀ c ∈ t.head?, isBlank c = false
  last : ∀ c ∈ t.getLast?, isBlank c = false

theorem isDigit_iff {c : Char} : isDigit c = true ↔ 48 ≤ c.toNat ∧ c.toNat ≤ 57 := by
  simp only [isDigit, Bool.and_eq_true, decide_eq_true_eq]
  exact Iff.rfl

theorem isDigit_iff_exists {c : Char} : isDigit c = true ↔ ∃ d : Fin 10, c = Nat.digitChar d := by
  rw [isDigit_iff]
  constructor
  · rintro ⟨low, high⟩
    refine ⟨⟨c.toNat - 48, by omega⟩, Char.toNat_inj.1 ?_⟩
    rw [Nat.toNat_digitChar_of_lt_ten (by omega)]
    exact (Nat.add_sub_cancel' low).symm
  · rintro ⟨d, rfl⟩
    have small := d.isLt
    rw [Nat.toNat_digitChar_of_lt_ten small]
    omega

theorem digitValue_digitChar (d : Fin 10) : digitValue (Nat.digitChar d) = d := by
  rw [digitValue, Nat.toNat_digitChar_of_lt_ten d.isLt]
  omega

theorem valueOfDigits_concat (s : List Char) (c : Char) :
    valueOfDigits (s ++ [c]) = 10 * valueOfDigits s + digitValue c := by
  simp [valueOfDigits, List.foldl_append]

namespace Digits

variable {s : List Char} {n : Nat}

theorem isDigit (h : Digits s n) : ∀ c ∈ s, isDigit c = true := by
  induction h with
  | one d => simpa using isDigit_iff_exists.2 ⟨d, rfl⟩
  | more d before ih =>
    intro c hc
    rcases List.mem_append.1 hc with hc | hc
    · exact ih c hc
    · rw [List.mem_singleton.1 hc]
      exact isDigit_iff_exists.2 ⟨d, rfl⟩

theorem ne_nil (h : Digits s n) : s ≠ [] := by
  cases h <;> simp

theorem value (h : Digits s n) : valueOfDigits s = n := by
  induction h with
  | one d => simpa [valueOfDigits] using digitValue_digitChar d
  | more d before ih => rw [valueOfDigits_concat, ih, digitValue_digitChar]

theorem zeros (h : Digits s n) (k : Nat) : Digits (List.replicate k '0' ++ s) n := by
  have zero (s : List Char) (n : Nat) (h : Digits s n) : Digits ('0' :: s) n := by
    induction h with
    | one d => simpa using more (s := ['0']) d (one 0)
    | more d before ih => exact more d ih
  induction k with
  | zero => exact h
  | succ k ih => exact zero _ _ ih

end Digits

theorem digits_of_isDigit {s : List Char} (nonempty : s ≠ [])
    (digits : ∀ c ∈ s, isDigit c = true) : Digits s (valueOfDigits s) := by
  induction s using List.reverseRecOn with
  | nil => exact absurd rfl nonempty
  | append_singleton s c ih =>
    obtain ⟨earlier, last⟩ := List.forall_mem_append.1 digits
    obtain ⟨d, rfl⟩ := isDigit_iff_exists.1 (last c List.mem_cons_self)
    rw [valueOfDigits_concat, digitValue_digitChar]
    by_cases hs : s = []
    · subst hs
      simpa [valueOfDigits] using Digits.one d
    · exact (ih hs earlier).more d

theorem readDigits_eq_some_iff {s : List Char} {n : Nat} :
    readDigits s = some n ↔ Digits s n := by
  unfold readDigits
  constructor
  · intro h
    split at h
    · cases h
    · next digits =>
      have both : s ≠ [] ∧ s.all isDigit = true := by simpa using digits
      obtain rfl := Option.some.inj h
      exact digits_of_isDigit both.1 (List.all_eq_true.1 both.2)
  · intro h
    have all : s.all isDigit = true := List.all_eq_true.2 h.isDigit
    simp [h.ne_nil, all, h.value]

/-- A sign is no digit, so there is one way to read a numeral. -/
theorem readNumber_eq_some_iff {s : List Char} {n : Nat} :
    readNumber s = some n ↔ Numeral s n := by
  constructor
  · intro h
    unfold readNumber at h
    split at h
    · exact .plus (readDigits_eq_some_iff.1 h)
    · exact .plain (readDigits_eq_some_iff.1 h)
  · intro h
    cases h with
    | plus digits => exact readDigits_eq_some_iff.2 digits
    | plain digits =>
      have read := readDigits_eq_some_iff.2 digits
      unfold readNumber
      split
      · next s =>
        have sign := digits.isDigit '+' List.mem_cons_self
        exact absurd sign (by decide)
      · exact read

theorem readByte_eq_some_iff {s : List Char} {b : UInt8} :
    readByte s = some b ↔ Numeral s b.toNat := by
  simp only [readByte, Option.bind_eq_some_iff, readNumber_eq_some_iff]
  constructor
  · rintro ⟨n, numeral, h⟩
    split at h
    · next small =>
      obtain rfl := Option.some.inj h
      rwa [UInt8.toNat_ofNat_of_lt' small]
    · cases h
  · intro numeral
    exact ⟨b.toNat, numeral, by simp [b.toNat_lt]⟩

theorem Numeral.no_colon {s : List Char} {n : Nat} (h : Numeral s n) : ':' ∉ s := by
  have none_in {s : List Char} (digits : Digits s n) : ':' ∉ s := by
    intro hc
    exact absurd (digits.isDigit ':' hc) (by decide)
  cases h with
  | plain digits => exact none_in digits
  | plus digits => simpa using none_in digits

theorem Numeral.no_blank {s : List Char} {n : Nat} (h : Numeral s n) :
    ∀ c ∈ s, isBlank c = false := by
  have digit (c : Char) (hc : isDigit c = true) : isBlank c = false := by
    obtain ⟨d, rfl⟩ := isDigit_iff_exists.1 hc
    revert d
    decide
  cases h with
  | plain digits => exact fun c hc => digit c (digits.isDigit c hc)
  | plus digits =>
    intro c hc
    rcases List.mem_cons.1 hc with rfl | hc
    · decide
    · exact digit c (digits.isDigit c hc)

theorem digits_decimal (n : Nat) : Digits (decimal n).toList n := by
  rw [decimal, String.toList_ofList]
  induction n using Nat.strongRecOn with
  | _ n ih =>
    by_cases small : n < 10
    · rw [Nat.toDigits_of_lt_base small]
      exact .one ⟨n, small⟩
    · have split : 10 * (n / 10) + n % 10 = n := by omega
      have last : n % 10 < 10 := Nat.mod_lt n (by decide)
      have digits := (ih (n / 10) (by omega)).more ⟨n % 10, last⟩
      have joined := Nat.toDigits_append_toDigits (b := 10) (n := n / 10) (d := n % 10)
        (by decide) (by omega) last
      rw [Nat.toDigits_of_lt_base last, split] at joined
      rw [joined] at digits
      simpa [split] using digits

theorem trimmed_trim (s : List Char) : Trimmed s (trim s) := by
  let right := ((s.dropWhile isBlank).reverse.takeWhile isBlank).reverse
  have front : s.takeWhile isBlank ++ s.dropWhile isBlank = s := List.takeWhile_append_dropWhile
  have back : trim s ++ right = s.dropWhile isBlank := by
    rw [trim, ← List.reverse_append, List.takeWhile_append_dropWhile, List.reverse_reverse]
  refine ⟨⟨s.takeWhile isBlank, right, ?_, ?_, ?_⟩, ?_, ?_⟩
  · rw [List.append_assoc, back, front]
  · exact fun c hc => List.mem_takeWhile_imp hc
  · exact fun c hc => List.mem_takeWhile_imp (List.mem_reverse.1 hc)
  · intro c hc
    have head := List.head?_dropWhile_not isBlank s
    rw [← back, List.head?_append, hc] at head
    exact head
  · intro c hc
    have last := List.head?_dropWhile_not isBlank (s.dropWhile isBlank).reverse
    rw [trim, List.getLast?_reverse] at hc
    rw [hc] at last
    exact last

theorem dropWhile_blanks {blanks s : List Char} (all : ∀ c ∈ blanks, isBlank c = true)
    (first : ∀ c ∈ s.head?, isBlank c = false) : (blanks ++ s).dropWhile isBlank = s := by
  rw [List.dropWhile_append_of_pos all]
  cases s with
  | nil => rfl
  | cons c s => exact List.dropWhile_cons_of_neg (by simpa using first c)

theorem Trimmed.eq_trim {s t : List Char} (h : Trimmed s t) : t = trim s := by
  obtain ⟨left, right, rfl, blankLeft, blankRight⟩ := h.padded
  have reversed : ∀ c ∈ t.reverse.head?, isBlank c = false := by
    rw [List.head?_reverse]
    exact h.last
  have kept : (right.reverse ++ t.reverse).dropWhile isBlank = t.reverse :=
    dropWhile_blanks (fun c hc => blankRight c (List.mem_reverse.1 hc)) reversed
  rw [trim, List.append_assoc, List.dropWhile_append_of_pos blankLeft]
  cases t with
  | nil =>
    have gone : right.dropWhile isBlank = [] := List.dropWhile_eq_nil_iff.2 blankRight
    simp [gone]
  | cons c t =>
    have first : (c :: t ++ right).dropWhile isBlank = c :: t ++ right :=
      List.dropWhile_cons_of_neg (by simpa using h.first c)
    rw [first, List.reverse_append, kept, List.reverse_reverse]

end MidiSequencer.Text
