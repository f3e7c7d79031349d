import MidiSequencer.Text.Utf8

/-! # Names as bytes

Text that is written as bytes is read back as it was: each byte of a character is one that those
before it allow. There is a zero byte only where there is a zero character. -/
namespace MidiSequencer.Text.Utf8

theorem toNat_bounds (c : Char) : c.toNat < 0xD800 ∨ 0xDFFF < c.toNat ∧ c.toNat < 0x110000 :=
  c.valid

variable {value more low high b : Nat} {rest : List UInt8}

theorem decodeFrom_cons (p : Pending) (hb : b < 256) :
    decodeFrom p (UInt8.ofNat b :: rest) = (step p b).1 ++ decodeFrom (step p b).2 rest := by
  have same : (UInt8.ofNat b).toNat = b := by simpa using hb
  cases p <;> rw [decodeFrom, same]

/-! A byte that is allowed goes into the character that is pending. -/

theorem decodeFrom_last (hb : b < 256) (hl : low ≤ b) (hh : b ≤ high) :
    decodeFrom (.some value 0 low high) (UInt8.ofNat b :: rest) =
      Char.ofNat (value * 64 + (b - 0x80)) :: decodeFrom .none rest := by
  rw [decodeFrom_cons _ hb]
  simp [step, hl, hh]

theorem decodeFrom_more (hb : b < 256) (hl : low ≤ b) (hh : b ≤ high) :
    decodeFrom (.some value (more + 1) low high) (UInt8.ofNat b :: rest) =
      decodeFrom (.some (value * 64 + (b - 0x80)) more 0x80 0xBF) rest := by
  rw [decodeFrom_cons _ hb]
  simp [step, hl, hh]

/-! How a character of one, two, three and four bytes starts. -/

theorem decodeFrom_start₁ (hh : b < 0x80) :
    decodeFrom .none (UInt8.ofNat b :: rest) = Char.ofNat b :: decodeFrom .none rest := by
  rw [decodeFrom_cons _ (by omega)]
  simp [step, start, hh]

theorem decodeFrom_start₂ (hl : 0xC2 ≤ b) (hh : b ≤ 0xDF) :
    decodeFrom .none (UInt8.ofNat b :: rest) =
      decodeFrom (.some (b - 0xC0) 0 0x80 0xBF) rest := by
  have several : ¬ b < 0x80 := by omega
  rw [decodeFrom_cons _ (by omega)]
  simp [step, start, several, hl, hh]

theorem decodeFrom_start₃ (hl : 0xE0 ≤ b) (hh : b ≤ 0xEF) :
    decodeFrom .none (UInt8.ofNat b :: rest) = decodeFrom (.some (b - 0xE0) 1
      (if b = 0xE0 then 0xA0 else 0x80) (if b = 0xED then 0x9F else 0xBF)) rest := by
  have several : ¬ b < 0x80 := by omega
  have notTwo : ¬ b ≤ 0xDF := by omega
  rw [decodeFrom_cons _ (by omega)]
  simp [step, start, several, notTwo, hl, hh]

theorem decodeFrom_start₄ (hl : 0xF0 ≤ b) (hh : b ≤ 0xF4) :
    decodeFrom .none (UInt8.ofNat b :: rest) = decodeFrom (.some (b - 0xF0) 2
      (if b = 0xF0 then 0x90 else 0x80) (if b = 0xF4 then 0x8F else 0xBF)) rest := by
  have several : ¬ b < 0x80 := by omega
  have notTwo : ¬ b ≤ 0xDF := by omega
  have notThree : ¬ b ≤ 0xEF := by omega
  rw [decodeFrom_cons _ (by omega)]
  simp [step, start, several, notTwo, notThree, hl, hh]

/-- The bytes of a character are read as this character. The bounds on the second byte leave out
what shorter characters and surrogates would be. -/
theorem decodeFrom_encodeChar (c : Char) :
    decodeFrom .none (encodeChar c ++ rest) = c :: decodeFrom .none rest := by
  have bounds := toNat_bounds c
  have whole {n : Nat} (h : n = c.toNat) : Char.ofNat n = c := by
    rw [h, Char.ofNat_toNat]
  unfold encodeChar
  generalize c.toNat = n at bounds whole ⊢
  simp only
  split
  · next one =>
    rw [List.singleton_append, decodeFrom_start₁ one, whole rfl]
  split
  · next two =>
    simp only [List.cons_append, List.nil_append]
    rw [decodeFrom_start₂ (by omega) (by omega),
      decodeFrom_last (by omega) (by omega) (by omega), whole (by omega)]
  split
  · next three =>
    simp only [List.cons_append, List.nil_append]
    have low : (if 0xE0 + n / 4096 = 0xE0 then 0xA0 else 0x80) ≤ 0x80 + n / 64 % 64 := by
      split <;> omega
    have high : 0x80 + n / 64 % 64 ≤ if 0xE0 + n / 4096 = 0xED then 0x9F else 0xBF := by
      split <;> omega
    rw [decodeFrom_start₃ (by omega) (by omega), decodeFrom_more (by omega) low high,
      decodeFrom_last (by omega) (by omega) (by omega), whole (by omega)]
  · next four =>
    simp only [List.cons_append, List.nil_append]
    have low : (if 0xF0 + n / 262144 = 0xF0 then 0x90 else 0x80) ≤ 0x80 + n / 4096 % 64 := by
      split <;> omega
    have high : 0x80 + n / 4096 % 64 ≤ if 0xF0 + n / 262144 = 0xF4 then 0x8F else 0xBF := by
      split <;> omega
    rw [decodeFrom_start₄ (by omega) (by omega), decodeFrom_more (by omega) low high,
      decodeFrom_more (by omega) (by omega) (by omega),
      decodeFrom_last (by omega) (by omega) (by omega), whole (by omega)]

theorem decode_encode (s : List Char) : decode (encode s) = s := by
  induction s with
  | nil => rfl
  | cons c s ih =>
    show decodeFrom .none (encodeChar c ++ encode s) = _
    rw [decodeFrom_encodeChar]
    exact congrArg (c :: ·) ih

theorem zero_not_mem_encodeChar {c : Char} (hc : c ≠ '\x00') : 0 ∉ encodeChar c := by
  have positive : c.toNat ≠ 0 := by
    intro zero
    refine hc ?_
    rw [← Char.ofNat_toNat c, zero]
  have bounds := toNat_bounds c
  have apart {k : Nat} (hk : k < 256) (h : k ≠ 0) : (0 : UInt8) ≠ UInt8.ofNat k := by
    intro same
    have value : 0 = k % 256 := by simpa using congrArg UInt8.toNat same
    omega
  unfold encodeChar
  generalize c.toNat = n at positive bounds ⊢
  simp only
  repeat' split
  all_goals
    simp only [List.mem_cons, List.not_mem_nil, or_false, not_or]
    and_intros <;> exact apart (by omega) (by omega)

/-- Text without a zero character is passed whole to who reads up to a zero byte. -/
theorem zero_not_mem_encode {s : List Char} (hs : '\x00' ∉ s) : 0 ∉ encode s := by
  intro there
  obtain ⟨c, member, zero⟩ := List.mem_flatMap.1 there
  exact zero_not_mem_encodeChar (fun same => hs (same ▸ member)) zero

end MidiSequencer.Text.Utf8
