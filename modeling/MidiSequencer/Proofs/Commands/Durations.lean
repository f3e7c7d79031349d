import Mathlib.Algebra.Order.Field.Rat
import Mathlib.Algebra.Order.Ring.Abs
import Mathlib.Tactic.Linarith
import Mathlib.Tactic.NormNum
import Mathlib.Tactic.Ring
import MidiSequencer.Cli.Perform

/-! # Timeouts given in seconds

A number of seconds is a timeout if it is finite, not below zero and below 2^64; it is taken to the
nearest nanosecond. Other numbers are refused, but for those of 2^64 seconds or more, over which the
program breaks down. -/
namespace MidiSequencer

namespace Double

def value? : Double → Option ℚ
  | finite negative m e => some ((if negative then -1 else 1) * (m * 2 ^ e))
  | _ => none

theorem scaled_pos {base : Nat} (hb : 0 < base) (n : Nat) (e : Int) : 0 < (scaled base n e).2 :=
  Nat.pow_pos hb

theorem scaled_value {base : Nat} (hb : 0 < base) (n : Nat) (e : Int) :
    ((scaled base n e).1 : ℚ) = n * base ^ e * (scaled base n e).2 := by
  have nonzero : (base : ℚ) ≠ 0 := Nat.cast_ne_zero.2 hb.ne'
  have apart : e + (-e).toNat = e.toNat := by omega
  show ((n * base ^ e.toNat : Nat) : ℚ) = n * base ^ e * ((base ^ (-e).toNat : Nat) : ℚ)
  push_cast
  rw [mul_assoc, ← zpow_natCast, ← zpow_natCast, ← zpow_add₀ nonzero, apart]

theorem roundDiv_cases (n : Nat) {d : Nat} (hd : 0 < d) :
    roundDiv n d = n / d ∧ 2 * (n % d) ≤ d ∨ roundDiv n d = n / d + 1 ∧ d ≤ 2 * (n % d) := by
  have rest := Nat.mod_lt n hd
  simp only [roundDiv]
  split
  · exact .inl ⟨rfl, by omega⟩
  · split
    · exact .inr ⟨rfl, by omega⟩
    · omega

theorem roundDiv_near (n : Nat) {d : Nat} (hd : 0 < d) :
    |(roundDiv n d : ℚ) * d - n| ≤ d / 2 := by
  have division : (n : ℚ) = d * (n / d : Nat) + (n % d : Nat) := by
    exact_mod_cast (Nat.div_add_mod n d).symm
  have above : (0 : ℚ) ≤ (n % d : Nat) := Nat.cast_nonneg _
  have below : ((n % d : Nat) : ℚ) ≤ d := by exact_mod_cast (Nat.mod_lt n hd).le
  rw [abs_le]
  rcases roundDiv_cases n hd with ⟨rounded, half⟩ | ⟨rounded, half⟩
  · have half : 2 * ((n % d : Nat) : ℚ) ≤ d := by exact_mod_cast half
    rw [rounded]
    constructor <;> linarith
  · have half : (d : ℚ) ≤ 2 * (n % d : Nat) := by exact_mod_cast half
    rw [rounded]
    push_cast
    constructor <;> linarith

variable {x : Double} {v : ℚ}

theorem size_nonneg (m : Nat) (e : Int) : (0 : ℚ) ≤ m * 2 ^ e :=
  mul_nonneg (Nat.cast_nonneg m) (zpow_nonneg zero_le_two e)

theorem value?_cases (h : x.value? = some v) : ∃ negative m e, x = finite negative m e ∧
    v = (if negative then -1 else 1) * (m * 2 ^ e) ∧ |v| = m * 2 ^ e := by
  cases x with
  | finite negative m e =>
    obtain rfl := Option.some.inj h
    refine ⟨negative, m, e, rfl, rfl, ?_⟩
    cases negative with
    | false => rw [if_neg Bool.false_ne_true, one_mul, abs_of_nonneg (size_nonneg m e)]
    | true => rw [if_pos rfl, neg_one_mul, abs_neg, abs_of_nonneg (size_nonneg m e)]
  | _ => cases h

theorem isNonNegative_iff (h : x.value? = some v) : x.isNonNegative = true ↔ 0 ≤ v := by
  obtain ⟨negative, m, e, rfl, rfl, -⟩ := value?_cases h
  have power : (2 : ℚ) ^ e ≠ 0 := zpow_ne_zero e two_ne_zero
  cases negative with
  | false => simpa [isNonNegative] using size_nonneg m e
  | true =>
    have zero : (0 : ℚ) ≤ -1 * (m * 2 ^ e) ↔ (m : ℚ) * 2 ^ e = 0 := by
      rw [neg_one_mul, neg_nonneg]
      exact ⟨fun h => le_antisymm h (size_nonneg m e), le_of_eq⟩
    rw [if_pos rfl, zero, mul_eq_zero, or_iff_left power, Nat.cast_eq_zero]
    exact beq_iff_eq

theorem isBelow_iff (h : x.value? = some v) (limit : Nat) :
    x.isBelow limit = true ↔ |v| < limit := by
  obtain ⟨negative, m, e, rfl, -, size⟩ := value?_cases h
  have bottom : (0 : ℚ) < (scaled 2 m e).2 := Nat.cast_pos.2 (scaled_pos two_pos m e)
  have top : ((scaled 2 m e).1 : ℚ) = m * 2 ^ e * (scaled 2 m e).2 := scaled_value two_pos m e
  have compared : (finite negative m e).isBelow limit = true ↔
      (scaled 2 m e).1 < limit * (scaled 2 m e).2 := decide_eq_true_iff
  rw [compared, size, ← Nat.cast_lt (α := ℚ), top, Nat.cast_mul]
  exact mul_lt_mul_iff_left₀ bottom

theorem roundScaled_near (h : x.value? = some v) (scale : Nat) :
    ∃ n, x.roundScaled scale = some n ∧ |n - |v| * scale| ≤ 1 / 2 := by
  obtain ⟨negative, m, e, rfl, -, size⟩ := value?_cases h
  generalize fraction : scaled 2 (scale * m) e = f
  have positive : 0 < f.2 := fraction ▸ scaled_pos two_pos _ e
  have bottom : (0 : ℚ) < f.2 := Nat.cast_pos.2 positive
  have top : (f.1 : ℚ) = |v| * scale * f.2 := by
    have value := scaled_value two_pos (scale * m) e
    rw [fraction] at value
    rw [value, size]
    push_cast
    ring
  refine ⟨roundDiv f.1 f.2, by rw [roundScaled, fraction], ?_⟩
  have near := roundDiv_near f.1 positive
  rw [top, ← sub_mul, abs_mul, abs_of_pos bottom] at near
  refine le_of_mul_le_mul_right ?_ bottom
  linarith

theorem roundScaled_eq_none (h : x.value? = none) (scale : Nat) : x.roundScaled scale = none := by
  cases x with
  | finite negative m e => cases h
  | _ => rfl

end Double

namespace Cli.DumpOptions

/-- What is made of a timeout. -/
inductive Takes : Option Double → Except Failure (Option Duration) → Prop where
  | unlimited : Takes none (.ok none)
  | nearest {seconds : Double} {v : ℚ} {d : Duration} : seconds.value? = some v → 0 ≤ v →
      v < 2 ^ 64 → |(d : Nat) - v * 10 ^ 9| ≤ 1 / 2 → Takes (some seconds) (.ok (some d))
  | refused {seconds : Double} : (∀ v, seconds.value? = some v → v < 0) →
      Takes (some seconds) (.error (.timeout seconds))
  | overlong {seconds : Double} {v : ℚ} : seconds.value? = some v → 2 ^ 64 ≤ v →
      Takes (some seconds) (.error .overlong)

theorem Takes.exitCode_iff {timeout : Option Double} {failure : Failure}
    (h : Takes timeout (.error failure)) : failure.exitCode = 101 ↔
      ∃ seconds v, timeout = some seconds ∧ seconds.value? = some v ∧ 2 ^ 64 ≤ v := by
  cases h with
  | refused bad =>
    constructor
    · exact fun exit => by cases exit
    · rintro ⟨seconds, v, ⟨⟩, finite, long⟩
      have negative := bad v finite
      linarith
  | overlong finite long => exact ⟨fun _ => ⟨_, _, rfl, finite, long⟩, fun _ => rfl⟩

theorem takes_duration (o : DumpOptions) : Takes o.timeout o.duration := by
  unfold duration
  cases o.timeout with
  | none => exact .unlimited
  | some seconds =>
    cases finite : seconds.value? with
    | none =>
      simp only [Double.roundScaled_eq_none finite]
      exact .refused fun v h => by cases finite.symm.trans h
    | some v =>
      obtain ⟨d, rounded, near⟩ := Double.roundScaled_near finite 1000000000
      have below := Double.isBelow_iff finite UInt64.size
      have sign := Double.isNonNegative_iff finite
      simp only [rounded]
      split
      · next nonneg =>
        rw [sign] at nonneg
        rw [abs_of_nonneg nonneg] at below near
        split
        · next short => exact .nearest finite nonneg (below.1 short) near
        · next long => exact .overlong finite (not_lt.1 (mt below.2 long))
      · next negative =>
        refine .refused fun w h => ?_
        obtain rfl := Option.some.inj (finite.symm.trans h)
        exact not_le.1 (mt sign.2 negative)

/-- The greatest number below 2^64, and 2^64. -/
example : duration { timeout := some (.finite false 9007199254740991 11) } =
      .ok (some 18446744073709549568000000000) ∧
    duration { timeout := some (.finite false 4503599627370496 12) } = .error .overlong := by
  decide

end Cli.DumpOptions

end MidiSequencer
