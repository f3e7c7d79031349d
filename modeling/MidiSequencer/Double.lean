import MidiSequencer.Text.Number
import MidiSequencer.Text.Split

/-! # Binary numbers of 64 bits

A finite number is a significand below 2^53 times a power of two whose exponent is not below -1074.
Decimal texts are read as the nearest such number, which is computed exactly.
-/
namespace MidiSequencer

inductive Double where
  | nan
  | infinite (negative : Bool)
  | finite (negative : Bool) (significand : Nat) (exponent : Int)
  deriving DecidableEq

/-- The whole number nearest to `n / d`, of two the even one. -/
def roundDiv (n d : Nat) : Nat :=
  let q := n / d
  let r := n % d
  if 2 * r < d then q else if d < 2 * r then q + 1 else q + q % 2

/-- Numerator and denominator of a whole number times a power of `base`. -/
def scaled (base n : Nat) (exponent : Int) : Nat × Nat :=
  (n * base.pow exponent.toNat, base.pow (-exponent).toNat)

namespace Double

def least : Int := -1074
def greatest : Int := 971

/-- The exponent that leaves 53 bits of `n / d` before the point, as far as it may go down. -/
def exponentFor (n d : Nat) : Int :=
  let e : Int := n.log2 - d.log2 - 53
  let (top, bottom) := scaled 2 n (-e)
  max least (if Nat.pow 2 53 * (d * bottom) ≤ top then e + 1 else e)

/-- The number nearest to `n / d`; what rounds beyond the greatest number is infinite. -/
def nearest (negative : Bool) (n d : Nat) : Double :=
  if n = 0 then finite negative 0 least
  else
    let e := exponentFor n d
    let (top, bottom) := scaled 2 n (-e)
    let m := roundDiv top (d * bottom)
    let (m, e) := if m = Nat.pow 2 53 then (Nat.pow 2 52, e + 1) else (m, e)
    if greatest < e then infinite negative else finite negative m e

/-- A decimal numeral: digits before and after the point, and the power of ten behind them. -/
structure Numeral where
  digits : List Char
  exponent : Int

/-- The place of the first digit before which there are only zeros. -/
def Numeral.magnitude (n : Numeral) : Int :=
  (n.digits.dropWhile (· == '0')).length + n.exponent

/-- Numerals far outside of the range are told by the place of their first digit. -/
def ofNumeral (negative : Bool) (n : Numeral) : Double :=
  if (n.digits.dropWhile (· == '0')).isEmpty || n.magnitude < -330 then finite negative 0 least
  else if 330 < n.magnitude then infinite negative
  else
    let (top, bottom) := scaled 10 (Text.valueOfDigits n.digits) n.exponent
    nearest negative top bottom

/-- Digits with at most one point among them, and an exponent behind the letter `e`. -/
def readNumeral (s : List Char) : Option Numeral := do
  let (mantissa, power) := Text.splitFirst (fun c => c == 'e' || c == 'E') s
  let (whole, fraction) := Text.splitFirst (· == '.') mantissa
  let digits := whole ++ fraction.getD []
  let _ ← Text.readDigits digits
  let exponent ← match power with
    | none => some 0
    | some p => Text.readSigned p
  return ⟨digits, exponent - (fraction.getD []).length⟩

/-- Names are read in any case. -/
def readUnsigned (negative : Bool) (s : List Char) : Option Double :=
  let name := String.ofList (s.map Char.toLower)
  if name = "inf" || name = "infinity" then some (infinite negative)
  else if name = "nan" then some nan
  else (readNumeral s).map (ofNumeral negative)

def read : List Char → Option Double
  | '-' :: s => readUnsigned true s
  | '+' :: s => readUnsigned false s
  | s => readUnsigned false s

/-- Neither negative zero is below zero, nor is a number that is none. -/
def isNonNegative : Double → Bool
  | nan => false
  | infinite negative => !negative
  | finite negative m _ => !negative || m == 0

/-- The size of a finite number in units of 1 / `scale`, rounded. -/
def roundScaled (scale : Nat) : Double → Option Nat
  | finite _ m e =>
    let (top, bottom) := scaled 2 (scale * m) e
    some (roundDiv top bottom)
  | _ => none

/-- Whether a finite number is smaller in size than a whole one. -/
def isBelow (limit : Nat) : Double → Bool
  | finite _ m e =>
    let (top, bottom) := scaled 2 m e
    top < limit * bottom
  | _ => false

end Double

end MidiSequencer
