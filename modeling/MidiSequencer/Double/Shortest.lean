import MidiSequencer.Double
import MidiSequencer.Text.Column

/-! # The shortest decimal of a number

Of the decimals that are read as a given number, the one on the coarsest grid of powers of ten, and
on that grid the nearest; of two equally near ones the upper. It is written without an exponent.
-/
namespace MidiSequencer

namespace Double

/-- The reals that round to a positive number, by their ends over a common denominator. The ends
belong to them when the significand is even. -/
structure Span where
  low : Nat
  value : Nat
  high : Nat
  denominator : Nat
  closed : Bool

/-- The gap below a power of two is half as wide as the gap above it. -/
def span (m : Nat) (e : Int) : Span :=
  let below := if m = Nat.pow 2 52 ∧ least < e then 1 else 2
  let (unit, denominator) := scaled 2 1 (e - 2)
  { low := (4 * m - below) * unit
    value := 4 * m * unit
    high := (4 * m + 2) * unit
    denominator
    closed := m % 2 == 0 }

/-- A decimal `digits` times ten to the power of `exponent`. -/
structure Decimal where
  digits : Nat
  exponent : Int
  deriving DecidableEq

/-- The decimal as a numerator over the denominator of the span times the second number. -/
def Decimal.over (d : Decimal) (s : Span) : Nat × Nat :=
  let (top, bottom) := scaled 10 d.digits d.exponent
  (top * s.denominator, bottom)

def Span.contains (s : Span) (d : Decimal) : Bool :=
  let (x, scale) := d.over s
  if s.closed then s.low * scale ≤ x && x ≤ s.high * scale
  else s.low * scale < x && x < s.high * scale

/-- The two neighbours of the value on a grid. -/
def Span.neighbours (s : Span) (exponent : Int) : Decimal × Decimal :=
  let (top, bottom) := scaled 10 1 exponent
  let floor := s.value * bottom / (top * s.denominator)
  (⟨floor, exponent⟩, ⟨floor + 1, exponent⟩)

/-- Whether the value lies nearer to the first decimal, which is below it, than to the second. -/
def Span.isNearer (s : Span) (a b : Decimal) : Bool :=
  let (x, scale) := a.over s
  let (y, _) := b.over s
  2 * (s.value * scale) < x + y

def Span.onGrid (s : Span) (exponent : Int) : Option Decimal :=
  let (a, b) := s.neighbours exponent
  match s.contains a, s.contains b with
  | true, true => some (if s.isNearer a b then a else b)
  | true, false => some a
  | false, true => some b
  | false, false => none

/-- The first grid, going down from an exponent, that has a point in the span. -/
def Span.search (s : Span) (exponent : Int) : Nat → Option Decimal
  | 0 => none
  | steps + 1 => (s.onGrid exponent).orElse fun _ => s.search (exponent - 1) steps

/-- All digits of a significand times a power of two. -/
def exact (m : Nat) (e : Int) : Decimal :=
  if 0 ≤ e then ⟨m * Nat.pow 2 e.toNat, 0⟩ else ⟨m * Nat.pow 5 (-e).toNat, e⟩

/-- The search goes from above the greatest number to below the least. -/
def shortest (m : Nat) (e : Int) : Decimal :=
  ((span m e).search 310 700).getD (exact m e)

/-- Zeros fill the places up to the point. -/
def Decimal.text (d : Decimal) : String :=
  let digits := Text.decimal d.digits
  if 0 ≤ d.exponent then digits ++ String.ofList (List.replicate d.exponent.toNat '0')
  else
    let places := (-d.exponent).toNat
    let padded := (Text.padLeft (places + 1) '0' digits).toList
    let whole := padded.length - places
    String.ofList (padded.take whole ++ '.' :: padded.drop whole)

def sign (negative : Bool) : String :=
  if negative then "-" else ""

def text : Double → String
  | nan => "NaN"
  | infinite negative => sign negative ++ "inf"
  | finite negative m e => sign negative ++ if m = 0 then "0" else (shortest m e).text

end Double

end MidiSequencer
