/-! # Whole numbers as text

Decimal and hexadecimal numerals, and the reading of decimal ones: an optional plus sign, then one
or more ASCII digits, with any count of leading zeros.
-/
namespace MidiSequencer.Text

def decimal (n : Nat) : String :=
  String.ofList (Nat.toDigits 10 n)

/-- The sign is written for negative numbers only. -/
def signed : Int → String
  | .ofNat n => decimal n
  | .negSucc n => "-" ++ decimal (n + 1)

/-- Lower case digits, behind the mark `0x`. -/
def hexadecimal (n : Nat) : String :=
  "0x" ++ String.ofList (Nat.toDigits 16 n)

def isDigit (c : Char) : Bool :=
  '0' ≤ c && c ≤ '9'

def digitValue (c : Char) : Nat :=
  c.toNat - 48

def valueOfDigits (s : List Char) : Nat :=
  s.foldl (fun n c => 10 * n + digitValue c) 0

/-- At least one character, and digits only. -/
def readDigits (s : List Char) : Option Nat :=
  if s.isEmpty || !s.all isDigit then none else some (valueOfDigits s)

def readNumber : List Char → Option Nat
  | '+' :: s => readDigits s
  | s => readDigits s

/-- Either sign may stand in front. -/
def readSigned : List Char → Option Int
  | '-' :: s => (readDigits s).map fun n => -(n : Int)
  | s => (readNumber s).map Int.ofNat

/-- A number that fits into a byte. -/
def readByte (s : List Char) : Option UInt8 :=
  (readNumber s).bind fun n => if n < 256 then some (UInt8.ofNat n) else none

end MidiSequencer.Text
