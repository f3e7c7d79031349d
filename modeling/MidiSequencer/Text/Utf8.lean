/-! # Text from bytes

UTF-8, written from characters and read from bytes that need not be well formed: each longest start
of a character that the next byte does not continue becomes one replacement character, and so does
each byte that cannot start a character.
-/
namespace MidiSequencer.Text.Utf8

def encodeChar (c : Char) : List UInt8 :=
  let n := c.toNat
  if n < 0x80 then [UInt8.ofNat n]
  else if n < 0x800 then [UInt8.ofNat (0xC0 + n / 64), UInt8.ofNat (0x80 + n % 64)]
  else if n < 0x10000 then
    [UInt8.ofNat (0xE0 + n / 4096), UInt8.ofNat (0x80 + n / 64 % 64), UInt8.ofNat (0x80 + n % 64)]
  else
    [UInt8.ofNat (0xF0 + n / 262144), UInt8.ofNat (0x80 + n / 4096 % 64),
      UInt8.ofNat (0x80 + n / 64 % 64), UInt8.ofNat (0x80 + n % 64)]

def encode (s : List Char) : List UInt8 :=
  s.flatMap encodeChar

/-- What the bytes read so far leave open: nothing, or a character of which `more + 1` bytes are
missing, the next of them between `low` and `high`. -/
inductive Pending where
  | none
  | some (value more low high : Nat)

def replacement : Char := '\uFFFD'

def start (b : Nat) : List Char × Pending :=
  if b < 0x80 then ([Char.ofNat b], .none)
  else if 0xC2 ≤ b && b ≤ 0xDF then ([], .some (b - 0xC0) 0 0x80 0xBF)
  else if 0xE0 ≤ b && b ≤ 0xEF then
    ([], .some (b - 0xE0) 1 (if b = 0xE0 then 0xA0 else 0x80) (if b = 0xED then 0x9F else 0xBF))
  else if 0xF0 ≤ b && b ≤ 0xF4 then
    ([], .some (b - 0xF0) 2 (if b = 0xF0 then 0x90 else 0x80) (if b = 0xF4 then 0x8F else 0xBF))
  else ([replacement], .none)

def step : Pending → Nat → List Char × Pending
  | .none, b => start b
  | .some value more low high, b =>
    if low ≤ b && b ≤ high then
      match more with
      | 0 => ([Char.ofNat (value * 64 + (b - 0x80))], .none)
      | n + 1 => ([], .some (value * 64 + (b - 0x80)) n 0x80 0xBF)
    else (replacement :: (start b).1, (start b).2)

def decodeFrom : Pending → List UInt8 → List Char
  | .none, [] => []
  | .some .., [] => [replacement]
  | p, b :: bs => (step p b.toNat).1 ++ decodeFrom (step p b.toNat).2 bs

def decode (bytes : List UInt8) : List Char :=
  decodeFrom .none bytes

end MidiSequencer.Text.Utf8
