import MidiSequencer.Address

/-! # Native records

The fixed-size record in which the sequencer exchanges events: six words of four bytes next to the
common fields, numbers in little endian order, and for a record of variable length the bytes it
points at.
-/
namespace MidiSequencer

/-- Four bytes, the lowest first. -/
structure Word where
  b0 : UInt8
  b1 : UInt8
  b2 : UInt8
  b3 : UInt8
  deriving DecidableEq

namespace Word

def zero : Word := ⟨0, 0, 0, 0⟩

def ofUInt32 (v : UInt32) : Word :=
  ⟨UInt8.ofNat v.toNat, UInt8.ofNat (v.toNat / 256), UInt8.ofNat (v.toNat / 65536),
    UInt8.ofNat (v.toNat / 16777216)⟩

def toUInt32 (w : Word) : UInt32 :=
  UInt32.ofNat (w.b0.toNat + 256 * w.b1.toNat + 65536 * w.b2.toNat + 16777216 * w.b3.toNat)

def ofInt32 (v : Int32) : Word := ofUInt32 v.toUInt32

def toInt32 (w : Word) : Int32 := w.toUInt32.toInt32

@[simp] theorem toUInt32_ofUInt32 (v : UInt32) : (ofUInt32 v).toUInt32 = v := by
  have h := v.toNat_lt
  apply UInt32.toNat.inj
  simp only [ofUInt32, toUInt32, UInt8.toNat_ofNat', UInt32.toNat_ofNat']
  omega

@[simp] theorem ofUInt32_toUInt32 (w : Word) : ofUInt32 w.toUInt32 = w := by
  obtain ⟨a, b, c, d⟩ := w
  have ha := a.toNat_lt
  have hb := b.toNat_lt
  have hc := c.toNat_lt
  have hd := d.toNat_lt
  simp only [ofUInt32, toUInt32, UInt32.toNat_ofNat', mk.injEq]
  refine ⟨?_, ?_, ?_, ?_⟩ <;> (apply UInt8.toNat.inj; simp only [UInt8.toNat_ofNat']; omega)

@[simp] theorem toInt32_ofInt32 (v : Int32) : (ofInt32 v).toInt32 = v := by
  simp [ofInt32, toInt32, toUInt32_ofUInt32]

@[simp] theorem ofInt32_toInt32 (w : Word) : ofInt32 w.toInt32 = w := by
  simp [ofInt32, toInt32, ofUInt32_toUInt32]

@[simp] theorem toUInt32_zero : zero.toUInt32 = 0 := rfl

@[simp] theorem toInt32_zero : zero.toInt32 = 0 := rfl

def bytes (w : Word) : List UInt8 := [w.b0, w.b1, w.b2, w.b3]

end Word

/-- Eight bytes of time. -/
structure Stamp where
  first : Word := .zero
  second : Word := .zero
  deriving DecidableEq

/-- Twelve bytes of data. -/
structure Payload where
  first : Word := .zero
  second : Word := .zero
  third : Word := .zero
  deriving DecidableEq

/-- In a record of variable length the last eight data bytes are a pointer; `ext` is what it points
at, and `none` is the null pointer. -/
structure Record where
  type : UInt8
  flags : UInt8
  tag : UInt8
  queue : UInt8
  time : Stamp
  source : Address
  dest : Address
  data : Payload
  ext : Option (List UInt8)
  deriving DecidableEq

namespace Record

def realTimeFlag : UInt8 := 1
def relativeFlag : UInt8 := 2
def lengthMask : UInt8 := 12
def fixedLength : UInt8 := 0
def variableLength : UInt8 := 4
def highPriorityFlag : UInt8 := 16

def directQueue : UInt8 := 253

def hasFlag (r : Record) (flag : UInt8) : Bool := r.flags &&& flag != 0

def isVariable (r : Record) : Bool := r.flags &&& lengthMask == variableLength

/-- The length that the data state, of the bytes pointed at. -/
def statedLength (r : Record) : Nat := r.data.first.toUInt32.toNat

end Record

end MidiSequencer
