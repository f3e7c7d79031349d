import MidiSequencer.Text.Number

/-! # Flag sets

Sets of named bits in a 32-bit word: what a port can do and what kind of port it is. Bits without a
name may be set; the text of a set lists the names in the order of the table, then what remains.
-/
namespace MidiSequencer

namespace Flags

/-- Every bit of `part` is set. -/
def contains (bits part : UInt32) : Bool :=
  bits &&& part == part

def known (table : List (String × UInt32)) : UInt32 :=
  table.foldl (fun bits row => bits ||| row.2) 0

def named (table : List (String × UInt32)) (bits : UInt32) : List String :=
  (table.filter fun row => contains bits row.2).map Prod.fst

def text (table : List (String × UInt32)) (bits : UInt32) : String :=
  let rest := bits &&& ~~~(known table)
  " | ".intercalate (named table bits ++
    if rest = 0 then [] else [Text.hexadecimal rest.toNat])

end Flags

structure PortCapabilities where
  bits : UInt32
  deriving DecidableEq

namespace PortCapabilities

def table : List (String × UInt32) := [
  ("READ", 0x1), ("WRITE", 0x2), ("SYNC_READ", 0x4), ("SYNC_WRITE", 0x8), ("DUPLEX", 0x10),
  ("SUBS_READ", 0x20), ("SUBS_WRITE", 0x40), ("NO_EXPORT", 0x80)]

def read : PortCapabilities := ⟨0x1⟩
def write : PortCapabilities := ⟨0x2⟩
def subscribeRead : PortCapabilities := ⟨0x20⟩
def subscribeWrite : PortCapabilities := ⟨0x40⟩
def noExport : PortCapabilities := ⟨0x80⟩

instance : OrOp PortCapabilities := ⟨fun a b => ⟨a.bits ||| b.bits⟩⟩

/-- Other clients can read from the port. -/
def readPort : PortCapabilities := read ||| subscribeRead
/-- Other clients can write to the port. -/
def writePort : PortCapabilities := write ||| subscribeWrite
def duplexPort : PortCapabilities := readPort ||| writePort

def contains (a part : PortCapabilities) : Bool := Flags.contains a.bits part.bits

/-- Without the bits that have no name. -/
def truncate (a : PortCapabilities) : PortCapabilities := ⟨a.bits &&& Flags.known table⟩

def text (a : PortCapabilities) : String := Flags.text table a.bits

end PortCapabilities

structure PortType where
  bits : UInt32
  deriving DecidableEq

namespace PortType

def table : List (String × UInt32) := [
  ("SPECIFIC", 0x1), ("MIDI_GENERIC", 0x2), ("MIDI_GM", 0x4), ("MIDI_GS", 0x8), ("MIDI_XG", 0x10),
  ("MIDI_MT32", 0x20), ("MIDI_GM2", 0x40), ("SYNTH", 0x400), ("DIRECT_SAMPLE", 0x800),
  ("SAMPLE", 0x1000), ("HARDWARE", 0x10000), ("SOFTWARE", 0x20000), ("SYNTHESIZER", 0x40000),
  ("PORT", 0x80000), ("APPLICATION", 0x100000)]

def midiGeneric : PortType := ⟨0x2⟩
def hardware : PortType := ⟨0x10000⟩
def software : PortType := ⟨0x20000⟩
def synthesizer : PortType := ⟨0x40000⟩
def application : PortType := ⟨0x100000⟩

instance : OrOp PortType := ⟨fun a b => ⟨a.bits ||| b.bits⟩⟩

/-- The type of a port that a program makes for itself. -/
def program : PortType := midiGeneric ||| software ||| application

def contains (a part : PortType) : Bool := Flags.contains a.bits part.bits

def truncate (a : PortType) : PortType := ⟨a.bits &&& Flags.known table⟩

def text (a : PortType) : String := Flags.text table a.bits

end PortType

end MidiSequencer
