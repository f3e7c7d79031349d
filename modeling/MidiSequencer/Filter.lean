import MidiSequencer.Info

/-! # Choosing and ordering ports

A filter says which ports a listing returns. A sorted listing puts the preferred types of its
direction first, loopback ports after real devices, and then goes by client and port number.
-/
namespace MidiSequencer

/-- The client that loops events back. -/
def midiThrough : String := "Midi Through"

structure PortFilter where
  input : Bool := false
  output : Bool := false
  /-- Every bit of it is set in the type of a port. -/
  portType : PortType := .midiGeneric
  includeSystem : Bool := false
  includeMidiThrough : Bool := true
  includeNoExport : Bool := true
  onlyConnectable : Bool := true
  sort : Bool := true
  deriving DecidableEq

namespace PortFilter

def forInput : PortFilter := { input := true }
def forOutput : PortFilter := { output := true }

def acceptsClient (f : PortFilter) (c : ClientInfo) : Bool :=
  (c.clientId != 0 || f.includeSystem) && (c.name != midiThrough || f.includeMidiThrough)

def readable (f : PortFilter) (p : PortInfo) : Bool :=
  p.canRead && (p.canSubscribeRead || !f.onlyConnectable)

def writable (f : PortFilter) (p : PortInfo) : Bool :=
  p.canWrite && (p.canSubscribeWrite || !f.onlyConnectable)

/-- Asking for both directions is asking for either. -/
def acceptsDirection (f : PortFilter) (p : PortInfo) : Bool :=
  match f.input, f.output with
  | true, false => f.readable p
  | false, true => f.writable p
  | _, _ => f.readable p || f.writable p

def acceptsPort (f : PortFilter) (p : PortInfo) : Bool :=
  p.portType.contains f.portType &&
  (!p.capability.contains .noExport || f.includeNoExport) &&
  f.acceptsDirection p

def readPreferred : List PortType :=
  [.midiGeneric ||| .hardware, .midiGeneric ||| .application, .midiGeneric ||| .software,
    .midiGeneric]

def writePreferred : List PortType :=
  [.midiGeneric ||| .synthesizer ||| .hardware, .midiGeneric ||| .synthesizer,
    .midiGeneric ||| .hardware, .midiGeneric ||| .software, .midiGeneric]

def duplexPreferred : List PortType :=
  [.midiGeneric ||| .hardware, .midiGeneric ||| .synthesizer, .midiGeneric ||| .application,
    .midiGeneric ||| .software, .midiGeneric]

def preferred (f : PortFilter) : List PortType :=
  match f.input, f.output with
  | false, true => writePreferred
  | true, false => readPreferred
  | _, _ => duplexPreferred

end PortFilter

/-- The place of the first preferred type whose bits the port's type all has. -/
def PortInfo.rank (p : PortInfo) (preferred : List PortType) : Nat :=
  preferred.findIdx fun t => p.portType.contains t

/-- What a sorted listing compares, the first component that differs deciding. -/
structure PortKey where
  rank : Nat
  through : Bool
  clientId : Int
  portId : Int
  deriving DecidableEq

namespace PortKey

def le (a b : PortKey) : Bool :=
  if a.rank ≠ b.rank then a.rank < b.rank
  else if a.through ≠ b.through then b.through
  else if a.clientId ≠ b.clientId then a.clientId < b.clientId
  else a.portId ≤ b.portId

end PortKey

def PortInfo.key (p : PortInfo) (preferred : List PortType) : PortKey :=
  ⟨p.rank preferred, p.clientName == midiThrough, p.clientId, p.portId⟩

def PortFilter.inOrder (f : PortFilter) (a b : PortInfo) : Bool :=
  (a.key f.preferred).le (b.key f.preferred)

end MidiSequencer
