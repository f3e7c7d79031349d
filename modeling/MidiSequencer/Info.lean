import MidiSequencer.Address
import MidiSequencer.Flags

/-! # Snapshots of clients and ports

What the sequencer tells about a client or a port at one moment, and the descriptor of a route
between two ports.
-/
namespace MidiSequencer

inductive ClientType where
  | user | kernel
  deriving DecidableEq

namespace ClientType

def ofInt? : Int → Option ClientType
  | 1 => some user
  | 2 => some kernel
  | _ => none

def name : ClientType → String
  | user => "User"
  | kernel => "Kernel"

end ClientType

structure ClientInfo where
  clientId : Int := 0
  name : String := ""
  broadcastFilter : Bool := false
  errorBounce : Bool := false
  clientType : Option ClientType := none
  numPorts : Int := 0
  eventLost : Int := 0
  card : Option Int := none
  pid : Option Int := none
  deriving DecidableEq

namespace ClientInfo

/-- Cards are numbered from 0. -/
def cardOfInt (n : Int) : Option Int := if 0 ≤ n then some n else none

/-- Processes are numbered from 1. -/
def pidOfInt (n : Int) : Option Int := if 0 < n then some n else none

end ClientInfo

/-- The field `clientName` is filled in by a listing only. -/
structure PortInfo where
  clientId : Int := 0
  portId : Int := 0
  name : String := ""
  capability : PortCapabilities := ⟨0⟩
  portType : PortType := ⟨0⟩
  midiChannels : Int := 0
  midiVoices : Int := 0
  synthVoices : Int := 0
  readUse : Int := 0
  writeUse : Int := 0
  portSpecified : Bool := false
  timestamping : Bool := false
  timestampReal : Bool := false
  timestampQueue : Int := 0
  clientName : String := ""
  deriving DecidableEq

namespace PortInfo

def address (p : PortInfo) : Address := Address.ofIds p.clientId p.portId

def canRead (p : PortInfo) : Bool := p.capability.contains .read
def canWrite (p : PortInfo) : Bool := p.capability.contains .write
def canSubscribeRead (p : PortInfo) : Bool := p.capability.contains .subscribeRead
def canSubscribeWrite (p : PortInfo) : Bool := p.capability.contains .subscribeWrite

end PortInfo

structure SubscribeOptions where
  queue : Option UInt8 := none
  exclusive : Bool := false
  timeUpdate : Bool := false
  timeReal : Bool := false
  deriving DecidableEq

structure Subscription where
  sender : Address
  dest : Address
  options : SubscribeOptions
  deriving DecidableEq

/-- Routes are told apart by their ends alone. -/
def Subscription.sameEnds (a b : Subscription) : Bool :=
  a.sender == b.sender && a.dest == b.dest

end MidiSequencer
