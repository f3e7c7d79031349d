import MidiSequencer.Address
import MidiSequencer.Event.Kind

/-! # Events

A sequencer event by itself. No destination means all subscribers of the source port, no queue means
direct delivery, and a time stamp has a meaning only together with a queue.
-/
namespace MidiSequencer

structure RealTime where
  seconds : UInt32
  nanoseconds : UInt32
  deriving DecidableEq

inductive Timestamp where
  | tick (tick : UInt32)
  | real (time : RealTime)
  deriving DecidableEq

structure ResultData where
  eventType : Int32
  result : Int32
  deriving DecidableEq

structure NoteData where
  channel : UInt8 := 0
  note : UInt8 := 0
  velocity : UInt8 := 0
  offVelocity : UInt8 := 0
  duration : UInt32 := 0
  deriving DecidableEq

structure ControlData where
  channel : UInt8 := 0
  param : UInt32 := 0
  value : Int32 := 0
  deriving DecidableEq

inductive QueueParam where
  | value (value : Int32)
  | position (tick : UInt32)
  | time (time : RealTime)
  | skew (value base : UInt32)
  deriving DecidableEq

structure QueueData where
  queue : UInt8
  param : QueueParam
  deriving DecidableEq

/-- The two ends of a route. -/
structure Link where
  sender : Address
  dest : Address
  deriving DecidableEq

inductive EventData where
  | result (kind : ResultKind) (data : ResultData)
  | note (kind : NoteKind) (data : NoteData)
  | control (kind : ControlKind) (data : ControlData)
  | queue (kind : QueueKind) (data : QueueData)
  | signal (kind : SignalKind)
  | endpoint (kind : EndpointKind) (address : Address)
  | link (kind : LinkKind) (link : Link)
  | sysEx (bytes : List UInt8)
  | generic (code : UInt8)
  deriving DecidableEq

namespace EventData

def kind : EventData → Kind
  | result k _ => .result k
  | note k _ => .note k
  | control k _ => .control k
  | queue k _ => .queue k
  | signal k => .signal k
  | endpoint k _ => .endpoint k
  | link k _ => .link k
  | sysEx _ => .sysEx
  | generic c => .other c

end EventData

structure Event where
  data : EventData
  source : Option Address := none
  dest : Option Address := none
  queue : Option UInt8 := none
  time : Option Timestamp := none
  relative : Bool := false
  highPriority : Bool := false
  tag : UInt8 := 0
  deriving DecidableEq

namespace Event

def kind (e : Event) : Kind := e.data.kind

def noteOn (channel note velocity : UInt8) : Event :=
  { data := .note .noteOn { channel, note, velocity } }

def noteOff (channel note velocity : UInt8) : Event :=
  { data := .note .noteOff { channel, note, velocity } }

def controlChange (channel : UInt8) (param : UInt32) (value : Int32) : Event :=
  { data := .control .controlChange { channel, param, value } }

def withDest (e : Event) (dest : Address) : Event :=
  { e with dest := some dest }

def withSource (e : Event) (source : Address) : Event :=
  { e with source := some source }

def scheduled (e : Event) (queue : UInt8) (time : Timestamp) : Event :=
  { e with queue := some queue, time := some time }

end Event

end MidiSequencer
