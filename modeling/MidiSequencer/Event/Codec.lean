import MidiSequencer.Event
import MidiSequencer.Event.Record

/-! # Events as native records

Writing an event into a record and reading it back. The type number chooses the layout that is read;
a queue parameter is written by its own shape. The caller's queue, port and destination win over the
event's own.
-/
namespace MidiSequencer

def RealTime.toWords (t : RealTime) : Word × Word :=
  (.ofUInt32 t.seconds, .ofUInt32 t.nanoseconds)

def RealTime.ofWords (seconds nanoseconds : Word) : RealTime :=
  ⟨seconds.toUInt32, nanoseconds.toUInt32⟩

namespace ResultData

def encode (d : ResultData) : Payload :=
  { first := .ofInt32 d.eventType, second := .ofInt32 d.result }

def decode (p : Payload) : ResultData :=
  ⟨p.first.toInt32, p.second.toInt32⟩

end ResultData

namespace NoteData

def encode (d : NoteData) : Payload :=
  { first := ⟨d.channel, d.note, d.velocity, d.offVelocity⟩, second := .ofUInt32 d.duration }

def decode (p : Payload) : NoteData :=
  ⟨p.first.b0, p.first.b1, p.first.b2, p.first.b3, p.second.toUInt32⟩

end NoteData

namespace ControlData

def encode (d : ControlData) : Payload :=
  { first := ⟨d.channel, 0, 0, 0⟩, second := .ofUInt32 d.param, third := .ofInt32 d.value }

def decode (p : Payload) : ControlData :=
  ⟨p.first.b0, p.second.toUInt32, p.third.toInt32⟩

end ControlData

namespace QueueParam

/-- The one or two words that a parameter takes. -/
def toWords : QueueParam → Word × Word
  | value v => (.ofInt32 v, .zero)
  | position tick => (.ofUInt32 tick, .zero)
  | time t => t.toWords
  | skew v base => (.ofUInt32 v, .ofUInt32 base)

/-- Each kind reads the words in a shape of its own. -/
def ofWords (kind : QueueKind) (first second : Word) : QueueParam :=
  match kind with
  | .setPositionTick => position first.toUInt32
  | .setPositionTime => time (.ofWords first second)
  | .queueSkew => skew first.toUInt32 second.toUInt32
  | _ => value first.toInt32

end QueueParam

namespace QueueData

def encode (d : QueueData) : Payload :=
  { first := ⟨d.queue, 0, 0, 0⟩, second := d.param.toWords.1, third := d.param.toWords.2 }

def decode (kind : QueueKind) (p : Payload) : QueueData :=
  ⟨p.first.b0, .ofWords kind p.second p.third⟩

end QueueData

namespace Link

def encode (l : Link) : Payload :=
  { first := ⟨l.sender.client, l.sender.port, l.dest.client, l.dest.port⟩ }

def decode (p : Payload) : Link :=
  ⟨⟨p.first.b0, p.first.b1⟩, ⟨p.first.b2, p.first.b3⟩⟩

end Link

namespace EventData

/-- A signal and an event without a decoder have no data. -/
def encode : EventData → Payload
  | result _ d => d.encode
  | note _ d => d.encode
  | control _ d => d.encode
  | queue _ d => d.encode
  | signal _ => {}
  | endpoint _ a => { first := ⟨a.client, a.port, 0, 0⟩ }
  | link _ l => l.encode
  | sysEx bytes => { first := .ofUInt32 (UInt32.ofNat bytes.length) }
  | generic _ => {}

def ext : EventData → Option (List UInt8)
  | sysEx bytes => some bytes
  | _ => none

def isVariable (d : EventData) : Bool := d.ext.isSome

end EventData

namespace Record

/-- The bytes pointed at, as many as stated; none unless the flags say that the length varies. -/
def payload (r : Record) : List UInt8 :=
  if r.isVariable then (r.ext.getD []).take r.statedLength else []

/-- The data in the layout of a kind. -/
def decodeAs (r : Record) : Kind → EventData
  | .result k => .result k (.decode r.data)
  | .note k => .note k (.decode r.data)
  | .control k => .control k (.decode r.data)
  | .queue k => .queue k (.decode k r.data)
  | .signal k => .signal k
  | .endpoint k => .endpoint k ⟨r.data.first.b0, r.data.first.b1⟩
  | .link k => .link k (.decode r.data)
  | .sysEx => .sysEx r.payload
  | .other code => .generic code

def decodeData (r : Record) : EventData := r.decodeAs (.ofCode r.type)

def decodeTime (r : Record) : Timestamp :=
  if r.hasFlag realTimeFlag then .real (.ofWords r.time.first r.time.second)
  else .tick r.time.first.toUInt32

/-- A queue of 253 is direct delivery, and a destination client of 254 all subscribers. -/
def decode (r : Record) : Event :=
  { data := r.decodeData
    source := some r.source
    dest := if r.dest.client = Address.subscribers then none else some r.dest
    queue := if r.queue = directQueue then none else some r.queue
    time := if r.queue = directQueue then none else some r.decodeTime
    relative := r.hasFlag relativeFlag
    highPriority := r.hasFlag highPriorityFlag
    tag := r.tag }

end Record

namespace Timestamp

def encode : Timestamp → Stamp
  | tick t => { first := .ofUInt32 t }
  | real t => { first := t.toWords.1, second := t.toWords.2 }

def isReal : Timestamp → Bool
  | real _ => true
  | tick _ => false

end Timestamp

/-- Where an event goes; what is not given is taken from the event. -/
structure Route where
  queue : Option UInt8 := none
  port : Option UInt8 := none
  dest : Option Address := none
  deriving DecidableEq

namespace Route

def withPort (r : Route) (port : Int) : Route :=
  { r with port := some (Address.lowByte port) }

def withQueue (r : Route) (queue : Int) : Route :=
  { r with queue := some (Address.lowByte queue) }

def withDest (r : Route) (dest : Address) : Route :=
  { r with dest := some dest }

end Route

namespace Event

def flags (e : Event) : UInt8 :=
  (if e.data.isVariable then Record.variableLength else Record.fixedLength) |||
  (if e.relative then Record.relativeFlag else 0) |||
  (if e.highPriority then Record.highPriorityFlag else 0) |||
  (if e.time.any Timestamp.isReal then Record.realTimeFlag else 0)

def encode (e : Event) (route : Route := {}) : Record :=
  let source := e.source.getD ⟨0, 0⟩
  { type := e.kind.code
    flags := e.flags
    tag := e.tag
    queue := (route.queue <|> e.queue).getD Record.directQueue
    time := (e.time.map Timestamp.encode).getD {}
    source := { source with port := route.port.getD source.port }
    dest := (route.dest <|> e.dest).getD Address.allSubscribers
    data := e.data.encode
    ext := e.data.ext }

end Event

end MidiSequencer
