import MidiSequencer.Event.Codec

/-! # What comes back of an event

An event that is written into a record and read back is normalised. The normal form is stated on
events alone: the route wins over the event's own fields, the marks for direct delivery and for all
subscribers are no values, and a queue parameter takes the shape of its kind. -/
namespace MidiSequencer

namespace QueueParam

/-- The words of a parameter; the second one is zero where the shape has only one. -/
def words : QueueParam → UInt32 × UInt32
  | value v => (v.toUInt32, 0)
  | position tick => (tick, 0)
  | time t => (t.seconds, t.nanoseconds)
  | skew v base => (v, base)

def shaped (kind : QueueKind) (words : UInt32 × UInt32) : QueueParam :=
  match kind with
  | .setPositionTick => position words.1
  | .setPositionTime => time ⟨words.1, words.2⟩
  | .queueSkew => skew words.1 words.2
  | _ => value words.1.toInt32

theorem ofWords_toWords (kind : QueueKind) (p : QueueParam) :
    ofWords kind p.toWords.1 p.toWords.2 = shaped kind p.words := by
  cases kind <;> cases p <;>
    simp [ofWords, toWords, shaped, words, RealTime.ofWords, RealTime.toWords, Word.toInt32,
      Word.ofInt32]

end QueueParam

namespace EventData

def zero : Kind → EventData
  | .result k => result k ⟨0, 0⟩
  | .note k => note k {}
  | .control k => control k {}
  | .queue k => queue k ⟨0, .shaped k (0, 0)⟩
  | .signal k => signal k
  | .endpoint k => endpoint k ⟨0, 0⟩
  | .link k => link k ⟨⟨0, 0⟩, ⟨0, 0⟩⟩
  | .sysEx => sysEx []
  | .other code => generic code

/-- The data of an event as a reader sees it. A length is stated in 32 bits, and a type number with
a decoder of its own is never generic. -/
def normal : EventData → EventData
  | queue k d => queue k { d with param := .shaped k d.param.words }
  | sysEx bytes => sysEx (bytes.take (bytes.length % UInt32.size))
  | generic code => zero (.ofCode code)
  | d => d

end EventData

namespace Event

/-- The queue of a routed event; 253 stands for none. -/
def normalQueue (e : Event) (route : Route) : Option UInt8 :=
  (route.queue <|> e.queue).filter (· != 253)

/-- The destination of a routed event; client 254 stands for all subscribers. -/
def normalDest (e : Event) (route : Route) : Option Address :=
  (route.dest <|> e.dest).filter (·.client != 254)

def normalSource (e : Event) (route : Route) : Address :=
  let source := e.source.getD ⟨0, 0⟩
  ⟨source.client, route.port.getD source.port⟩

def normal (e : Event) (route : Route := {}) : Event :=
  { e with
    data := e.data.normal
    source := some (e.normalSource route)
    dest := e.normalDest route
    queue := e.normalQueue route
    time := (e.normalQueue route).map fun _ => e.time.getD (.tick 0) }

end Event

/-! Each layout by itself. -/

theorem ResultData.decode_encode (d : ResultData) : decode d.encode = d := by
  simp [decode, encode]

theorem NoteData.decode_encode (d : NoteData) : decode d.encode = d := by
  simp [decode, encode]

theorem ControlData.decode_encode (d : ControlData) : decode d.encode = d := by
  simp [decode, encode]

theorem QueueData.decode_encode (kind : QueueKind) (d : QueueData) :
    decode kind d.encode = { d with param := .shaped kind d.param.words } := by
  simp [decode, encode, QueueParam.ofWords_toWords]

theorem Link.decode_encode (l : Link) : decode l.encode = l := by
  simp [decode, encode]

namespace Record

theorem decodeAs_of_zero {r : Record} (hd : r.data = {}) (hp : r.payload = []) (kind : Kind) :
    r.decodeAs kind = .zero kind := by
  cases kind with
  | queue k => cases k <;> simp [decodeAs, hd] <;> rfl
  | sysEx => simp [decodeAs, hp, EventData.zero]
  | _ =>
    simp only [decodeAs, hd]
    rfl

theorem queue_of_getD (q : Option UInt8) :
    (if q.getD directQueue = directQueue then none else some (q.getD directQueue)) =
      q.filter (· != 253) := by
  cases q with
  | none => rfl
  | some q => by_cases h : q = directQueue <;> simp_all [directQueue, Option.filter]

theorem dest_of_getD (a : Option Address) :
    (if (a.getD Address.allSubscribers).client = Address.subscribers then none
      else some (a.getD Address.allSubscribers)) = a.filter (·.client != 254) := by
  cases a with
  | none => rfl
  | some a =>
    by_cases h : a.client = Address.subscribers <;> simp_all [Address.subscribers, Option.filter]

/-- The length bits and the three marks lie in different bits of the byte. -/
theorem flag_bits : ∀ varies relative high real : Bool,
    let flags : UInt8 :=
      (if varies then variableLength else fixedLength) |||
      (if relative then relativeFlag else 0) |||
      (if high then highPriorityFlag else 0) |||
      (if real then realTimeFlag else 0)
    (flags &&& lengthMask == variableLength) = varies ∧
    (flags &&& relativeFlag != 0) = relative ∧
    (flags &&& highPriorityFlag != 0) = high ∧
    (flags &&& realTimeFlag != 0) = real := by
  decide

end Record

namespace Event

variable (e : Event) (route : Route)

theorem isVariable_encode : (e.encode route).isVariable = e.data.isVariable :=
  (Record.flag_bits _ _ _ _).1

theorem relative_encode : (e.encode route).hasFlag Record.relativeFlag = e.relative :=
  (Record.flag_bits _ _ _ _).2.1

theorem highPriority_encode :
    (e.encode route).hasFlag Record.highPriorityFlag = e.highPriority :=
  (Record.flag_bits _ _ _ _).2.2.1

theorem realTime_encode :
    (e.encode route).hasFlag Record.realTimeFlag = e.time.any Timestamp.isReal :=
  (Record.flag_bits _ _ _ _).2.2.2

theorem decodeTime_encode : (e.encode route).decodeTime = e.time.getD (.tick 0) := by
  rw [Record.decodeTime, realTime_encode]
  cases h : e.time with
  | none => simp [encode, h]
  | some t =>
    cases t with
    | tick n => simp [encode, h, Timestamp.isReal, Timestamp.encode]
    | real t =>
      simp [encode, h, Timestamp.isReal, Timestamp.encode, RealTime.ofWords, RealTime.toWords]

theorem payload_encode_sysEx {bytes : List UInt8} (h : e.data = .sysEx bytes) :
    (e.encode route).payload = bytes.take (bytes.length % UInt32.size) := by
  have hv : (e.encode route).isVariable = true := by
    rw [isVariable_encode, h]
    rfl
  rw [Record.payload, if_pos hv]
  simp [encode, h, EventData.ext, EventData.encode, Record.statedLength]

theorem ofCode_type_encode (h : ∀ code, e.data ≠ .generic code) :
    Kind.ofCode (e.encode route).type = e.kind := by
  apply Kind.ofCode_code_of_ne
  intro code hk
  cases hd : e.data with
  | generic c => exact h c hd
  | _ => simp [Event.kind, EventData.kind, hd] at hk

theorem decodeData_encode : (e.encode route).decodeData = e.data.normal := by
  rw [Record.decodeData]
  cases h : e.data with
  | generic code =>
    have hp : (e.encode route).payload = [] := by
      rw [Record.payload, isVariable_encode, h]
      rfl
    have ht : (e.encode route).type = code := by
      simp [encode, Event.kind, EventData.kind, h, Kind.code]
    rw [Record.decodeAs_of_zero (by simp [encode, h, EventData.encode]) hp, ht]
    rfl
  | sysEx bytes =>
    rw [ofCode_type_encode e route (by simp [h])]
    simp [Event.kind, EventData.kind, h, Record.decodeAs, payload_encode_sysEx e route h,
      EventData.normal]
  | _ =>
    rw [ofCode_type_encode e route (by simp [h])]
    simp [Event.kind, EventData.kind, h, encode, EventData.encode, Record.decodeAs,
      EventData.normal, ResultData.decode_encode, NoteData.decode_encode,
      ControlData.decode_encode, QueueData.decode_encode, Link.decode_encode]

theorem decode_encode : (e.encode route).decode = e.normal route := by
  have hq : (if (e.encode route).queue = Record.directQueue then none
      else some (e.encode route).queue) = e.normalQueue route :=
    Record.queue_of_getD _
  have hd : (if (e.encode route).dest.client = Address.subscribers then none
      else some (e.encode route).dest) = e.normalDest route :=
    Record.dest_of_getD _
  have ht : (if (e.encode route).queue = Record.directQueue then none
      else some (e.encode route).decodeTime) =
      (e.normalQueue route).map fun _ => e.time.getD (.tick 0) := by
    rw [← hq, decodeTime_encode]
    split <;> rfl
  simp only [Record.decode, normal, decodeData_encode, hq, hd, ht, relative_encode,
    highPriority_encode]
  rfl

/-- Every field of what is read, for every event and every route. -/
theorem round_trip_normal_form :
    (e.encode route).decode =
      { data := e.data.normal
        source := some ⟨(e.source.getD ⟨0, 0⟩).client,
          route.port.getD (e.source.getD ⟨0, 0⟩).port⟩
        dest := (route.dest <|> e.dest).filter (·.client != 254)
        queue := (route.queue <|> e.queue).filter (· != 253)
        time := ((route.queue <|> e.queue).filter (· != 253)).map fun _ => e.time.getD (.tick 0)
        relative := e.relative
        highPriority := e.highPriority
        tag := e.tag } := by
  rw [decode_encode]
  rfl

/-- A parameter in the shape of another kind is read in the shape of its own. -/
example : ({ data := .queue .queueSkew ⟨1, .value (-1)⟩ } : Event).encode.decode.data =
    .queue .queueSkew ⟨1, .skew 0xffffffff 0⟩ := by
  decide

end Event

end MidiSequencer
