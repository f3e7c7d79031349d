import MidiSequencer.Proofs.Codec.Canonical

/-! # Events that records stand for

Which events are read from a record at all: those in canonical form, and these are the ones that
come back unchanged when they are written and read. -/
namespace MidiSequencer

inductive QueueParam.Suits : QueueKind → QueueParam → Prop where
  | position (tick : UInt32) : Suits .setPositionTick (.position tick)
  | time (t : RealTime) : Suits .setPositionTime (.time t)
  | skew (v base : UInt32) : Suits .queueSkew (.skew v base)
  | value {kind : QueueKind} (v : Int32)
      (plain : kind ≠ .setPositionTick ∧ kind ≠ .setPositionTime ∧ kind ≠ .queueSkew) :
      Suits kind (.value v)

inductive EventData.Canonical : EventData → Prop where
  | result (kind : ResultKind) (d : ResultData) : Canonical (.result kind d)
  | note (kind : NoteKind) (d : NoteData) : Canonical (.note kind d)
  | control (kind : ControlKind) (d : ControlData) : Canonical (.control kind d)
  | queue (kind : QueueKind) (d : QueueData) (suits : d.param.Suits kind) :
      Canonical (.queue kind d)
  | signal (kind : SignalKind) : Canonical (.signal kind)
  | endpoint (kind : EndpointKind) (a : Address) : Canonical (.endpoint kind a)
  | link (kind : LinkKind) (l : Link) : Canonical (.link kind l)
  | sysEx (bytes : List UInt8) (short : bytes.length < Nat.pow 2 32) : Canonical (.sysEx bytes)
  | generic (code : UInt8) (unknown : ∀ kind ∈ Kind.decoded, kind.code ≠ code) :
      Canonical (.generic code)

/-- No field has a value that stands for something else, and a time comes with a queue. -/
structure Event.Canonical (e : Event) : Prop where
  data : e.data.Canonical
  source : e.source ≠ none
  dest : ∀ a, e.dest = some a → a.client ≠ 254
  queue : e.queue ≠ some 253
  time : e.time = none ↔ e.queue = none

/-- The length that a record of system exclusive data states does not exceed what it points at. -/
def Record.Bounded (r : Record) : Prop :=
  r.type = 130 → r.isVariable = true → r.statedLength ≤ (r.ext.getD []).length

theorem QueueParam.shaped_words_iff {kind : QueueKind} {p : QueueParam} :
    shaped kind p.words = p ↔ p.Suits kind := by
  constructor
  · intro h
    rw [← h]
    cases kind with
    | setPositionTick => exact .position _
    | setPositionTime => exact .time _
    | queueSkew => exact .skew _ _
    | _ => exact .value _ (by decide)
  · rintro (tick | t | ⟨v, base⟩ | ⟨v, notTick, notTime, notSkew⟩)
    · rfl
    · rfl
    · rfl
    · cases kind with
      | setPositionTick => exact absurd rfl notTick
      | setPositionTime => exact absurd rfl notTime
      | queueSkew => exact absurd rfl notSkew
      | _ => simp [shaped, words]

theorem Kind.ofCode_eq_other_iff {code : UInt8} :
    ofCode code = .other code ↔ ∀ kind ∈ decoded, kind.code ≠ code := by
  unfold ofCode
  cases h : decoded.find? (fun kind => kind.code == code) with
  | none => simpa using h
  | some kind =>
    have member := List.mem_of_find?_eq_some h
    have same : kind.code = code := by simpa using List.find?_some h
    constructor
    · intro (other : kind = .other code)
      rw [other] at member
      simp [decoded] at member
    · intro unknown
      exact absurd same (unknown kind member)

namespace EventData

theorem zero_eq_generic_iff {kind : Kind} {code : UInt8} :
    zero kind = generic code ↔ kind = .other code := by
  cases kind <;> simp [zero]

theorem take_stated_eq_self_iff {bytes : List UInt8} :
    bytes.take (bytes.length % UInt32.size) = bytes ↔ bytes.length < Nat.pow 2 32 := by
  have size : UInt32.size = Nat.pow 2 32 := rfl
  rw [size]
  constructor
  · intro h
    have stated : bytes.length % Nat.pow 2 32 < Nat.pow 2 32 := Nat.mod_lt _ (by decide)
    have whole : min (bytes.length % Nat.pow 2 32) bytes.length = bytes.length := by
      rw [← List.length_take, h]
    omega
  · intro h
    rw [Nat.mod_eq_of_lt h, List.take_length]

theorem normal_eq_self_iff {d : EventData} : d.normal = d ↔ d.Canonical := by
  cases d with
  | queue kind d =>
    obtain ⟨number, param⟩ := d
    have shaped : (queue kind ⟨number, param⟩).normal = queue kind ⟨number, param⟩ ↔
        param.Suits kind := by
      rw [← QueueParam.shaped_words_iff]
      simp [normal]
    rw [shaped]
    constructor
    · exact .queue kind ⟨number, param⟩
    · rintro ⟨⟩
      assumption
  | sysEx bytes =>
    have whole : (sysEx bytes).normal = sysEx bytes ↔ bytes.length < Nat.pow 2 32 := by
      rw [← take_stated_eq_self_iff]
      simp [normal]
    rw [whole]
    constructor
    · exact .sysEx bytes
    · rintro ⟨⟩
      assumption
  | generic code =>
    have unknown : (generic code).normal = generic code ↔
        ∀ kind ∈ Kind.decoded, kind.code ≠ code := by
      rw [← Kind.ofCode_eq_other_iff, normal, zero_eq_generic_iff]
    rw [unknown]
    constructor
    · exact .generic code
    · rintro ⟨⟩
      assumption
  | result kind d => exact ⟨fun _ => .result kind d, fun _ => rfl⟩
  | note kind d => exact ⟨fun _ => .note kind d, fun _ => rfl⟩
  | control kind d => exact ⟨fun _ => .control kind d, fun _ => rfl⟩
  | signal kind => exact ⟨fun _ => .signal kind, fun _ => rfl⟩
  | endpoint kind a => exact ⟨fun _ => .endpoint kind a, fun _ => rfl⟩
  | link kind l => exact ⟨fun _ => .link kind l, fun _ => rfl⟩

end EventData

namespace Event

variable {e : Event}

theorem normalQueue_eq_self_iff : e.normalQueue {} = e.queue ↔ e.queue ≠ some 253 := by
  show e.queue.filter (· != 253) = e.queue ↔ _
  cases e.queue with
  | none => simp
  | some q => simp [Option.filter]

theorem normalDest_eq_self_iff :
    e.normalDest {} = e.dest ↔ ∀ a, e.dest = some a → a.client ≠ 254 := by
  show e.dest.filter (·.client != 254) = e.dest ↔ _
  cases e.dest with
  | none => simp
  | some a => simp [Option.filter]

theorem normalSource_eq_self_iff : some (e.normalSource {}) = e.source ↔ e.source ≠ none := by
  show some ⟨(e.source.getD ⟨0, 0⟩).client, (e.source.getD ⟨0, 0⟩).port⟩ = e.source ↔ _
  cases e.source with
  | none => simp
  | some a => simp

theorem normalTime_eq_self_iff :
    (e.queue.map fun _ => e.time.getD (.tick 0)) = e.time ↔ (e.time = none ↔ e.queue = none) := by
  cases e.queue with
  | none => cases e.time <;> simp
  | some q => cases e.time <;> simp

/-- Field by field; the time is read off the queue that is read. -/
theorem normal_eq_self_iff : e.normal = e ↔ e.Canonical := by
  have fields : e.normal = e ↔ e.data.normal = e.data ∧ some (e.normalSource {}) = e.source ∧
      e.normalDest {} = e.dest ∧ e.normalQueue {} = e.queue ∧
      ((e.normalQueue {}).map fun _ => e.time.getD (.tick 0)) = e.time := by
    obtain ⟨data, source, dest, queue, time, relative, highPriority, tag⟩ := e
    simp [normal]
  rw [fields, EventData.normal_eq_self_iff, normalSource_eq_self_iff, normalDest_eq_self_iff]
  constructor
  · rintro ⟨data, source, dest, queue, time⟩
    rw [queue] at time
    exact ⟨data, source, dest, normalQueue_eq_self_iff.1 queue, normalTime_eq_self_iff.1 time⟩
  · intro h
    have queue : e.normalQueue {} = e.queue := normalQueue_eq_self_iff.2 h.queue
    rw [queue]
    exact ⟨h.data, h.source, h.dest, rfl, normalTime_eq_self_iff.2 h.time⟩

theorem canonical_decode (r : Record) : r.decode.Canonical :=
  normal_eq_self_iff.1 r.normal_decode

theorem bounded_encode (e : Event) (route : Route) : (e.encode route).Bounded := by
  intro _ varies
  rw [isVariable_encode] at varies
  cases hd : e.data with
  | sysEx bytes =>
    have stated : (e.encode route).statedLength = bytes.length % UInt32.size := by
      simp [encode, hd, EventData.encode, Record.statedLength]
    have pointed : (e.encode route).ext = some bytes := by
      simp [encode, hd, EventData.ext]
    rw [stated, pointed]
    exact Nat.mod_le _ _
  | _ =>
    rw [hd] at varies
    cases varies

/-- An event is read from some record if and only if it comes back unchanged when it is written and
read, and these are the canonical events. -/
theorem representable_iff_canonical (e : Event) :
    ((∃ r : Record, r.Bounded ∧ r.decode = e) ↔ e.encode.decode = e) ∧
      (e.encode.decode = e ↔ e.Canonical) := by
  have unchanged : e.encode.decode = e ↔ e.Canonical := by
    rw [decode_encode, normal_eq_self_iff]
  refine ⟨⟨?_, ?_⟩, unchanged⟩
  · rintro ⟨r, -, rfl⟩
    exact unchanged.2 (canonical_decode r)
  · intro same
    exact ⟨e.encode, bounded_encode e {}, same⟩

/-- A time that nobody delivers does not come back. -/
example : ¬ Canonical
    { data := .signal .reset, source := some ⟨128, 0⟩, time := some (.tick 480) } := by
  intro h
  exact absurd (h.time.2 rfl) (by decide)

end Event

end MidiSequencer
