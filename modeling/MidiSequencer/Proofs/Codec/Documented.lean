import MidiSequencer.Proofs.Codec.Representable

/-! # The documented round trip

The documentation of events names three things that a round trip through a record changes: a missing
source comes back as 0:0, all subscribers come back as no destination, and a time without a queue is
dropped. The record changes three more, and nothing else: a queue without a time comes back with
time zero, a queue of 253 comes back as none, and so does a destination in client 254 whatever its
port. -/
namespace MidiSequencer

namespace Event

variable {e : Event}

/-- The event as the documentation has it come back. -/
def documented (e : Event) : Event :=
  { e with
    source := some (e.source.getD ⟨0, 0⟩)
    dest := if e.dest = some Address.allSubscribers then none else e.dest
    time := if e.queue = none then none else e.time }

/-- None of the three things happens that the documentation leaves out. -/
structure Plain (e : Event) : Prop where
  timed : e.queue ≠ none → e.time ≠ none
  queue : e.queue ≠ some 253
  dest : ∀ a, e.dest = some a → a.client = 254 → a.port = 253

theorem normalSource_eq_documented : some (e.normalSource {}) = e.documented.source := rfl

theorem normalDest_eq_documented_iff :
    e.normalDest {} = e.documented.dest ↔ ∀ a, e.dest = some a → a.client = 254 → a.port = 253 := by
  show e.dest.filter (·.client != 254) =
    (if e.dest = some ⟨254, 253⟩ then none else e.dest) ↔ _
  cases e.dest with
  | none => simp
  | some a =>
    obtain ⟨client, port⟩ := a
    by_cases subscribers : client = 254
    · by_cases unknown : port = 253 <;> simp [Option.filter, subscribers, unknown]
    · simp [Option.filter, subscribers]

theorem normalTime_eq_documented_iff :
    (e.queue.map fun _ => e.time.getD (.tick 0)) = e.documented.time ↔
      (e.queue ≠ none → e.time ≠ none) := by
  show _ = (if e.queue = none then none else e.time) ↔ _
  cases e.queue with
  | none => simp
  | some q => cases e.time <;> simp

theorem documented_iff : e.encode.decode = e.documented ↔ e.data.Canonical ∧ e.Plain := by
  have fields : e.normal = e.documented ↔ e.data.normal = e.data ∧
      e.normalDest {} = e.documented.dest ∧ e.normalQueue {} = e.queue ∧
      ((e.normalQueue {}).map fun _ => e.time.getD (.tick 0)) = e.documented.time := by
    rw [normal, normalSource_eq_documented]
    simp [documented]
  rw [decode_encode, fields, EventData.normal_eq_self_iff, normalDest_eq_documented_iff]
  constructor
  · rintro ⟨data, dest, queue, time⟩
    rw [queue] at time
    exact ⟨data, normalTime_eq_documented_iff.1 time, normalQueue_eq_self_iff.1 queue, dest⟩
  · rintro ⟨data, plain⟩
    have queue : e.normalQueue {} = e.queue := normalQueue_eq_self_iff.2 plain.queue
    rw [queue]
    exact ⟨data, plain.dest, rfl, normalTime_eq_documented_iff.2 plain.timed⟩

structure ComesBack (e : Event) : Prop where
  /-- As documented, if and only if it is plain. -/
  documented : e.encode.decode = e.documented ↔ e.Plain
  kept : e.encode.decode.data = e.data ∧
    e.encode.decode.source = some (e.source.getD ⟨0, 0⟩) ∧
    e.encode.decode.relative = e.relative ∧
    e.encode.decode.highPriority = e.highPriority ∧
    e.encode.decode.tag = e.tag
  dest : e.encode.decode.dest = e.dest.filter (·.client != 254)
  queue : e.encode.decode.queue = e.queue.filter (· != 253)
  /-- A queue that comes back does so with a time, of zero if there was none. -/
  timed : ∀ q, e.queue = some q → q ≠ 253 →
    e.encode.decode.time = some (e.time.getD (.tick 0))
  /-- Direct delivery has no time, be it written as no queue or as queue 253. -/
  direct : e.queue = none ∨ e.queue = some 253 → e.encode.decode.time = none

theorem documented_round_trip (e : Event) (wellFormed : e.data.Canonical) : e.ComesBack := by
  have data : e.encode.decode.data = e.data := by
    rw [decode_encode]
    exact EventData.normal_eq_self_iff.2 wellFormed
  have time : e.encode.decode.time =
      (e.queue.filter (· != 253)).map fun _ => e.time.getD (.tick 0) := by
    rw [decode_encode]
    rfl
  exact
    { documented := documented_iff.trans (and_iff_right wellFormed)
      kept := by
        refine ⟨data, ?_⟩
        rw [decode_encode]
        exact ⟨rfl, rfl, rfl, rfl⟩
      dest := by
        rw [decode_encode]
        rfl
      queue := by
        rw [decode_encode]
        rfl
      timed := by
        intro q given indirect
        rw [time, given]
        simp [Option.filter, indirect]
      direct := by
        rintro (none | direct)
        · rw [time, none]
          rfl
        · rw [time, direct]
          rfl }

/-- A reset that is scheduled with a queue alone comes back with a time. -/
theorem documented_round_trip_untimed :
    let reset : Event := { data := .signal .reset, queue := some 1 }
    reset.data.Canonical ∧ reset.ComesBack ∧ reset.encode.decode.time = some (.tick 0) :=
  ⟨.signal .reset, documented_round_trip _ (.signal .reset), by decide⟩

/-- Nor does the documentation name this: its normal form of that event has no time. -/
theorem undocumented_time :
    let reset : Event := { data := .signal .reset, queue := some 1 }
    reset.data.Canonical ∧ reset.encode.decode ≠ reset.documented :=
  ⟨.signal .reset, by decide⟩

end Event

end MidiSequencer
