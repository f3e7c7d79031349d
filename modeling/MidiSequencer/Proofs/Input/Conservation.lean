import MidiSequencer.Proofs.Input.Departures

/-! # Input is conserved

Every event that was queued for input has been answered by an operation, or was discarded, or still
waits, and the order is kept. -/
namespace MidiSequencer

open Rehearsal (Change simulator)

/-- The events that come in with a step; a blocking client does not offer to wait for anything. -/
def Step.arrivals (mode : Mode) : Step Change → List Event
  | .perform _ => []
  | .performDuring _ incidents =>
    match mode with
    | .blocking => []
    | .suspending => Rehearsal.arrivals incidents
  | .happen i => Rehearsal.arrivals [i]

def Step.receipt? (step : Step Change) (outcome : Option Outcome) : Option Event :=
  step.operation?.bind (·.receipt? outcome)

namespace Play

variable (bound : Nat) (p : Play Rehearsal Change)

def supplied (step : Step Change) : Store :=
  p.scene.sequencer.store.withArrivals (step.arrivals p.session.mode)

variable {p}

theorem step_loses (hp : p.scene.awaited = []) (step : Step Change) :
    (p.step simulator bound step).2.scene.awaited = [] ∧
      ∃ departures, Departs step.operation? p.scene.sequencer.store.input
          (p.step simulator bound step).1 departures ∧
        (p.supplied step).Loses (p.step simulator bound step).2.scene.sequencer.store
          departures := by
  cases step with
  | perform operation =>
    have awaited : (p.perform simulator bound operation).2.scene.awaited = [] := by
      rw [perform_scene]
      exact Dialogue.run_awaited _ hp
    obtain ⟨departures, departs, loses⟩ := p.perform_loses bound operation
    rw [Scene.settled_eq _ hp, Scene.settled_eq _ awaited] at loses
    refine ⟨awaited, departures, departs, ?_⟩
    rw [supplied, show Step.arrivals p.session.mode (.perform operation) = [] from rfl,
      Store.withArrivals_nil]
    exact loses
  | performDuring operation incidents =>
    cases hm : p.session.mode with
    | blocking =>
      have silent : operation.receipt? (some .unsupported) = none := by cases operation <;> rfl
      simp only [step, supplied, hm]
      exact ⟨hp, [], .nothing silent, List.append_nil _, rfl⟩
    | suspending =>
      -- the incidents are expected from the start; what the wait did not let in comes in behind it
      let q : Play Rehearsal Change :=
        { p with scene.awaited := p.scene.awaited ++ incidents }
      have expected : q.scene.settled = p.supplied (.performDuring operation incidents) := by
        simp only [q, Scene.settled, supplied, Step.arrivals, hp, hm, List.nil_append]
      obtain ⟨departures, departs, loses⟩ := q.perform_loses bound operation
      obtain ⟨awaited, takes⟩ := (q.perform simulator bound operation).2.scene.occurAwaited_takes
      rw [expected] at loses
      simp only [step, hm]
      exact ⟨awaited, departures, departs, loses.then_takes takes⟩
  | happen i =>
    have takes := p.scene.occur_takes i
    refine ⟨?_, [], .nothing rfl, takes.input, takes.dropped⟩
    exact (Scene.foldl_occur_awaited simulator [i] p.scene).trans hp

/-- A step that discards and succeeds, while nothing but failures is forced, leaves in the queue
what came in meanwhile. -/
theorem step_empties (hp : p.scene.awaited = [])
    (hs : p.scene.sequencer.script.Forces Rehearsal.Failing) {step : Step Change}
    (hd : step.operation?.any Operation.discards = true)
    (succeeded : (p.step simulator bound step).1 = some (.value .unit)) :
    let store := (p.step simulator bound step).2.scene.sequencer.store
    store.input = step.arrivals p.session.mode ∧
      store.droppedInput =
        p.scene.sequencer.store.droppedInput + p.scene.sequencer.store.input.length := by
  cases step with
  | perform operation =>
    obtain ⟨input, dropped, -⟩ := p.perform_empties bound hd hs succeeded
    exact ⟨input, dropped⟩
  | performDuring operation incidents =>
    cases hm : p.session.mode with
    | blocking =>
      simp only [step, hm] at succeeded
      cases succeeded
    | suspending =>
      let q : Play Rehearsal Change :=
        { p with scene.awaited := p.scene.awaited ++ incidents }
      simp only [step, hm] at succeeded ⊢
      obtain ⟨input, dropped, awaited⟩ := q.perform_empties bound hd hs succeeded
      obtain ⟨-, takes⟩ := (q.perform simulator bound operation).2.scene.occurAwaited_takes
      have left : (q.perform simulator bound operation).2.scene.settled.input =
          Rehearsal.arrivals incidents := by
        rw [Scene.settled, Store.withArrivals, input, awaited]
        simp [q, hp]
      exact ⟨takes.input.symm.trans left, takes.dropped.trans dropped⟩
  | happen i => cases hd

variable (p)

def arrivals : Play Rehearsal Change → List (Step Change) → List Event
  | _, [] => []
  | p, step :: steps =>
    step.arrivals p.session.mode ++ arrivals (p.step simulator bound step).2 steps

def receipts : Play Rehearsal Change → List (Step Change) → List Event
  | _, [] => []
  | p, step :: steps =>
    (step.receipt? (p.step simulator bound step).1).toList ++
      receipts (p.step simulator bound step).2 steps

inductive Departs : Play Rehearsal Change → List (Step Change) → List Departure → Prop where
  | nil (q : Play Rehearsal Change) : Departs q [] []
  | cons {q : Play Rehearsal Change} {step : Step Change} {steps : List (Step Change)}
      {now later : List Departure}
      (first : MidiSequencer.Departs step.operation? q.scene.sequencer.store.input
        (q.step simulator bound step).1 now)
      (rest : Departs (q.step simulator bound step).2 steps later) :
      Departs q (step :: steps) (now ++ later)

variable {bound p}

theorem Departs.delivered_eq {steps : List (Step Change)} {departures : List Departure}
    (h : Departs bound p steps departures) :
    departures.filterMap Departure.delivered? = p.receipts bound steps := by
  induction h with
  | nil q => rfl
  | cons first rest ih =>
    rw [List.filterMap_append, first.delivered_eq, ih]
    rfl

variable (bound)

theorem run_loses (hp : p.scene.awaited = []) (steps : List (Step Change)) :
    (p.run simulator bound steps).2.scene.awaited = [] ∧
      ∃ departures, Departs bound p steps departures ∧
        (p.scene.sequencer.store.withArrivals (p.arrivals bound steps)).Loses
          (p.run simulator bound steps).2.scene.sequencer.store departures := by
  induction steps generalizing p with
  | nil => exact ⟨hp, [], .nil p, List.append_nil _, rfl⟩
  | cons step steps ih =>
    obtain ⟨awaited, now, first, loses⟩ := step_loses bound hp step
    obtain ⟨last, later, rest, loses'⟩ := ih awaited
    refine ⟨last, now ++ later, .cons first rest, ?_⟩
    have both := (loses.withArrivals _).trans loses'
    rw [supplied, ← Store.withArrivals_append] at both
    exact both

theorem finish_takes (hp : p.scene.awaited = []) :
    p.scene.sequencer.store.Takes (p.finish simulator).sequencer.store [] := by
  obtain ⟨h, ht, takes⟩ := Dialogue.run_takes p.session.finish p.scene
  have named := Session.finish_names ht
  have gentle := Dialogue.gentle_of_names named (by simp [Operation.callNames])
  have nothing : Call.taken (Dialogue.calls h) = [] :=
    Session.moved_of_names (fun x e => Call.name_of_taken?) named (by simp [Operation.callNames])
  have settles := takes gentle
  rw [nothing, Scene.settled_eq _ hp, Scene.settled_eq _ (Dialogue.run_awaited _ hp)] at settles
  exact settles

end Play

/-- What holds of the queue for input of a sequencer in memory, whatever it is made to answer,
however often it would block and however long anyone waits. Nothing is awaited where a run
begins. -/
structure InputConserved : Prop where
  /-- What was queued before a run or with its steps has left the queue in order, or still waits
  behind that; what left was answered by a step, or discarded by one and counted. -/
  runs (bound : Nat) (p : Play Rehearsal Change) (steps : List (Step Change)) :
    p.scene.awaited = [] →
    let before := p.scene.sequencer.store
    let after := (p.run simulator bound steps).2.scene.sequencer.store
    ∃ departures, Play.Departs bound p steps departures ∧
      before.input ++ p.arrivals bound steps =
        departures.map Departure.event ++ after.input ∧
      departures.filterMap Departure.delivered? = p.receipts bound steps ∧
      after.droppedInput = before.droppedInput + departures.countP Departure.isDiscarded
  balance (bound : Nat) (p : Play Rehearsal Change) (steps : List (Step Change)) :
    p.scene.awaited = [] →
    let before := p.scene.sequencer.store
    let after := (p.run simulator bound steps).2.scene.sequencer.store
    (p.receipts bound steps).length + after.droppedInput + after.input.length =
      before.droppedInput + before.input.length + (p.arrivals bound steps).length
  answered (bound : Nat) (p : Play Rehearsal Change) (step : Step Change) (e : Event) :
    p.scene.awaited = [] →
    let r := p.step simulator bound step
    let before := p.scene.sequencer.store
    let after := r.2.scene.sequencer.store
    step.receipt? r.1 = some e →
    before.input ++ step.arrivals p.session.mode = e :: after.input ∧
      after.droppedInput = before.droppedInput
  /-- A step that answers none leaves the queue alone, unless it succeeds to discard. -/
  untouched (bound : Nat) (p : Play Rehearsal Change) (step : Step Change) :
    p.scene.awaited = [] →
    let r := p.step simulator bound step
    let before := p.scene.sequencer.store
    let after := r.2.scene.sequencer.store
    step.receipt? r.1 = none →
    (step.operation?.any Operation.discards = true → r.1 ≠ some (.value .unit)) →
    after.input = before.input ++ step.arrivals p.session.mode ∧
      after.droppedInput = before.droppedInput
  /-- A step that succeeds to discard, and was not forced to, discards everything that waits. -/
  discarded (bound : Nat) (p : Play Rehearsal Change) (step : Step Change) :
    p.scene.awaited = [] → p.scene.sequencer.script.Forces Rehearsal.Failing →
    step.operation?.any Operation.discards = true →
    let r := p.step simulator bound step
    let before := p.scene.sequencer.store
    let after := r.2.scene.sequencer.store
    r.1 = some (.value .unit) →
    after.input = step.arrivals p.session.mode ∧
      after.droppedInput = before.droppedInput + before.input.length
  ended (bound : Nat) (p : Play Rehearsal Change) (steps : List (Step Change)) :
    p.scene.awaited = [] →
    let q := (p.run simulator bound steps).2
    let last := (q.finish simulator).sequencer.store
    last.input = q.scene.sequencer.store.input ∧
      last.droppedInput = q.scene.sequencer.store.droppedInput

/-- Input is conserved, first in, first out. -/
theorem input_conserved : InputConserved where
  runs bound p steps := by
    intro hp before after
    obtain ⟨-, departures, departs, loses⟩ := Play.run_loses bound hp steps
    exact ⟨departures, departs, loses.input, departs.delivered_eq, loses.dropped⟩
  balance bound p steps := by
    intro hp before after
    obtain ⟨-, departures, departs, loses⟩ := Play.run_loses bound hp steps
    have whole : before.input.length + (p.arrivals bound steps).length =
        departures.length + after.input.length := by
      rw [← List.length_append, ← List.length_map (f := Departure.event), ← List.length_append]
      exact congrArg List.length loses.input
    have dropped : after.droppedInput =
        before.droppedInput + departures.countP Departure.isDiscarded := loses.dropped
    have parts := Departure.length_eq departures
    rw [departs.delivered_eq] at parts
    omega
  answered bound p step e := by
    intro hp r before after answers
    obtain ⟨-, departures, departs, loses⟩ := Play.step_loses bound hp step
    rw [departs.eq_of_receipt answers] at loses
    exact ⟨loses.input, loses.dropped⟩
  untouched bound p step := by
    intro hp r before after silent keeps
    obtain ⟨-, departures, departs, loses⟩ := Play.step_loses bound hp step
    rw [departs.eq_nil silent keeps] at loses
    exact ⟨loses.input.symm, loses.dropped⟩
  discarded bound p step := by
    intro hp hs asked r before after succeeded
    exact Play.step_empties bound hp hs asked succeeded
  ended bound p steps := by
    intro hp q last
    obtain ⟨awaited, -⟩ := Play.run_loses bound hp steps
    have takes := Play.finish_takes awaited
    exact ⟨takes.input.symm, takes.dropped⟩

/-- A wait that fails when two more events have come in, a wait that answers the first, a drop of
the others, and an event that nobody waits for. -/
theorem input_conserved_mixed :
    let key (note : UInt8) : EventData := .note .noteOn { note, velocity := 64 }
    let store := { Store.initial 128 with input := [{ data := key 1 }], blocks := 1 }
    let p : Play Rehearsal Change :=
      { session := { mode := .suspending, connection := { clientId := 128 } }
        scene := { sequencer := { store, script := ⟨[("event_input", [none, some (-5)])]⟩ } } }
    let push (notes : List UInt8) : Incident Change :=
      .change (.pushInput (notes.map fun note => { data := key note }))
    let failing : Step Change := .performDuring (.input none) [push [2, 3], .wake]
    let waiting : Step Change := .perform (.input none)
    let dropping : Step Change := .perform .dropInput
    let steps := [failing, waiting, dropping, .happen (push [4])]
    let failed := (p.step simulator 9 failing).2
    let after := (p.run simulator 9 steps).2.scene.sequencer.store
    p.scene.awaited = [] ∧
      (∃ departures, Play.Departs 9 p steps departures ∧
        store.input ++ p.arrivals 9 steps = departures.map Departure.event ++ after.input ∧
        departures.filterMap Departure.delivered? = p.receipts 9 steps ∧
        after.droppedInput = store.droppedInput + departures.countP Departure.isDiscarded) ∧
      (p.step simulator 9 failing).2.scene.sequencer.store.input =
        p.scene.sequencer.store.input ++ failing.arrivals p.session.mode ∧
      failed.scene.sequencer.store.input ++ waiting.arrivals failed.session.mode =
        { data := key 1 } :: (failed.step simulator 9 waiting).2.scene.sequencer.store.input ∧
      (p.step simulator 9 dropping).2.scene.sequencer.store.input =
        dropping.arrivals p.session.mode ∧
      (p.receipts 9 steps).map Event.data = [key 1] ∧
      after.droppedInput = 2 ∧
      after.input.map Event.data = [key 4] := by
  intro key store p push failing waiting dropping steps failed after
  have kept := input_conserved.untouched 9 p failing rfl rfl fun asked => by cases asked
  have received : waiting.receipt? (failed.step simulator 9 waiting).1 =
      some { data := key 1 } := by
    decide
  have first := input_conserved.answered 9 failed waiting { data := key 1 } rfl received
  have failures : p.scene.sequencer.script.Forces Rehearsal.Failing := by
    simp [Script.Forces, Rehearsal.Failing, p]
  have emptied := input_conserved.discarded 9 p dropping rfl failures rfl rfl
  refine ⟨rfl, input_conserved.runs 9 p steps rfl, kept.1, first.1, emptied.1, ?_, ?_, ?_⟩
  · decide
  · decide
  · decide

end MidiSequencer
