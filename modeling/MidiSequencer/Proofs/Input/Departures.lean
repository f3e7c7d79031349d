import MidiSequencer.Proofs.Input.Queue
import MidiSequencer.Proofs.Output.Accepted
import MidiSequencer.Proofs.Resources.Returning

/-! # Departures

Events leave the queue for input through operations only: one when an operation answers it, and all
when an operation discards what waits. -/
namespace MidiSequencer

open Rehearsal (Change simulator)

theorem Connection.moves_tryInput (c : Connection) :
    Dialogue.Moves Call.taken? some c.tryInput.run := by
  refine Connection.moves_call .eventInput (checkAnswer .eventInput) ?_
  intro answer
  cases answer <;> rfl

def Operation.receipt? (operation : Operation) (outcome : Option Outcome) : Option Event :=
  match operation, outcome with
  | .tryInput, some (.value (.event? e)) => e
  | .input _, some (.value (.event? e)) => e
  | _, _ => none

def Operation.discards : Operation → Bool
  | .dropInput => true
  | .dropInputBuffer => true
  | _ => false

theorem Operation.receipt?_of_discards {operation : Operation} (hd : operation.discards = true)
    (outcome : Option Outcome) : operation.receipt? outcome = none := by
  cases operation with
  | dropInput => rfl
  | dropInputBuffer => rfl
  | _ => cases hd

theorem Dialogue.gentle_of_names {h : Dialogue.History} {names : List String}
    (named : ∀ x ∈ Dialogue.calls h, x.question.name ∈ names)
    (apart : ∀ name ∈ ["drop_input", "drop_input_buffer"], name ∉ names) :
    ∀ x ∈ Dialogue.calls h, x.question.isDiscard = false := by
  intro x hx
  cases hq : x.question.isDiscard with
  | false => rfl
  | true => exact absurd (named x hx) (apart _ (Call.name_of_isDiscard hq))

namespace Session

variable {s : Session} {bound : Nat} {h : Dialogue.History} {result : Option (Outcome × Session)}

theorem perform_receives {operation : Operation}
    (ht : Program.Traces (s.perform bound operation) h result) :
    Transfers Call.taken? (fun o => (operation.receipt? o).toList) h result := by
  have other (silent : ∀ o, operation.receipt? o = none)
      (hn : ∀ name ∈ ["event_input"], name ∉ operation.callNames) :
      Transfers Call.taken? (fun o => (operation.receipt? o).toList) h result :=
    transfers_other (fun x e => Call.name_of_taken?) (fun o => by rw [silent]; rfl) hn ht
  cases operation with
  | tryInput =>
    exact transfers_onlyBlocking rfl
      (transfers_report rfl (fun _ => rfl) (fun _ => rfl) s.connection.moves_tryInput) ht
  | input timeout =>
    have waited := Waiting.moves_wait (fun _ => rfl) s.connection.moves_tryInput s.mode .read
      timeout bound
    refine transfers_report rfl (fun _ => rfl) (fun e => ?_) waited ht
    cases e <;> rfl
  | port slot o =>
    refine other (fun _ => rfl) ?_
    cases o <;> simp [Operation.callNames, PortOperation.callNames]
  | queue slot o =>
    refine other (fun _ => rfl) ?_
    cases o <;> simp [Operation.callNames, QueueOperation.callNames]
  | _ => exact other (fun _ => rfl) (by simp [Operation.callNames])

theorem perform_gentle {operation : Operation} (hd : operation.discards = false)
    (ht : Program.Traces (s.perform bound operation) h result) :
    ∀ x ∈ Dialogue.calls h, x.question.isDiscard = false := by
  have heeds := s.perform_heeds bound operation
  have named : ∀ x ∈ Dialogue.calls h, x.question.name ∈ operation.callNames := heeds.names ht
  refine Dialogue.gentle_of_names named ?_
  cases operation with
  | dropInput => cases hd
  | dropInputBuffer => cases hd
  | port slot o => cases o <;> simp [Operation.callNames, PortOperation.callNames]
  | queue slot o => cases o <;> simp [Operation.callNames, QueueOperation.callNames]
  | _ => simp [Operation.callNames]

end Session

inductive Departure where
  | delivered (event : Event)
  | discarded (event : Event)

namespace Departure

def event : Departure → Event
  | delivered e => e
  | discarded e => e

def delivered? : Departure → Option Event
  | delivered e => some e
  | discarded _ => none

def isDiscarded : Departure → Bool
  | delivered _ => false
  | discarded _ => true

theorem filterMap_discarded (events : List Event) :
    (events.map discarded).filterMap delivered? = [] := by
  rw [List.filterMap_map]
  exact List.filterMap_eq_nil_iff.2 fun _ _ => rfl

theorem length_eq (departures : List Departure) : departures.length =
    (departures.filterMap delivered?).length + departures.countP isDiscarded := by
  induction departures with
  | nil => rfl
  | cons d departures ih =>
    cases d with
    | delivered e =>
      have shown : delivered? (delivered e) = some e := rfl
      rw [List.filterMap_cons_some shown, List.countP_cons_of_neg (by simp [isDiscarded]),
        List.length_cons, List.length_cons, ih]
      omega
    | discarded e =>
      rw [List.filterMap_cons_none rfl, List.countP_cons_of_pos rfl, List.length_cons, ih]
      omega

end Departure

/-- The events leave the front of the queue, and those that are discarded are counted. -/
structure Store.Loses (s t : Store) (departures : List Departure) : Prop where
  input : s.input = departures.map Departure.event ++ t.input
  dropped : t.droppedInput = s.droppedInput + departures.countP Departure.isDiscarded

namespace Store.Loses

variable {s t u : Store} {first later : List Departure}

theorem withArrivals (hs : s.Loses t first) (events : List Event) :
    (s.withArrivals events).Loses (t.withArrivals events) first where
  input := by rw [Store.withArrivals, hs.input, List.append_assoc, Store.withArrivals]
  dropped := hs.dropped

theorem trans (hs : s.Loses t first) (ht : t.Loses u later) : s.Loses u (first ++ later) where
  input := by rw [hs.input, ht.input, List.map_append, List.append_assoc]
  dropped := by rw [ht.dropped, hs.dropped, List.countP_append, Nat.add_assoc]

theorem then_takes (hs : s.Loses t first) (ht : t.Takes u []) : s.Loses u first where
  input := by rw [hs.input, ht.input, List.nil_append]
  dropped := ht.dropped.trans hs.dropped

end Store.Loses

/-- What leaves the queue through an operation, given what waited and its outcome: the event that it
answers, or everything that waited, or nothing. -/
inductive Departs (operation : Option Operation) (waiting : List Event)
    (outcome : Option Outcome) : List Departure → Prop where
  | delivered (e : Event) (answered : operation.bind (·.receipt? outcome) = some e) :
      Departs operation waiting outcome [.delivered e]
  | discarded (asked : operation.any Operation.discards = true)
      (succeeded : outcome = some (.value .unit)) :
      Departs operation waiting outcome (waiting.map .discarded)
  | nothing (silent : operation.bind (·.receipt? outcome) = none) :
      Departs operation waiting outcome []

namespace Departs

variable {operation : Option Operation} {waiting : List Event} {outcome : Option Outcome}
  {departures : List Departure}

theorem delivered_eq (h : Departs operation waiting outcome departures) :
    departures.filterMap Departure.delivered? =
      (operation.bind (·.receipt? outcome)).toList := by
  cases h with
  | delivered e answered => rw [answered]; rfl
  | discarded asked succeeded =>
    obtain ⟨o, rfl, hd⟩ := (Option.any_eq_true _ _).1 asked
    rw [Option.bind_some, Operation.receipt?_of_discards hd, Departure.filterMap_discarded]
    rfl
  | nothing silent => rw [silent]; rfl

theorem eq_of_receipt {e : Event} (h : Departs operation waiting outcome departures)
    (he : operation.bind (·.receipt? outcome) = some e) : departures = [.delivered e] := by
  have delivered := h.delivered_eq
  cases h with
  | delivered e' answered => rw [Option.some.inj (answered.symm.trans he)]
  | discarded asked succeeded =>
    rw [Departure.filterMap_discarded, he] at delivered
    cases delivered
  | nothing silent => rw [silent] at he; cases he

theorem eq_nil (h : Departs operation waiting outcome departures)
    (silent : operation.bind (·.receipt? outcome) = none)
    (keeps : operation.any Operation.discards = true → outcome ≠ some (.value .unit)) :
    departures = [] := by
  cases h with
  | delivered e answered => rw [silent] at answered; cases answered
  | discarded asked succeeded => exact absurd succeeded (keeps asked)
  | nothing silent => rfl

end Departs

theorem Store.Takes.loses {s t : Store} {operation : Operation} {outcome : Option Outcome}
    (h : s.Takes t (operation.receipt? outcome).toList) (waiting : List Event) :
    ∃ departures, Departs (some operation) waiting outcome departures ∧ s.Loses t departures := by
  cases hr : operation.receipt? outcome with
  | none =>
    rw [hr] at h
    exact ⟨[], .nothing hr, h.input, h.dropped⟩
  | some e =>
    rw [hr] at h
    exact ⟨[.delivered e], .delivered e hr, h.input, h.dropped⟩

namespace Session

/-- What comes of an operation that discards: it is refused, a script makes it answer, or it empties
the queue. -/
inductive Discarding (P : String → Status → Prop) (q : Command) (s t : Store)
    (outcome : Option Outcome) : Prop where
  | refused (e : Error) (answered : outcome = some (.error e)) (same : t = s)
  | forced (status : Status) (allowed : P q.name status) (success : 0 ≤ status)
      (answered : outcome = some (.value .unit)) (same : t = s)
  | worked (answered : outcome = some (.value .unit)) (input : t.input = [])
      (dropped : t.droppedInput = s.droppedInput + s.input.length)

def executed (q : Command) (status : Status) : Outcome :=
  if status < 0 then .error (.service (Call.command q).label status) else .value .unit

theorem done_execute (s : Session) (q : Command) : s.done (s.connection.execute q) =
    if s.connection.isOpen then
      Program.ask (.call (.command q)) fun (status : Status) => .done (executed q status, s)
    else .done (.error .closed, s) := by
  unfold done report Connection.execute
  rw [ExceptT.run_bind, Connection.run_command]
  cases s.connection.isOpen with
  | false => rfl
  | true =>
    have checked (status : Status) : Outcome.ofExcept (fun _ : Unit => .unit)
        ((checkStatus (.command q) status).map fun _ => ()) = executed q status := by
      unfold checkStatus executed
      split <;> rfl
    simp only [if_true, Program.ask_bind, Program.done_bind, ← checked]
    congr 1
    funext status
    cases checkStatus (.command q) status <;> rfl

theorem run_discard {P : String → Status → Prop} (s : Session) {q : Command}
    (hq : (Call.command q).isDiscard = true) {scene : Scene Rehearsal Change}
    (hs : scene.sequencer.script.Forces P) :
    let r := (s.done (s.connection.execute q)).run (Scene.answer simulator) scene
    Discarding P q scene.sequencer.store r.2.sequencer.store (r.1.map Prod.fst) ∧
      r.2.awaited = scene.awaited := by
  simp only [done_execute]
  cases s.connection.isOpen with
  | false => exact ⟨.refused .closed rfl rfl, rfl⟩
  | true =>
    refine ⟨?_, rfl⟩
    have outcome {status : Status} (said : (scene.sequencer.answer (.command q)).1 = status) :
        some (executed q (scene.sequencer.answer (.command q)).1) = some (executed q status) :=
      congrArg (fun status => some (executed q status)) said
    obtain ⟨answers, -⟩ := Rehearsal.answers hs (.command q)
    cases answers with
    | forced status allowed answered kept =>
      by_cases negative : status < 0
      · exact .refused _ ((outcome answered).trans (congrArg some (if_pos negative))) kept
      · exact .forced status allowed (Int.not_lt.1 negative)
          ((outcome answered).trans (congrArg some (if_neg negative))) kept
    | worked answered kept =>
      have empties : scene.sequencer.store.answer (.command q) =
          ((0 : Int), { scene.sequencer.store with
            input := []
            droppedInput :=
              scene.sequencer.store.droppedInput + scene.sequencer.store.input.length }) := by
        cases q with
        | dropInput => rfl
        | dropInputBuffer => rfl
        | _ => cases hq
      rw [empties] at answered kept
      exact .worked (outcome answered) (congrArg Store.input kept)
        (congrArg Store.droppedInput kept)

end Session

namespace Play

variable (bound : Nat) (p : Play Rehearsal Change)

theorem perform_discarding {P : String → Status → Prop} {operation : Operation}
    (hd : operation.discards = true) (hs : p.scene.sequencer.script.Forces P) :
    (∃ q, Session.Discarding P q p.scene.sequencer.store
        (p.perform simulator bound operation).2.scene.sequencer.store
        (p.perform simulator bound operation).1) ∧
      (p.perform simulator bound operation).2.scene.awaited = p.scene.awaited := by
  rw [perform_eq]
  cases operation with
  | dropInput =>
    obtain ⟨discarding, awaited⟩ := p.session.run_discard (q := .dropInput) rfl hs
    exact ⟨⟨_, discarding⟩, awaited⟩
  | dropInputBuffer =>
    obtain ⟨discarding, awaited⟩ := p.session.run_discard (q := .dropInputBuffer) rfl hs
    exact ⟨⟨_, discarding⟩, awaited⟩
  | _ => cases hd

/-- A discard that works empties the queue; while nothing but failures is forced, one that succeeds
has worked. -/
theorem perform_empties {operation : Operation} (hd : operation.discards = true)
    (hs : p.scene.sequencer.script.Forces Rehearsal.Failing)
    (succeeded : (p.perform simulator bound operation).1 = some (.value .unit)) :
    (p.perform simulator bound operation).2.scene.sequencer.store.input = [] ∧
      (p.perform simulator bound operation).2.scene.sequencer.store.droppedInput =
        p.scene.sequencer.store.droppedInput + p.scene.sequencer.store.input.length ∧
      (p.perform simulator bound operation).2.scene.awaited = p.scene.awaited := by
  obtain ⟨⟨q, discarding⟩, awaited⟩ := p.perform_discarding bound hd hs
  cases discarding with
  | refused e answered same => rw [answered] at succeeded; cases succeeded
  | forced status allowed success answered same =>
    have failed : status < 0 := allowed
    exact absurd failed (Int.not_lt.2 success)
  | worked answered input dropped => exact ⟨input, dropped, awaited⟩

theorem perform_loses (operation : Operation) :
    ∃ departures, Departs (some operation) p.scene.sequencer.store.input
        (p.perform simulator bound operation).1 departures ∧
      p.scene.settled.Loses (p.perform simulator bound operation).2.scene.settled departures := by
  cases hd : operation.discards with
  | true =>
    obtain ⟨⟨q, discarding⟩, awaited⟩ :=
      p.perform_discarding bound hd p.scene.sequencer.script.forces_true
    generalize p.perform simulator bound operation = r at discarding awaited ⊢
    have unchanged (same : r.2.scene.sequencer.store = p.scene.sequencer.store) :
        ∃ departures, Departs (some operation) p.scene.sequencer.store.input r.1 departures ∧
          p.scene.settled.Loses r.2.scene.settled departures := by
      have settled : r.2.scene.settled = p.scene.settled := by
        unfold Scene.settled
        rw [same, awaited]
      rw [settled]
      exact ⟨[], .nothing (Operation.receipt?_of_discards hd _), rfl, rfl⟩
    cases discarding with
    | refused e answered same => exact unchanged same
    | forced status allowed success answered same => exact unchanged same
    | worked answered input dropped =>
      have emptied : p.scene.sequencer.store.Loses r.2.scene.sequencer.store
          (p.scene.sequencer.store.input.map .discarded) :=
        { input := by simp [input, Function.comp_def, Departure.event]
          dropped := by simp [dropped, Function.comp_def, Departure.isDiscarded] }
      refine ⟨_, .discarded hd answered, ?_⟩
      unfold Scene.settled
      rw [awaited]
      exact emptied.withArrivals _
  | false =>
    -- no call discards anything, so that the calls take exactly what the operation answers
    obtain ⟨h, ht, takes⟩ := Dialogue.run_takes (p.session.perform bound operation) p.scene
    have settles := takes (Session.perform_gentle hd ht)
    have answered := (Session.perform_receives ht).all
    rw [show Call.taken (Dialogue.calls h) = _ from answered, ← perform_scene] at settles
    obtain ⟨departures, departs, loses⟩ := settles.loses p.scene.sequencer.store.input
    exact ⟨departures, by rwa [perform_eq], loses⟩

end Play

end MidiSequencer
