import MidiSequencer.Proofs.Output.Accepted
import MidiSequencer.Proofs.Transfers

/-! # Output is delivered exactly once

An output that answers a status has handed its event over once, with its last call; any other
operation, and an output that answers anything else, hands nothing over. So what a sequencer in
memory has sent is known from what the operations of a session answered. -/
namespace MidiSequencer

variable {σ χ : Type}

theorem Connection.moves_tryOutputRecord (c : Connection) (direct : Bool) (record : Record) :
    Dialogue.Moves Call.accepted? (fun _ => some record.decode)
      (c.tryOutputRecord direct record).run := by
  have attempt {q : Command} (hq : q.record? = some record) : Dialogue.Moves Call.accepted?
      (fun _ => some record.decode) (c.command q).run := by
    refine Connection.moves_call (.command q) (checkStatus (.command q)) ?_
    intro (status : Status)
    by_cases hs : status < 0
    · have failed : ¬ 0 ≤ status := Int.not_le.2 hs
      simp [checkStatus, Call.accepted?, hs, failed, Except.toOption]
    · have worked : 0 ≤ status := Int.not_lt.1 hs
      simp [checkStatus, Call.accepted?, hs, worked, hq, Except.toOption]
  cases direct with
  | false => exact attempt rfl
  | true => exact attempt rfl

def Outcome.hasStatus : Outcome → Bool
  | .value (.int _) => true
  | .value (.status? (some _)) => true
  | _ => false

namespace Session

/-- The event that an output sends, as it comes out of its record. -/
def sent? (s : Session) : Operation → Option Event
  | .tryOutput _ event routing =>
    (s.route routing).map fun route => (event.encode route).decode
  | .output _ event routing _ =>
    (s.route routing).map fun route => (event.encode route).decode
  | _ => none

/-- What an operation delivers, given its outcome: the event of an output that answered a status. -/
def delivery (s : Session) (operation : Operation) (outcome : Option Outcome) : List Event :=
  if outcome.any Outcome.hasStatus then (s.sent? operation).toList else []

variable {s : Session} {bound : Nat} {h : Dialogue.History} {result : Option (Outcome × Session)}

theorem delivery_of_silent {operation : Operation} {o : Option Outcome}
    (ho : o.any Outcome.hasStatus = false) : s.delivery operation o = [] := by
  simp [delivery, ho]

theorem perform_transfers {operation : Operation}
    (ht : Program.Traces (s.perform bound operation) h result) :
    Transfers Call.accepted? (s.delivery operation) h result := by
  have silent {o : Option Outcome} (ho : o.any Outcome.hasStatus = false) :
      s.delivery operation o = [] := delivery_of_silent ho
  have other (hs : s.sent? operation = none)
      (hn : ∀ name ∈ ["event_output", "event_output_direct"], name ∉ operation.callNames) :
      Transfers Call.accepted? (s.delivery operation) h result :=
    transfers_other (fun x e => Call.name_of_accepted?) (fun o => by simp [delivery, hs]) hn ht
  cases operation with
  | tryOutput direct event routing =>
    refine transfers_onlyBlocking (silent rfl)
      (transfers_withSlot (silent rfl) fun route hr ht => ?_) ht
    have attempt := s.connection.moves_tryOutputRecord direct (event.encode route)
    refine transfers_report (silent rfl) (fun e => silent rfl) (fun status => ?_) attempt ht
    simp [delivery, sent?, hr, Outcome.hasStatus]
  | output direct event routing timeout =>
    refine transfers_withSlot (silent rfl) (fun route hr ht => ?_) ht
    have attempt := s.connection.moves_tryOutputRecord direct (event.encode route)
    have waited := Waiting.moves_wait (fun _ => rfl) attempt s.mode .write timeout bound
    refine transfers_report (silent rfl) (fun e => silent rfl) (fun status => ?_) waited ht
    cases status <;> simp [delivery, sent?, hr, Outcome.hasStatus]
  | port slot o =>
    refine other rfl ?_
    cases o <;> simp [Operation.callNames, PortOperation.callNames]
  | queue slot o =>
    refine other rfl ?_
    cases o <;> simp [Operation.callNames, QueueOperation.callNames]
  | _ => exact other rfl (by simp [Operation.callNames])

theorem finish_accepted {o : Option Session} (ht : Program.Traces s.finish h o) :
    Call.accepted (Dialogue.calls h) = [] :=
  moved_of_names (fun x e => Call.name_of_accepted?) (finish_names ht)
    (by simp [Operation.callNames])

end Session

def Step.delivery (step : Step χ) (s : Session) (outcome : Option Outcome) : List Event :=
  match step.operation? with
  | some operation => s.delivery operation outcome
  | none => []

namespace Play

open Rehearsal

/-- What a step calls hands over what it delivers, and not before its last call. -/
theorem Does.hands {m : Simulator σ χ} {bound : Nat} {C : χ → Prop} {p q : Play σ χ}
    {step : Step χ} {outcome : Option Outcome} (does : p.Does m bound C step outcome q) :
    ∃ calls, m.Passes C p.scene.sequencer calls q.scene.sequencer ∧
      Call.accepted calls = step.delivery p.session outcome ∧
      Call.accepted calls.dropLast = [] := by
  cases does with
  | performs operation h result asked ht ho session passes =>
    have hands := Session.perform_transfers ht
    have performed : step.delivery p.session outcome =
        p.session.delivery operation (result.map Prod.fst) := by
      rw [Step.delivery, asked.operation?, ho]
    exact ⟨Dialogue.calls h, passes, hands.all.trans performed.symm, hands.last⟩
  | idles asked ho session passes =>
    have silent : outcome.any Outcome.hasStatus = false := by
      rcases ho with rfl | rfl
      · rfl
      · rfl
    have nothing : step.delivery p.session outcome = [] := by
      unfold Step.delivery
      split
      · exact Session.delivery_of_silent silent
      · rfl
    exact ⟨[], passes, nothing.symm, rfl⟩

def deliveries (m : Simulator σ χ) (bound : Nat) (p : Play σ χ) : List (Step χ) → List Event
  | [] => []
  | step :: steps => step.delivery p.session (p.step m bound step).1 ++
      (p.step m bound step).2.deliveries m bound steps

/-- Nothing but failures is forced, now or as soon as the client has to wait. -/
structure OnlyFailing (p : Play Rehearsal Change) : Prop where
  script : p.scene.sequencer.script.Forces Failing
  awaited : p.scene.Within (Change.Forces Failing)

variable (bound : Nat) {p : Play Rehearsal Change}

theorem step_output (hp : p.OnlyFailing) {step : Step Change}
    (hs : step.Within (Change.Forces Failing)) :
    (p.step simulator bound step).2.scene.sequencer.store.output =
      p.scene.sequencer.store.output ++ step.delivery p.session (p.step simulator bound step).1 ∧
      (p.step simulator bound step).2.OnlyFailing := by
  obtain ⟨does, within⟩ := step_does simulator bound hp.awaited hs
  obtain ⟨calls, passes, all, -⟩ := does.hands
  obtain ⟨output, forces⟩ := passes_output hp.script passes
  rw [output, all]
  exact ⟨rfl, forces, within⟩

theorem run_output {steps : List (Step Change)} (hp : p.OnlyFailing)
    (hs : ∀ step ∈ steps, step.Within (Change.Forces Failing)) :
    (p.run simulator bound steps).2.scene.sequencer.store.output =
      p.scene.sequencer.store.output ++ p.deliveries simulator bound steps ∧
      (p.run simulator bound steps).2.OnlyFailing := by
  induction steps generalizing p with
  | nil => exact ⟨(List.append_nil _).symm, hp⟩
  | cons step steps ih =>
    obtain ⟨first, later⟩ := List.forall_mem_cons.1 hs
    obtain ⟨output, failing⟩ := step_output bound hp first
    obtain ⟨rest, last⟩ := ih failing later
    refine ⟨?_, last⟩
    rw [deliveries, ← List.append_assoc, ← output]
    exact rest

theorem finish_output (hp : p.OnlyFailing) :
    (p.finish simulator).sequencer.store.output = p.scene.sequencer.store.output := by
  obtain ⟨h, o, ht, passes⟩ := finish_passes simulator hp.awaited
  obtain ⟨output, -⟩ := passes_output hp.script passes
  rw [output, Session.finish_accepted ht, List.append_nil]

theorem step_hands (m : Simulator σ χ) {p : Play (σ × Call.History) χ} {step : Step χ}
    {calls : Call.History} (hl : (p.step m.recorded bound step).2.scene.sequencer.2 =
      p.scene.sequencer.2 ++ calls) :
    Call.accepted calls = step.delivery p.session (p.step m.recorded bound step).1 ∧
      Call.accepted calls.dropLast = [] := by
  obtain ⟨does, -⟩ := step_does m.recorded bound p.scene.within_true step.within_true
  obtain ⟨made, passes, hands⟩ := does.hands
  have same : calls = made := List.append_cancel_left (hl.symm.trans passes.log)
  rw [same]
  exact hands

end Play

/-- What holds of a sequencer in memory, however often it would block and however long anyone waits,
while nothing is forced but failures. -/
structure OutputExactlyOnce : Prop where
  /-- What has been sent behind any steps, and then behind the end of the session, is in order one
  event for each output that answered a status. -/
  runs (bound : Nat) (p : Play Rehearsal Rehearsal.Change) (steps : List (Step Rehearsal.Change)) :
    p.OnlyFailing → (∀ step ∈ steps, step.Within (Rehearsal.Change.Forces Rehearsal.Failing)) →
    let q := (p.run Rehearsal.simulator bound steps).2
    let sent := p.scene.sequencer.store.output ++ p.deliveries Rehearsal.simulator bound steps
    q.scene.sequencer.store.output = sent ∧
      (q.finish Rehearsal.simulator).sequencer.store.output = sent
  /-- At each moment of a step its event is sent if and only if no call of the step is left to be
  made; `u` is any state that the sequencer can be in behind the calls made so far. -/
  moments (bound : Nat) (p : Play (Rehearsal × Call.History) Rehearsal.Change)
    (step : Step Rehearsal.Change) (before after : Call.History) (u : Rehearsal) :
    p.scene.sequencer.1.script.Forces Rehearsal.Failing →
    let r := p.step Rehearsal.simulator.recorded bound step
    r.2.scene.sequencer.2 = p.scene.sequencer.2 ++ (before ++ after) →
    Rehearsal.simulator.Passes (Rehearsal.Change.Forces Rehearsal.Failing) p.scene.sequencer.1
      before u →
    u.store.output = p.scene.sequencer.1.store.output ++
      if after = [] then step.delivery p.session r.1 else []
  /-- Whatever the sequencer is and answers, an output that was accepted is the last call of its
  step. -/
  last {σ χ : Type} (m : Simulator σ χ) (bound : Nat) (p : Play (σ × Call.History) χ)
    (step : Step χ) (before after : Call.History) (x : Program.Exchange Call Call.Answer)
    (e : Event) :
    let r := p.step m.recorded bound step
    r.2.scene.sequencer.2 = p.scene.sequencer.2 ++ (before ++ x :: after) →
    Call.accepted? x = some e → after = [] ∧ step.delivery p.session r.1 = [e]

/-- Output is delivered exactly once and in order. -/
theorem output_exactly_once : OutputExactlyOnce where
  runs bound p steps hp hs := by
    obtain ⟨output, failing⟩ := Play.run_output bound hp hs
    exact ⟨output, (Play.finish_output failing).trans output⟩
  moments bound p step before after u hf := by
    intro r hl passes
    obtain ⟨all, last⟩ := Play.step_hands bound Rehearsal.simulator hl
    obtain ⟨output, -⟩ := Rehearsal.passes_output hf passes
    rw [output]
    congr 1
    by_cases ha : after = []
    · rw [if_pos ha, ← all, ha, List.append_nil]
    · rw [List.dropLast_append_of_ne_nil ha, Call.accepted_append] at last
      rw [if_neg ha, (List.append_eq_nil_iff.1 last).1]
  last m bound p step before after x e := by
    intro r hl hx
    obtain ⟨all, last⟩ := Play.step_hands bound m hl
    have handed : Call.accepted [x] = [e] := by simp [Call.accepted, hx]
    by_cases ha : after = []
    · subst ha
      rw [List.dropLast_concat] at last
      rw [Call.accepted_append, last, List.nil_append, handed] at all
      exact ⟨rfl, all.symm⟩
    · rw [List.append_cons, List.dropLast_append_of_ne_nil ha, Call.accepted_append,
        Call.accepted_append, handed] at last
      simp at last

/-- Two events are sent once each, although the first would block twice. What fails between them is
not sent. -/
theorem output_exactly_once_blocked :
    let store := { Store.initial 128 with blocks := 2 }
    let p : Play Rehearsal Rehearsal.Change :=
      { session := { mode := .blocking, connection := { clientId := 128 } }
        scene := { sequencer :=
          { store, script := ⟨[("event_output", [none, none, none, some (-5)])]⟩ } } }
    let key (kind : NoteKind) : EventData := .note kind { note := 60, velocity := 64 }
    let send (kind : NoteKind) : Step Rehearsal.Change :=
      .perform (.output false { data := key kind } {} none)
    let steps := [send .noteOn, send .keyPressure, send .noteOff]
    (p.OnlyFailing ∧ ∀ step ∈ steps, step.Within (Rehearsal.Change.Forces Rehearsal.Failing)) ∧
      (p.run Rehearsal.simulator 5 steps).2.scene.sequencer.store.output =
        p.scene.sequencer.store.output ++ p.deliveries Rehearsal.simulator 5 steps ∧
      (p.deliveries Rehearsal.simulator 5 steps).map Event.data = [key .noteOn, key .noteOff] := by
  intro store p key send steps
  have failing : p.OnlyFailing :=
    { script := by simp [Script.Forces, Rehearsal.Failing, p]
      awaited := fun i member => by cases member }
  have within : ∀ step ∈ steps, step.Within (Rehearsal.Change.Forces Rehearsal.Failing) := by
    simp [steps, send, Step.Within]
  have sent := output_exactly_once.runs 5 p steps failing within
  refine ⟨⟨failing, within⟩, sent.1, ?_⟩
  decide

end MidiSequencer
