import MidiSequencer.Proofs.Registry.Mapping

/-! # Moments of a run

What holds at every moment between the calls of a step, where nothing is forced, and what a step
does that comes down to one command. -/
namespace MidiSequencer

open Program (Traces)

/-- A call of which a passage consists was answered at a moment before which nothing was called. -/
theorem Simulator.Passes.only {σ χ : Type} {m : Simulator σ χ} {C : χ → Prop} {s t : σ} {c : Call}
    {answer : c.Answer} (p : m.Passes C s [⟨c, answer⟩] t) :
    ∃ u, m.Passes C s [] u ∧ answer = (m.answer c u).1 := by
  obtain ⟨before, u, passes, first, answered⟩ := p.answered (.head _)
  have nothing : before = [] := by
    have length := first.length_le
    exact List.eq_nil_of_length_eq_zero (by simpa using length)
  exact ⟨u, nothing ▸ passes, answered⟩

namespace Rehearsal

/-- Nothing is forced; apart from that others may do whatever they like. -/
abbrev Change.Unforced : Change → Prop := Change.Forces fun _ _ => False

theorem change_tables (x : Change) (r : Rehearsal) :
    (r.change x).store.subscriptions = r.store.subscriptions ∧
      (r.change x).store.queues = r.store.queues ∧
      (r.change x).store.nextQueue = r.store.nextQueue := by
  cases x with
  | setup clients ports =>
    have added {β : Type} {g : Store → β} (client : ∀ s c, g (Store.addClient s c) = g s)
        (port : ∀ s p, g (Store.addPort s p) = g s) :
        g (r.change (.setup clients ports)).store = g r.store :=
      (Store.foldl_leaves _ port ports).trans (Store.foldl_leaves _ client clients)
    exact ⟨added (fun _ _ => rfl) fun _ _ => rfl, added (fun _ _ => rfl) fun _ _ => rfl,
      added (fun _ _ => rfl) fun _ _ => rfl⟩
  | _ => exact ⟨rfl, rfl, rfl⟩

end Rehearsal

def Outcome.ofStatus (q : Command) (status : Status) : Outcome :=
  if status < 0 then .error (.service (Call.label (.command q)) status) else .value .unit

theorem Session.traces_execute {s : Session} {q : Command} {h : Dialogue.History}
    {result : Option (Outcome × Session)}
    (ht : Traces (s.done (s.connection.execute q)) h result) :
    (s.connection.isOpen = false ∧ Dialogue.calls h = [] ∧ result = some (.error .closed, s)) ∨
    (s.connection.isOpen = true ∧ ∃ status : Status, Dialogue.calls h = [⟨.command q, status⟩] ∧
      result = some (.ofStatus q status, s)) := by
  have ordered := Action.orders_execute s.connection q
  obtain ⟨h₁, r, h₂, rfl, ht₁, ht₂⟩ := Program.traces_bind_of_ends ordered.ends ht
  obtain ⟨rfl, rfl⟩ := Program.traces_done_iff.1 ht₂
  rw [List.append_nil]
  cases isOpen : s.connection.isOpen with
  | false =>
    rw [s.connection.run_execute, isOpen] at ht₁
    obtain ⟨rfl, hr⟩ := Program.traces_done_iff.1 ht₁
    cases hr
    exact .inl ⟨rfl, rfl, rfl⟩
  | true =>
    obtain ⟨status, rfl, hr⟩ := Connection.traces_execute isOpen ht₁
    refine .inr ⟨rfl, status, rfl, congrArg (fun o => some (o, s)) ?_⟩
    rw [Option.some.inj hr]
    unfold Outcome.ofStatus
    split <;> rfl

namespace Play

open Rehearsal

variable {p : Play Rehearsal Change} {bound : Nat} {step : Step Change}

/-- A step that comes down to one command gives it at some moment, unless the connection is closed,
and leaves the session alone. -/
theorem step_executes (script : p.scene.sequencer.script.Forces fun _ _ => False)
    (awaited : p.scene.Within Change.Unforced) (hs : step.Within Change.Unforced)
    {operation : Operation} (asked : step.Performs p.session operation) {q : Command}
    (performed : p.session.perform bound operation =
      p.session.done (p.session.connection.execute q)) :
    let r := p.step simulator bound step
    r.2.session = p.session ∧
    ((p.session.connection.isOpen = false ∧ r.1 = some (.error .closed) ∧
      simulator.Passes Change.Unforced p.scene.sequencer [] r.2.scene.sequencer) ∨
    (p.session.connection.isOpen = true ∧ ∃ u status,
      simulator.Passes Change.Unforced p.scene.sequencer [] u ∧
      status = (u.store.command q).1 ∧ r.1 = some (.ofStatus q status) ∧
      simulator.Passes Change.Unforced p.scene.sequencer [⟨.command q, status⟩]
        r.2.scene.sequencer)) := by
  obtain ⟨h, result, ht, outcome, session, passes⟩ :=
    step_performs simulator bound awaited hs asked
  rw [performed] at ht
  rcases Session.traces_execute ht with ⟨closed, calls, rfl⟩ | ⟨isOpen, status, calls, rfl⟩
  · rw [calls] at passes
    exact ⟨session, .inl ⟨closed, outcome, passes⟩⟩
  · rw [calls] at passes
    obtain ⟨u, first, answered⟩ := passes.only
    have forced := passes_forces first script
    exact ⟨session, .inr ⟨isOpen, u, status, first, answered.trans (answer_unforced forced _).1,
      outcome, passes⟩⟩

end Play

end MidiSequencer
