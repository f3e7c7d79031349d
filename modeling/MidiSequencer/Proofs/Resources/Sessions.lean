import MidiSequencer.Proofs.Resources.Openings
import MidiSequencer.Simulation.Rehearsal

/-! # Accounts of whole sessions

A session of any client over any simulator, from its opening over all steps to its end. -/
namespace MidiSequencer

variable {σ χ : Type}

def Scene.recorded (s : Scene σ χ) : Scene (σ × Call.History) χ :=
  s.map fun x => (x, [])

def Scene.deeds (s : Scene (σ × Call.History) χ) : List Deed :=
  Call.deeds s.sequencer.2

theorem Dialogue.run_deeds {α : Type} (m : Simulator σ χ) (p : Dialogue α)
    (s : Scene (σ × Call.History) χ) :
    ∃ h, Program.Traces p h (p.run (Scene.answer m.recorded) s).1 ∧
      (p.run (Scene.answer m.recorded) s).2.deeds = s.deeds ++ Call.deeds (Dialogue.calls h) := by
  obtain ⟨h, ht, hl⟩ := Dialogue.run_recorded m p s
  exact ⟨h, ht, by simp only [Scene.deeds, hl, Call.deeds_append]⟩

theorem Scene.deeds_occur (m : Simulator σ χ) (s : Scene (σ × Call.History) χ) (i : Incident χ) :
    (s.occur m.recorded i).deeds = s.deeds :=
  congrArg Call.deeds (Scene.occur_keeps (m.change_recorded s.sequencer.2) rfl i)

theorem Scene.deeds_occurAwaited (m : Simulator σ χ) (s : Scene (σ × Call.History) χ) :
    (s.occurAwaited m.recorded).deeds = s.deeds :=
  congrArg Call.deeds (Scene.occurAwaited_keeps (m.change_recorded s.sequencer.2) rfl)

namespace Play

variable {mode : Mode} {entries : List (Step χ × Option Outcome)} (m : Simulator σ χ) (bound : Nat)

theorem perform_standing {p : Play (σ × Call.History) χ} {step : Step χ} {operation : Operation}
    (hs : step.operation? = some operation) (hm : p.session.mode = mode)
    (h : Standing mode entries p.scene.deeds p.session.holdings) :
    Standing mode (entries ++ [(step, (p.perform m.recorded bound operation).1)])
      (p.perform m.recorded bound operation).2.scene.deeds
      (p.perform m.recorded bound operation).2.session.holdings ∧
    (p.perform m.recorded bound operation).2.session.mode = mode := by
  rw [perform_eq]
  obtain ⟨t, ht, hd⟩ := Dialogue.run_deeds m (p.session.perform bound operation) p.scene
  obtain ⟨turn, same⟩ := p.session.perform_takes bound operation t _ ht
  rw [hm] at turn
  exact ⟨hd ▸ h.turn hs turn, same.trans hm⟩

theorem step_standing {p : Play (σ × Call.History) χ} (step : Step χ)
    (hm : p.session.mode = mode) (h : Standing mode entries p.scene.deeds p.session.holdings) :
    Standing mode (entries ++ [(step, (p.step m.recorded bound step).1)])
      (p.step m.recorded bound step).2.scene.deeds
      (p.step m.recorded bound step).2.session.holdings ∧
    (p.step m.recorded bound step).2.session.mode = mode := by
  cases step with
  | perform operation => exact perform_standing m bound rfl hm h
  | performDuring operation incidents =>
    cases hs : p.session.mode with
    | blocking =>
      simp only [step, hs]
      have idle := h.idle (e := (.performDuring operation incidents, some .unsupported))
        (.inl rfl) (fun r => by cases r <;> rfl) (List.forall_mem_nil _) fun _ => rfl
      exact ⟨List.append_nil p.scene.deeds ▸ idle, hs ▸ hm⟩
    | suspending =>
      simp only [step, hs]
      obtain ⟨standing, same⟩ := perform_standing m bound
        (p := { p with scene.awaited := p.scene.awaited ++ incidents })
        (rfl : (Step.performDuring operation incidents).operation? = some operation) hm h
      exact ⟨by rw [Scene.deeds_occurAwaited]; exact standing, same⟩
  | happen i =>
    have idle := h.idle (e := (.happen i, some (.value .unit)))
      (.inl rfl) (fun r => by cases r <;> rfl) (List.forall_mem_nil _) fun _ => rfl
    rw [List.append_nil] at idle
    exact ⟨by simpa only [step, Scene.deeds_occur] using idle, hm⟩

theorem run_standing (steps : List (Step χ)) {p : Play (σ × Call.History) χ}
    (hm : p.session.mode = mode) (h : Standing mode entries p.scene.deeds p.session.holdings) :
    Standing mode (entries ++ steps.zip (p.run m.recorded bound steps).1)
      (p.run m.recorded bound steps).2.scene.deeds
      (p.run m.recorded bound steps).2.session.holdings := by
  induction steps generalizing p entries with
  | nil => exact (List.append_nil entries).symm ▸ h
  | cons step steps ih =>
    obtain ⟨next, same⟩ := step_standing m bound step hm h
    have rest := ih same next
    rw [List.append_assoc, List.singleton_append] at rest
    exact rest

theorem deeds_finish (p : Play (σ × Call.History) χ) :
    (p.finish m.recorded).deeds = p.scene.deeds ++ p.session.holdings.closing .suspending := by
  obtain ⟨h, ht, hd⟩ := Dialogue.run_deeds m p.session.finish p.scene
  rw [(p.session.does_finish h _ ht).1] at hd
  exact hd

end Play

/-- The play that begins when the session starts, or the scene that is left without one. -/
def Plan.start (m : Simulator σ χ) (plan : Plan χ) (s : Scene σ χ) :
    Except (Scene σ χ) (Play σ χ) :=
  match plan.begin.run.run (Scene.answer m) s with
  | (some (.ok session), scene) => .ok { session, scene }
  | (_, scene) => .error scene

theorem Simulator.Follows.start {τ : Type} {f : σ → τ} {m : Simulator σ χ} {n : Simulator τ χ}
    (hf : m.Follows f n) (plan : Plan χ) (s : Scene σ χ) :
    plan.start n (s.map f) = match plan.start m s with
      | .ok p => .ok (p.map f)
      | .error t => .error (t.map f) := by
  unfold Plan.start
  rw [hf.run]
  rcases plan.begin.run.run (Scene.answer m) s with ⟨_ | _ | _, _⟩ <;> rfl

theorem Simulator.Keeps.start {m : Simulator σ χ} {I : σ → Prop} (hm : m.Keeps I)
    (plan : Plan χ) {s : Scene σ χ} (hs : I s.sequencer) :
    match plan.start m s with
    | .ok p => I p.scene.sequencer
    | .error t => I t.sequencer := by
  have kept := hm.run plan.begin.run hs
  unfold Plan.start
  rcases hr : plan.begin.run.run (Scene.answer m) s with ⟨_ | _ | _, t⟩
  all_goals
    rw [hr] at kept
    exact kept

theorem Plan.start_cases (m : Simulator σ χ) (plan : Plan χ) (s : Scene σ χ) :
    (∃ p, plan.start m.recorded s.recorded = .ok p ∧ p.session.mode = plan.mode ∧
      plan.opening.Delivers p.scene.deeds ∧
      Standing (χ := χ) plan.mode [] p.scene.deeds p.session.holdings) ∨
    (∃ t, plan.start m.recorded s.recorded = .error t ∧ Released plan.opening t.deeds ∧
      Untouched t.deeds ∧ OpensFirst t.deeds) := by
  obtain ⟨h, ht, hd⟩ := Dialogue.run_deeds m plan.begin.run s.recorded
  unfold Plan.start
  rcases hr : plan.begin.run.run (Scene.answer m.recorded) s.recorded with ⟨o, t⟩
  rw [hr] at ht hd
  have same : t.deeds = Call.deeds (Dialogue.calls h) := hd
  rcases Plan.traces_begin ht with ⟨session, ho, hm, delivers, standing⟩ | ⟨e, ho, refused⟩
  · cases ho
    rw [← same] at delivers standing
    exact .inl ⟨⟨session, t⟩, rfl, hm, delivers, standing⟩
  · cases ho
    rw [← same] at refused
    exact .inr ⟨t, rfl, refused⟩

/-- The rest of a play does not undo that a sequencer was delivered. -/
theorem Opening.Delivers.finish {opening : Opening} {m : Simulator σ χ}
    {p : Play (σ × Call.History) χ} (h : opening.Delivers p.scene.deeds) (bound : Nat)
    (steps : List (Step χ)) :
    opening.Delivers ((p.run m.recorded bound steps).2.finish m.recorded).deeds := by
  cases opening with
  | adopt clientName streams closedFirst => trivial
  | establish config =>
    have keeps := m.recorded_keeps p.scene.sequencer.2
    have longer := keeps.finish (keeps.runSteps bound steps (List.prefix_refl _))
    exact (longer.map _).subset h

/-- What holds of a session after its steps and after its end. -/
structure SessionPaired (plan : Plan χ) (outcomes : List (Option Outcome))
    (stepped ended : List Deed) : Prop where
  during : Paired stepped (plan.steps.zip outcomes)
    (GivenBack plan.mode (performed (plan.steps.zip outcomes)))
  afterwards : Paired ended (plan.steps.zip outcomes) fun r k =>
    GivenBack plan.mode (performed (plan.steps.zip outcomes)) r k ∨
      ∀ o ∈ performed (plan.steps.zip outcomes), o.isClose = false
  released : Released plan.opening ended
  front : OpensFirst ended

structure SessionRefused (plan : Plan χ) (deeds : List Deed) : Prop where
  untouched : Untouched deeds
  released : Released plan.opening deeds
  front : OpensFirst deeds

theorem Plan.session_paired (m : Simulator σ χ) (bound : Nat) (plan : Plan χ) (s : Scene σ χ) :
    match plan.start m.recorded s.recorded with
    | .ok p =>
      SessionPaired plan (p.run m.recorded bound plan.steps).1
        (p.run m.recorded bound plan.steps).2.scene.deeds
        ((p.run m.recorded bound plan.steps).2.finish m.recorded).deeds
    | .error t => SessionRefused plan t.deeds := by
  rcases plan.start_cases m s with ⟨p, hp, hm, delivers, standing⟩ |
    ⟨t, ht, released, untouched, front⟩
  · rw [hp]
    have after := Play.run_standing m bound plan.steps hm standing
    rw [List.nil_append] at after
    obtain ⟨front, concluded, paired⟩ := after.ended
    have held := delivers.finish (m := m) bound plan.steps
    rw [← Play.deeds_finish m] at front concluded paired
    have released : Released plan.opening _ := ⟨fun _ => concluded, fun hn => absurd held hn⟩
    exact ⟨after.paired, paired, released, front⟩
  · rw [ht]
    exact ⟨untouched, released, front⟩

/-- A port whose deletion fails is not deleted again, and a queue that is left when the connection
is closed is not given back. -/
example :
    let m := Rehearsal.simulator.recorded
    let plan : Plan Rehearsal.Change :=
      { opening := .adopt "client" .duplex false
        mode := .blocking
        steps := [
          .happen (.change (.force [("delete_simple_port", [some Status.busy])])),
          .perform (.createPort "port" ⟨0⟩ ⟨0⟩), .perform (.createQueue none),
          .perform (.port 0 .close), .perform (.port 0 .drop), .perform .close] }
    let start := plan.start m (Scene.recorded { sequencer := { store := Store.initial 128 } })
    start.toOption.map (fun p => ((p.run m 1 plan.steps).2.finish m).deeds) = some [
      .other, .other, .other, .makes .port 0, .makes .queue 0, .returns .port 0, .releases] := by
  rfl

end MidiSequencer
