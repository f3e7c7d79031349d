import MidiSequencer.Proofs.Recording

/-! # Passages of a sequencer

What a run does to the sequencer behind the connection: it makes the calls of one history, and in
between there are changes that the client does not make. What others may do can be restricted. -/
namespace MidiSequencer

variable {σ χ α : Type}

/-- From one state to another by the calls of a history and by changes that satisfy `C`. -/
inductive Simulator.Passes (m : Simulator σ χ) (C : χ → Prop) : σ → Call.History → σ → Prop where
  | refl (s) : Passes m C s [] s
  | call {s h t} (c : Call) (before : Passes m C s h t) :
      Passes m C s (h ++ [⟨c, (m.answer c t).1⟩]) (m.answer c t).2
  | change {s h t} (x : χ) (allowed : C x) (before : Passes m C s h t) :
      Passes m C s h (m.change x t)

namespace Simulator.Passes

variable {m : Simulator σ χ} {C : χ → Prop} {s t u : σ} {h h' : Call.History}

theorem trans (first : m.Passes C s h t) (second : m.Passes C t h' u) :
    m.Passes C s (h ++ h') u := by
  induction second with
  | refl =>
    rw [List.append_nil]
    exact first
  | call c before ih =>
    rw [← List.append_assoc]
    exact ih.call c
  | change x allowed before ih => exact ih.change x allowed

/-- What no call and no allowed change can break holds behind every passage. -/
theorem keeps {I : σ → Prop} (answer : ∀ c s, I s → I (m.answer c s).2)
    (change : ∀ x s, C x → I s → I (m.change x s)) (p : m.Passes C s h t) (hs : I s) : I t := by
  induction p with
  | refl => exact hs
  | call c before ih => exact answer c _ ih
  | change x allowed before ih => exact change x _ allowed ih

theorem eq_of_quiet (p : m.Passes C s [] t) (hC : ∀ x, ¬ C x) : t = s := by
  generalize hh : ([] : Call.History) = h at p
  induction p with
  | refl => rfl
  | call c before ih => simp at hh
  | change x allowed before ih => exact absurd allowed (hC x)

theorem log {s t : σ × Call.History} (p : m.recorded.Passes C s h t) : t.2 = s.2 ++ h := by
  induction p with
  | refl => exact (List.append_nil _).symm
  | @call h t c before ih =>
    rw [← List.append_assoc, ← ih]
    rfl
  | change x allowed before ih => exact ih

end Simulator.Passes

/-- The calls lead from one state to another, and `P` holds at every moment on the way: of the calls
made so far, and of any state that the sequencer can be in behind them. -/
structure Simulator.Throughout (m : Simulator σ χ) (C : χ → Prop) (s : σ) (calls : Call.History)
    (t : σ) (P : Call.History → σ → Prop) : Prop where
  passes : m.Passes C s calls t
  moments (before : Call.History) (u : σ) : before <+: calls → m.Passes C s before u → P before u

theorem Simulator.Throughout.behind {m : Simulator σ χ} {C : χ → Prop} {s t : σ}
    {calls : Call.History} {P : Call.History → σ → Prop} (h : m.Throughout C s calls t P) :
    P calls t :=
  h.moments calls t (List.prefix_refl _) h.passes

def Incident.Within (C : χ → Prop) : Incident χ → Prop
  | .wake => True
  | .change x => C x

def Scene.Within (C : χ → Prop) (s : Scene σ χ) : Prop :=
  ∀ i ∈ s.awaited, i.Within C

def Step.Within (C : χ → Prop) : Step χ → Prop
  | .perform _ => True
  | .performDuring _ incidents => ∀ i ∈ incidents, i.Within C
  | .happen i => i.Within C

section

variable (m : Simulator σ χ) {C : χ → Prop}

theorem Scene.passes_occur (s : Scene σ χ) {i : Incident χ} (hi : i.Within C) :
    m.Passes C s.sequencer [] (s.occur m i).sequencer := by
  cases i with
  | wake => exact .refl _
  | change x => exact (Simulator.Passes.refl _).change x hi

theorem Scene.foldl_occur_awaited (incidents : List (Incident χ)) (s : Scene σ χ) :
    (incidents.foldl (Scene.occur m) s).awaited = s.awaited := by
  induction incidents generalizing s with
  | nil => rfl
  | cons i incidents ih =>
    rw [List.foldl_cons, ih]
    cases i <;> rfl

theorem Scene.passes_foldl_occur {incidents : List (Incident χ)}
    (hi : ∀ i ∈ incidents, i.Within C) (s : Scene σ χ) :
    m.Passes C s.sequencer [] (incidents.foldl (Scene.occur m) s).sequencer := by
  induction incidents generalizing s with
  | nil => exact .refl _
  | cons i incidents ih =>
    obtain ⟨first, rest⟩ := List.forall_mem_cons.1 hi
    have before := s.passes_occur m first
    exact before.trans (ih rest _)

theorem Scene.passes_occurAwaited {s : Scene σ χ} (hs : s.Within C) :
    m.Passes C s.sequencer [] (s.occurAwaited m).sequencer ∧ (s.occurAwaited m).Within C := by
  unfold Scene.occurAwaited
  split
  · exact ⟨.refl _, hs⟩
  · constructor
    · exact Scene.passes_foldl_occur m hs { s with line := s.line.look, awaited := [] }
    · unfold Scene.Within
      rw [Scene.foldl_occur_awaited]
      simp

theorem Scene.passes_yield {s : Scene σ χ} (hs : s.Within C) (interest : Interest) :
    m.Passes C s.sequencer [] (s.yield m interest).sequencer ∧ (s.yield m interest).Within C := by
  unfold Scene.yield
  split
  · exact ⟨.refl _, hs⟩
  · exact Scene.passes_occurAwaited m hs

theorem Scene.awaited_answer (s : Scene σ χ) {q : Request} (hq : q.isLocal = true) :
    (Scene.answer m q s).2.awaited = s.awaited := by
  obtain ⟨sequencer, line, awaited⟩ := s
  show _ = awaited
  cases q with
  | call c => cases hq
  | suspend interest limit => cases hq
  | _ => rfl

theorem Scene.passes_answer {s : Scene σ χ} (hs : s.Within C) (q : Request) :
    m.Passes C s.sequencer (Dialogue.calls [⟨q, (Scene.answer m q s).1⟩])
      (Scene.answer m q s).2.sequencer ∧ (Scene.answer m q s).2.Within C := by
  cases q with
  | call c =>
    have called : m.Passes C s.sequencer [⟨c, (m.answer c s.sequencer).1⟩]
        (m.answer c s.sequencer).2 := (Simulator.Passes.refl _).call c
    cases c <;> exact ⟨called, hs⟩
  | suspend interest limit => exact Scene.passes_yield m hs interest
  | _ =>
    unfold Scene.Within
    rw [Scene.sequencer_answer m s rfl, Scene.awaited_answer m s rfl]
    exact ⟨.refl _, hs⟩

theorem Dialogue.run_passes (p : Dialogue α) {s : Scene σ χ} (hs : s.Within C) :
    ∃ h, Program.Traces p h (p.run (Scene.answer m) s).1 ∧
      m.Passes C s.sequencer (Dialogue.calls h) (p.run (Scene.answer m) s).2.sequencer ∧
      (p.run (Scene.answer m) s).2.Within C := by
  induction p generalizing s with
  | done a => exact ⟨[], .done a, .refl _, hs⟩
  | ask q next ih =>
    obtain ⟨passes, within⟩ := Scene.passes_answer m hs q
    obtain ⟨h, ht, rest, hw⟩ := ih (Scene.answer m q s).1 within
    refine ⟨⟨q, (Scene.answer m q s).1⟩ :: h, .ask ht, ?_, hw⟩
    rw [← List.singleton_append, Dialogue.calls_append]
    exact passes.trans rest
  | unfinished => exact ⟨[], .unfinished, .refl _, hs⟩

end

/-- Only a suspending client performs while something happens. -/
def Step.Performs (s : Session) : Step χ → Operation → Prop
  | .perform operation, o => o = operation
  | .performDuring operation _, o => s.mode = .suspending ∧ o = operation
  | .happen _, _ => False

theorem Step.Performs.operation? {s : Session} {step : Step χ} {operation : Operation}
    (h : step.Performs s operation) : step.operation? = some operation := by
  cases step with
  | perform o => exact congrArg some h.symm
  | performDuring o incidents => exact congrArg some h.2.symm
  | happen i => cases h

namespace Play

variable (m : Simulator σ χ) (bound : Nat) {C : χ → Prop}

/-- What a step does: it performs its operation with one of its histories, or nothing. -/
inductive Does (C : χ → Prop) (p : Play σ χ) (step : Step χ) (outcome : Option Outcome)
    (q : Play σ χ) : Prop where
  | performs (operation : Operation) (h : Dialogue.History)
      (result : Option (Outcome × Session)) (asked : step.Performs p.session operation)
      (traces : Program.Traces (p.session.perform bound operation) h result)
      (outcome : outcome = result.map Prod.fst) (session : q.session = p.session.after result)
      (passes : m.Passes C p.scene.sequencer (Dialogue.calls h) q.scene.sequencer)
  | idles (asked : ∀ operation, ¬ step.Performs p.session operation)
      (outcome : outcome = some (.value .unit) ∨ outcome = some .unsupported)
      (session : q.session = p.session)
      (passes : m.Passes C p.scene.sequencer [] q.scene.sequencer)

theorem perform_passes {p : Play σ χ} (hp : p.scene.Within C) (operation : Operation) :
    ∃ h result, Program.Traces (p.session.perform bound operation) h result ∧
      (p.perform m bound operation).1 = result.map Prod.fst ∧
      (p.perform m bound operation).2.session = p.session.after result ∧
      m.Passes C p.scene.sequencer (Dialogue.calls h)
        (p.perform m bound operation).2.scene.sequencer ∧
      (p.perform m bound operation).2.scene.Within C := by
  rw [perform_eq]
  obtain ⟨h, ht, passes, within⟩ := Dialogue.run_passes m (p.session.perform bound operation) hp
  exact ⟨h, _, ht, rfl, rfl, passes, within⟩

theorem step_does {p : Play σ χ} (hp : p.scene.Within C) {step : Step χ} (hs : step.Within C) :
    p.Does m bound C step (p.step m bound step).1 (p.step m bound step).2 ∧
      (p.step m bound step).2.scene.Within C := by
  cases step with
  | perform operation =>
    obtain ⟨h, result, ht, ho, hq, passes, within⟩ := perform_passes m bound hp operation
    exact ⟨.performs operation h result rfl ht ho hq passes, within⟩
  | performDuring operation incidents =>
    cases hm : p.session.mode with
    | blocking =>
      simp only [step, hm]
      exact ⟨.idles (fun _ h => by simp [Step.Performs, hm] at h) (.inr rfl) rfl (.refl _), hp⟩
    | suspending =>
      simp only [step, hm]
      have more : Scene.Within C { p.scene with awaited := p.scene.awaited ++ incidents } := by
        intro i hi
        rcases List.mem_append.1 hi with hi | hi
        · exact hp i hi
        · exact hs i hi
      obtain ⟨h, result, ht, ho, hq, passes, within⟩ := perform_passes m bound
        (p := { p with scene.awaited := p.scene.awaited ++ incidents }) more operation
      obtain ⟨last, within'⟩ := Scene.passes_occurAwaited m within
      have all := passes.trans last
      rw [List.append_nil] at all
      exact ⟨.performs operation h result ⟨hm, rfl⟩ ht ho hq all, within'⟩
  | happen i =>
    have changed := p.scene.passes_occur m hs
    refine ⟨.idles (fun _ h => h) (.inl rfl) rfl changed, ?_⟩
    cases i <;> exact hp

theorem step_performs {p : Play σ χ} (hp : p.scene.Within C) {step : Step χ} (hs : step.Within C)
    {operation : Operation} (asked : step.Performs p.session operation) :
    ∃ h result, Program.Traces (p.session.perform bound operation) h result ∧
      (p.step m bound step).1 = result.map Prod.fst ∧
      (p.step m bound step).2.session = p.session.after result ∧
      m.Passes C p.scene.sequencer (Dialogue.calls h)
        (p.step m bound step).2.scene.sequencer := by
  obtain ⟨does, -⟩ := step_does m bound hp hs
  cases does with
  | performs o h result asked' ht ho session passes =>
    have same := asked'.operation?.symm.trans asked.operation?
    obtain rfl : o = operation := Option.some.inj same
    exact ⟨h, result, ht, ho, session, passes⟩
  | idles none_asked ho session passes => exact absurd asked (none_asked operation)

theorem finish_passes {p : Play σ χ} (hp : p.scene.Within C) :
    ∃ h result, Program.Traces p.session.finish h result ∧
      m.Passes C p.scene.sequencer (Dialogue.calls h) (p.finish m).sequencer := by
  obtain ⟨h, ht, passes, -⟩ := Dialogue.run_passes m p.session.finish hp
  exact ⟨h, _, ht, passes⟩

end Play

theorem Scene.within_true (s : Scene σ χ) : s.Within fun _ => True := by
  intro i _
  cases i <;> trivial

theorem Step.within_true (step : Step χ) : step.Within fun _ => True := by
  cases step with
  | perform operation => trivial
  | performDuring operation incidents =>
    intro i _
    cases i <;> trivial
  | happen i => cases i <;> trivial

end MidiSequencer
