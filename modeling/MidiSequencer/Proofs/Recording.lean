import MidiSequencer.Proofs.Histories
import MidiSequencer.Simulation.Scene

/-! # Recording calls

A recorded simulator keeps a log of the calls made of it and of its answers. What is not written
into the log goes on as without it, and the log of a run holds the calls of one history of its
programs. -/
namespace MidiSequencer

abbrev Call.History := Program.History Call Call.Answer

def Machine.recorded {Q : Type} {A : Q → Type} {σ : Type} (m : Machine Q A σ) :
    Machine Q A (σ × Program.History Q A) :=
  fun q s => ((m q s.1).1, (m q s.1).2, s.2 ++ [⟨q, (m q s.1).1⟩])

variable {σ τ χ α : Type}

/-- Calls are written down, changes are not. -/
def Simulator.recorded (m : Simulator σ χ) : Simulator (σ × Call.History) χ where
  answer := Machine.recorded m.answer
  change x s := (m.change x s.1, s.2)

def Dialogue.calls : Dialogue.History → Call.History :=
  List.filterMap fun
    | ⟨.call c, answer⟩ => some ⟨c, answer⟩
    | _ => none

@[simp] theorem Dialogue.calls_append (h t : Dialogue.History) :
    Dialogue.calls (h ++ t) = Dialogue.calls h ++ Dialogue.calls t :=
  List.filterMap_append

theorem Dialogue.calls_eq_append_cons {h : Dialogue.History} {before after : Call.History}
    {x : Program.Exchange Call Call.Answer} (hc : Dialogue.calls h = before ++ x :: after) :
    ∃ b a, h = b ++ ⟨.call x.question, x.answer⟩ :: a ∧ Dialogue.calls a = after := by
  obtain ⟨b, t, rfl, -, ht⟩ := List.filterMap_eq_append_iff.1 hc
  obtain ⟨silent, y, a, rfl, -, hy, rfl⟩ := List.filterMap_eq_cons_iff.1 ht
  refine ⟨b ++ silent, a, ?_, rfl⟩
  obtain ⟨q, answer⟩ := y
  cases q with
  | call c =>
    cases hy
    exact (List.append_assoc ..).symm
  | _ => cases hy

theorem Dialogue.mem_calls {h : Dialogue.History} {x : Program.Exchange Call Call.Answer}
    (hx : x ∈ Dialogue.calls h) : ⟨.call x.question, x.answer⟩ ∈ h := by
  obtain ⟨before, after, hc⟩ := List.append_of_mem hx
  obtain ⟨b, a, rfl, -⟩ := Dialogue.calls_eq_append_cons hc
  simp

theorem split_first {α : Type} {l r before after : List α} {x : α}
    (h : l ++ r = before ++ x :: after) (hx : x ∉ r) :
    ∃ rest, l = before ++ x :: rest ∧ after = rest ++ r := by
  rcases List.append_eq_append_iff.1 h with ⟨m, -, hr⟩ | ⟨m, hl, hr⟩
  · exact absurd (hr ▸ List.mem_append_right m List.mem_cons_self) hx
  · cases m with
    | nil =>
      have same : x :: after = r := hr
      exact absurd (same ▸ List.mem_cons_self) hx
    | cons y m =>
      obtain ⟨rfl, rfl⟩ := List.cons.inj hr
      exact ⟨m, hl, rfl⟩

theorem split_second {α : Type} {l r before after : List α} {x : α}
    (h : l ++ r = before ++ x :: after) (hx : x ∉ l) :
    ∃ rest, before = l ++ rest ∧ r = rest ++ x :: after := by
  rcases List.append_eq_append_iff.1 h with ⟨m, hb, hr⟩ | ⟨m, hl, hr⟩
  · exact ⟨m, hb, hr⟩
  · cases m with
    | nil => exact ⟨[], by rw [hl, List.append_nil, List.append_nil], hr.symm⟩
    | cons y m =>
      obtain ⟨rfl, -⟩ := List.cons.inj hr
      exact absurd (hl ▸ List.mem_append_right before List.mem_cons_self) hx

/-! What no call and no change can break about the sequencer holds through every run. -/

section

variable {m : Simulator σ χ} {I : σ → Prop} (hc : ∀ x s, I s → I (m.change x s))
include hc

theorem Scene.occur_keeps {s : Scene σ χ} (hs : I s.sequencer) (i : Incident χ) :
    I (s.occur m i).sequencer := by
  cases i with
  | wake => exact hs
  | change x => exact hc x _ hs

theorem Scene.foldl_occur_keeps (incidents : List (Incident χ)) {s : Scene σ χ}
    (hs : I s.sequencer) : I (incidents.foldl (Scene.occur m) s).sequencer := by
  induction incidents generalizing s with
  | nil => exact hs
  | cons i incidents ih => exact ih (Scene.occur_keeps hc hs i)

theorem Scene.occurAwaited_keeps {s : Scene σ χ} (hs : I s.sequencer) :
    I (s.occurAwaited m).sequencer := by
  unfold Scene.occurAwaited
  split
  · exact hs
  · exact Scene.foldl_occur_keeps hc _ hs

theorem Scene.yield_keeps {s : Scene σ χ} (hs : I s.sequencer) (interest : Interest) :
    I (s.yield m interest).sequencer := by
  unfold Scene.yield
  split
  · exact hs
  · exact Scene.occurAwaited_keeps hc hs

end

/-- The session after an operation; one that was cut short leaves it as it is. -/
def Session.after (s : Session) (result : Option (Outcome × Session)) : Session :=
  (result.map Prod.snd).getD s

def Step.operation? : Step χ → Option Operation
  | .perform operation => some operation
  | .performDuring operation _ => some operation
  | .happen _ => none

theorem Play.perform_eq (m : Simulator σ χ) (bound : Nat) (p : Play σ χ) (operation : Operation) :
    p.perform m bound operation =
      let r := (p.session.perform bound operation).run (Scene.answer m) p.scene
      (r.1.map Prod.fst, { session := p.session.after r.1, scene := r.2 }) := by
  unfold Play.perform
  rcases (p.session.perform bound operation).run (Scene.answer m) p.scene with ⟨_ | _, _⟩ <;> rfl

theorem Play.perform_scene (m : Simulator σ χ) (bound : Nat) (p : Play σ χ)
    (operation : Operation) : (p.perform m bound operation).2.scene =
      ((p.session.perform bound operation).run (Scene.answer m) p.scene).2 := by
  rw [Play.perform_eq]

/-- Neither a call nor a wait during which others act. -/
def Request.isLocal : Request → Bool
  | .call _ => false
  | .suspend _ _ => false
  | _ => true

theorem Scene.sequencer_answer (m : Simulator σ χ) (s : Scene σ χ) {q : Request}
    (hq : q.isLocal = true) : (Scene.answer m q s).2.sequencer = s.sequencer := by
  -- With a variable on the right the kernel need not compare the two lines.
  obtain ⟨sequencer, line, awaited⟩ := s
  show _ = sequencer
  cases q with
  | call c => cases hq
  | suspend interest limit => cases hq
  | _ => rfl

structure Simulator.Keeps (m : Simulator σ χ) (I : σ → Prop) : Prop where
  answer : ∀ c s, I s → I (m.answer c s).2
  change : ∀ x s, I s → I (m.change x s)

namespace Simulator.Keeps

variable {m : Simulator σ χ} {I : σ → Prop} (hm : m.Keeps I)
include hm

theorem sceneAnswer {s : Scene σ χ} (hs : I s.sequencer) (q : Request) :
    I (Scene.answer m q s).2.sequencer := by
  cases q with
  | call c => cases c <;> exact hm.answer _ _ hs
  | suspend interest limit => exact Scene.yield_keeps hm.change hs interest
  | _ =>
    rw [Scene.sequencer_answer m s rfl]
    exact hs

theorem run (p : Dialogue α) {s : Scene σ χ} (hs : I s.sequencer) :
    I (p.run (Scene.answer m) s).2.sequencer := by
  induction p generalizing s with
  | done a => exact hs
  | ask q next ih => exact ih _ (hm.sceneAnswer hs q)
  | unfinished => exact hs

theorem perform (bound : Nat) {p : Play σ χ} (hp : I p.scene.sequencer) (operation : Operation) :
    I (p.perform m bound operation).2.scene.sequencer := by
  rw [Play.perform_scene]
  exact hm.run _ hp

theorem step (bound : Nat) {p : Play σ χ} (hp : I p.scene.sequencer) (step : Step χ) :
    I (p.step m bound step).2.scene.sequencer := by
  cases step with
  | perform operation => exact hm.perform bound hp operation
  | performDuring operation incidents =>
    cases hs : p.session.mode with
    | blocking => simpa [Play.step, hs] using hp
    | suspending =>
      simp only [Play.step, hs]
      exact Scene.occurAwaited_keeps hm.change (hm.perform bound (by exact hp) operation)
  | happen i => exact Scene.occur_keeps hm.change hp i

theorem runSteps (bound : Nat) (steps : List (Step χ)) {p : Play σ χ}
    (hp : I p.scene.sequencer) : I (p.run m bound steps).2.scene.sequencer := by
  induction steps generalizing p with
  | nil => exact hp
  | cons step steps ih => exact ih (hm.step bound hp step)

theorem finish {p : Play σ χ} (hp : I p.scene.sequencer) : I (p.finish m).sequencer :=
  hm.run p.session.finish hp

end Simulator.Keeps

/-! The log of a recorded simulator. -/

theorem Simulator.change_recorded (m : Simulator σ χ) (log : Call.History) (x : χ)
    (s : σ × Call.History) (hs : s.2 = log) : (m.recorded.change x s).2 = log :=
  hs

theorem Simulator.recorded_keeps (m : Simulator σ χ) (log : Call.History) :
    m.recorded.Keeps fun s => log <+: s.2 where
  answer _ _ hs := hs.trans (List.prefix_append _ _)
  change _ _ hs := hs

theorem Scene.answer_recorded (m : Simulator σ χ) (q : Request) (s : Scene (σ × Call.History) χ) :
    (Scene.answer m.recorded q s).2.sequencer.2 =
      s.sequencer.2 ++ Dialogue.calls [⟨q, (Scene.answer m.recorded q s).1⟩] := by
  cases q with
  | call c => cases c <;> rfl
  | suspend interest limit =>
    have yielded : (s.yield m.recorded interest).sequencer.2 = s.sequencer.2 :=
      Scene.yield_keeps (m.change_recorded s.sequencer.2) rfl interest
    exact yielded.trans (List.append_nil _).symm
  | _ =>
    rw [Scene.sequencer_answer m.recorded s rfl]
    exact (List.append_nil _).symm

theorem Dialogue.run_recorded (m : Simulator σ χ) (p : Dialogue α)
    (s : Scene (σ × Call.History) χ) :
    ∃ h, Program.Traces p h (p.run (Scene.answer m.recorded) s).1 ∧
      (p.run (Scene.answer m.recorded) s).2.sequencer.2 = s.sequencer.2 ++ Dialogue.calls h := by
  induction p generalizing s with
  | done a => exact ⟨[], .done a, (List.append_nil _).symm⟩
  | ask q next ih =>
    obtain ⟨h, ht, hl⟩ := ih (Scene.answer m.recorded q s).1 (Scene.answer m.recorded q s).2
    refine ⟨⟨q, (Scene.answer m.recorded q s).1⟩ :: h, .ask ht, ?_⟩
    rw [Scene.answer_recorded] at hl
    rw [← List.singleton_append, Dialogue.calls_append, ← List.append_assoc]
    exact hl
  | unfinished => exact ⟨[], .unfinished, (List.append_nil _).symm⟩

/-! A simulator seen through `f` is another one, with the same answers in every run. -/

structure Simulator.Follows (f : σ → τ) (m : Simulator σ χ) (n : Simulator τ χ) : Prop where
  answer : ∀ c s, n.answer c (f s) = ((m.answer c s).1, f (m.answer c s).2)
  change : ∀ x s, n.change x (f s) = f (m.change x s)

def Scene.map (f : σ → τ) (s : Scene σ χ) : Scene τ χ :=
  { sequencer := f s.sequencer, line := s.line, awaited := s.awaited }

def Play.map (f : σ → τ) (p : Play σ χ) : Play τ χ :=
  { session := p.session, scene := p.scene.map f }

namespace Simulator.Follows

variable {f : σ → τ} {m : Simulator σ χ} {n : Simulator τ χ} (hf : m.Follows f n)
include hf

theorem occur (s : Scene σ χ) (i : Incident χ) :
    (s.map f).occur n i = (s.occur m i).map f := by
  cases i with
  | wake => rfl
  | change x => simp [Scene.occur, Scene.map, hf.change]

theorem occurAwaited (s : Scene σ χ) :
    (s.map f).occurAwaited n = (s.occurAwaited m).map f := by
  have folded : ∀ (incidents : List (Incident χ)) (t : Scene σ χ),
      incidents.foldl (Scene.occur n) (t.map f) =
        (incidents.foldl (Scene.occur m) t).map f := by
    intro incidents
    induction incidents with
    | nil => exact fun _ => rfl
    | cons i incidents ih => exact fun t => by rw [List.foldl_cons, hf.occur, ih, List.foldl_cons]
  unfold Scene.occurAwaited
  by_cases he : s.awaited.isEmpty
  · simp [Scene.map, he]
  · simpa [Scene.map, he] using folded s.awaited { s with line := s.line.look, awaited := [] }

theorem yield (s : Scene σ χ) (interest : Interest) :
    (s.map f).yield n interest = (s.yield m interest).map f := by
  unfold Scene.yield
  rw [hf.occurAwaited]
  exact (apply_ite (Scene.map f) _ _ _).symm

theorem sceneAnswer (q : Request) (s : Scene σ χ) :
    Scene.answer n q (s.map f) = ((Scene.answer m q s).1, (Scene.answer m q s).2.map f) := by
  obtain ⟨sequencer, line, awaited⟩ := s
  cases q with
  | call c => cases c <;> simp [Scene.answer, Scene.map, hf.answer]
  | suspend interest limit =>
    simp only [Scene.answer, hf.yield]
    rfl
  | _ => rfl

theorem run (p : Dialogue α) (s : Scene σ χ) :
    p.run (Scene.answer n) (s.map f) =
      ((p.run (Scene.answer m) s).1, (p.run (Scene.answer m) s).2.map f) := by
  induction p generalizing s with
  | done a => rfl
  | ask q next ih => simp only [Program.run, hf.sceneAnswer, ih]
  | unfinished => rfl

theorem perform (bound : Nat) (p : Play σ χ) (operation : Operation) :
    (p.map f).perform n bound operation =
      ((p.perform m bound operation).1, (p.perform m bound operation).2.map f) := by
  simp only [Play.perform, Play.map, hf.run]
  rcases (p.session.perform bound operation).run (Scene.answer m) p.scene with ⟨_ | _, _⟩ <;> rfl

theorem step (bound : Nat) (p : Play σ χ) (step : Step χ) :
    (p.map f).step n bound step = ((p.step m bound step).1, (p.step m bound step).2.map f) := by
  cases step with
  | perform operation => exact hf.perform bound p operation
  | performDuring operation incidents =>
    have awaited := hf.perform bound
      { p with scene.awaited := p.scene.awaited ++ incidents } operation
    cases hm : p.session.mode with
    | blocking => simp [Play.step, Play.map, hm]
    | suspending =>
      simp only [Play.step, Play.map, Scene.map, hm] at awaited ⊢
      rw [awaited]
      simp only [Prod.mk.injEq, true_and]
      exact congrArg (Play.mk _) (hf.occurAwaited _)
  | happen i => simp [Play.step, Play.map, hf.occur]

theorem runSteps (bound : Nat) (steps : List (Step χ)) (p : Play σ χ) :
    (p.map f).run n bound steps = ((p.run m bound steps).1, (p.run m bound steps).2.map f) := by
  induction steps generalizing p with
  | nil => rfl
  | cons step steps ih => simp [Play.run, hf.step, ih]

theorem finish (p : Play σ χ) : (p.map f).finish n = (p.finish m).map f := by
  simp [Play.finish, Play.map, hf.run]

end Simulator.Follows

theorem Simulator.recorded_follows (m : Simulator σ χ) : m.recorded.Follows Prod.fst m where
  answer _ _ := rfl
  change _ _ := rfl

end MidiSequencer
