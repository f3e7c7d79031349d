import MidiSequencer.Proofs.Waiting.Agreement

/-! # Waits for input where nobody else acts

The answers of a sequencer that is left alone to its inputs are one sequence. A wait of either kind
takes from it what would block and the answer behind, unless its time is over before. It is not over
where the descriptor is ready and the deadline not yet come. -/
namespace MidiSequencer

variable {σ χ : Type}

namespace Simulator

variable (m : Simulator σ χ)

def afterInputs (t : σ) : Nat → σ
  | 0 => t
  | k + 1 => afterInputs (m.answer .eventInput t).2 k

def inputAt (t : σ) (k : Nat) : Except Status Event :=
  (m.answer .eventInput (m.afterInputs t k)).1

theorem afterInputs_add (t : σ) (i k : Nat) :
    m.afterInputs (m.afterInputs t i) k = m.afterInputs t (i + k) := by
  induction i generalizing t with
  | zero => rw [Nat.zero_add]; rfl
  | succ i ih => rw [Nat.succ_add]; exact ih _

theorem inputAt_afterInputs (t : σ) (i k : Nat) :
    m.inputAt (m.afterInputs t i) k = m.inputAt t (i + k) := by
  unfold inputAt
  rw [afterInputs_add]

end Simulator

/-- A suspending client has seen that there is something to read, or will see it. -/
def Line.Watched (l : Line) : Prop :=
  l.readable = true ∧ (l.readReady = true ∨ l.changed = true)

theorem Line.Watched.suspend {l : Line} (h : l.Watched) (limit : Option Instant) :
    (l.suspend .read limit).1 = true ∧ (l.suspend .read limit).2.Watched := by
  obtain ⟨readable, seen⟩ := h
  unfold Line.suspend
  by_cases ready : l.seenReady .read = true
  · rw [if_pos ready]
    exact ⟨rfl, readable, seen⟩
  · have changed : l.changed = true := seen.resolve_left ready
    have looks : l.look.seenReady .read = true := by simp [look, changed, seenReady, readable]
    rw [if_neg ready, if_pos looks]
    refine ⟨rfl, ?_, .inl looks⟩
    simp [look, changed, readable]

theorem Line.poll_cases (l : Line) (interest : Interest) (milliseconds : Int) :
    (l.poll interest milliseconds).1 = .ready ∨ (l.poll interest milliseconds).1 = .notReady := by
  unfold Line.poll
  split
  · exact .inl rfl
  · exact .inr rfl

theorem Line.poll_line (l : Line) (interest : Interest) (milliseconds : Int) :
    ∃ clock, (l.poll interest milliseconds).2 = { l with clock } := by
  unfold Line.poll
  by_cases ready : l.isReady interest = true
  · rw [if_pos ready]
    exact ⟨_, rfl⟩
  · rw [if_neg ready]
    exact ⟨_, rfl⟩

theorem Line.Watched.poll {l : Line} (h : l.Watched) (interest : Interest) (milliseconds : Int) :
    (l.poll interest milliseconds).2.Watched := by
  obtain ⟨clock, same⟩ := l.poll_line interest milliseconds
  rw [same]
  exact h

theorem Line.Watched.now {l : Line} (h : l.Watched) : l.now.2.Watched := ⟨h.1, h.2⟩

namespace Waiting

/-- Whether there is time left when the first attempt has failed and the clock was read. -/
def Prompt (timeout : Option Duration) : Prop :=
  ∀ d, timeout = some d → d = 0 ∨ Line.reading < d

theorem Prompt.inTime {timeout : Option Duration} (h : Prompt timeout) (start : Instant) :
    InTime (limitFrom timeout start) (start + Line.reading) := by
  intro limit hl
  obtain ⟨d, rfl, nonzero, -, rfl⟩ := limitFrom_eq_some_iff.1 hl
  have later := (h d rfl).resolve_left nonzero
  exact Nat.add_lt_add_left later start

/-- An input would block only where all that follow would too, or once before another answer, with
the client `ready`. What follows on another error does not matter. -/
def Fair (ready : Prop) (answers : Nat → Except Status Event) : Prop :=
  ∀ k, (∀ j < k, ∀ status, answers j = .error status → status = Status.wouldBlock) →
    answers k = .error Status.wouldBlock →
      (∀ j, k ≤ j → answers j = .error Status.wouldBlock) ∨
        ready ∧ answers (k + 1) ≠ .error Status.wouldBlock

namespace Fair

variable {ready : Prop} {answers : Nat → Except Status Event} (h : Fair ready answers)
include h

theorem drop {i : Nat}
    (before : ∀ j < i, ∀ status, answers j = .error status → status = Status.wouldBlock) :
    Fair ready fun k => answers (i + k) := by
  intro k earlier blocks
  refine (h (i + k) (fun j hj status failed => ?_) blocks).imp_left fun all j hj =>
    all (i + j) (Nat.add_le_add_left hj i)
  rcases Nat.lt_or_ge j i with first | later
  · exact before j first status failed
  · obtain ⟨j, rfl⟩ := Nat.exists_eq_add_of_le later
    exact earlier j (Nat.lt_of_add_lt_add_left hj) status failed

theorem cases : (∀ j, answers j = .error Status.wouldBlock) ∨
    ∃ i, (∀ j < i, answers j = .error Status.wouldBlock) ∧
      answers i ≠ .error Status.wouldBlock ∧ (i = 0 ∨ i = 1 ∧ ready) := by
  by_cases first : answers 0 = .error Status.wouldBlock
  · rcases h 0 nofun first with all | ⟨isReady, other⟩
    · exact .inl fun j => all j (Nat.zero_le j)
    · refine .inr ⟨1, fun j hj => ?_, other, .inr ⟨rfl, isReady⟩⟩
      obtain rfl := Nat.lt_one_iff.1 hj
      exact first
  · exact .inr ⟨0, nofun, first, .inl rfl⟩

omit h in
theorem cons (first : answers 0 = .error Status.wouldBlock →
      ready ∧ answers 1 ≠ .error Status.wouldBlock)
    (rest : Fair ready fun k => answers (k + 1)) : Fair ready answers := by
  intro k earlier blocks
  cases k with
  | zero => exact .inr (first blocks)
  | succ k =>
    refine (rest k (fun j hj => earlier (j + 1) (Nat.succ_lt_succ hj)) blocks).imp_left
      fun all j hj => ?_
    obtain ⟨j, rfl⟩ := Nat.exists_eq_add_one_of_ne_zero (by omega : j ≠ 0)
    exact all j (Nat.le_of_succ_le_succ hj)

end Fair

variable {α : Type}

def polled (interest : Interest) (left : Option Duration)
    (next : Dialogue (Except Error (Option α))) : Dialogue (Except Error (Option α)) :=
  Program.ask (.poll interest (pollTimeout left)) fun
    | .failed number => .done (.error (.poll number))
    | _ => next

def patience (interest : Interest) (limit : Option Instant)
    (next : Dialogue (Except Error (Option α))) : Dialogue (Except Error (Option α)) :=
  remaining limit >>= fun
    | none => .done (.ok none)
    | some left => polled interest left next

theorem run_pollUntil_round (interest : Interest) (limit : Option Instant) (attempt : Action α)
    (n : Nat) : (pollUntil interest limit attempt (n + 1)).run =
      round attempt (patience interest limit (pollUntil interest limit attempt n).run) :=
  run_pollUntil_succ interest limit attempt n

end Waiting

namespace Scene

open Waiting

variable (m : Simulator σ χ)

def took (s : Scene σ χ) : Scene σ χ :=
  { s with sequencer := (m.answer .eventInput s.sequencer).2 }

theorem call_eq (c : Call) (s : Scene σ χ) :
    ∃ line : Line, (s.line.Watched → line.Watched) ∧ Scene.answer m (.call c) s =
      ((m.answer c s.sequencer).1,
        { s with sequencer := (m.answer c s.sequencer).2, line }) := by
  cases c with
  | release => exact ⟨s.line.close, id, rfl⟩
  | _ => exact ⟨s.line, id, rfl⟩

def resumed (s : Scene σ χ) (limit : Option Instant) : Scene σ χ :=
  { s with line := (s.line.suspend .read limit).2 }

/-- What a wait came to that began in one scene and left another, behind `k` inputs that would
block. -/
structure Came (s : Scene σ χ) (result : Except Error (Option Event)) (t : Scene σ χ) (k : Nat) :
    Prop where
  blocks : ∀ j < k, m.inputAt s.sequencer j = .error Status.wouldBlock
  ends : (result = .ok none ∧ t.sequencer = m.afterInputs s.sequencer k) ∨
    (m.inputAt s.sequencer k ≠ .error Status.wouldBlock ∧
      result = (checkAnswer .eventInput (m.inputAt s.sequencer k)).map some ∧
      t.sequencer = m.afterInputs s.sequencer (k + 1))
  awaited : t.awaited = []

variable {m} {s t u : Scene σ χ} {result : Except Error (Option Event)} {k : Nat}

theorem Came.gaveUp (awaited : s.awaited = []) : Came m s (.ok none) s 0 :=
  ⟨fun j hj => absurd hj (Nat.not_lt_zero j), .inl ⟨rfl, rfl⟩, awaited⟩

theorem Came.later (rest : Came m u result t k)
    (blocks : m.inputAt s.sequencer 0 = .error Status.wouldBlock)
    (same : u.sequencer = (s.took m).sequencer) : Came m s result t (k + 1) where
  blocks j hj := by
    cases j with
    | zero => exact blocks
    | succ j =>
      have before := rest.blocks j (Nat.lt_of_succ_lt_succ hj)
      rw [same] at before
      exact before
  ends := by
    have ends := rest.ends
    rw [same] at ends
    exact ends
  awaited := rest.awaited

theorem Came.congr (h : Came m u result t k) (same : u.sequencer = s.sequencer) :
    Came m s result t k where
  blocks := same ▸ h.blocks
  ends := same ▸ h.ends
  awaited := h.awaited

theorem blocked_input_iff {answer : Except Status Event} :
    Waiting.blocked (checkAnswer .eventInput answer) = true ↔
      answer = .error Status.wouldBlock := by
  rw [blocked_iff]
  cases answer with
  | ok e => simp [checkAnswer]
  | error status => simp [checkAnswer]

/-- Between two scenes time may have passed. What there is to read is not lost sight of. -/
structure Idle (s u : Scene σ χ) : Prop where
  sequencer : u.sequencer = s.sequencer
  awaited : u.awaited = s.awaited
  watched : s.line.Watched → u.line.Watched

theorem Idle.refl (s : Scene σ χ) : Idle s s := ⟨rfl, rfl, id⟩

theorem Idle.trans {v : Scene σ χ} (first : Idle s u) (second : Idle u v) : Idle s v where
  sequencer := second.sequencer.trans first.sequencer
  awaited := second.awaited.trans first.awaited
  watched before := second.watched (first.watched before)

variable {c : Connection} (hc : c.isOpen = true)
include hc

theorem run_round_cases (again : Dialogue (Except Error (Option Event)))
    (awaited : s.awaited = []) :
    (m.inputAt s.sequencer 0 = .error Status.wouldBlock ∧
      (Waiting.round c.tryInput again).run (answer m) s = again.run (answer m) (s.took m)) ∨
    ∃ result, (Waiting.round c.tryInput again).run (answer m) s = (some result, s.took m) ∧
      result ≠ .ok none ∧ Came m s result (s.took m) 0 := by
  have runs : (Waiting.round c.tryInput again).run (answer m) s =
      (if Waiting.blocked (checkAnswer .eventInput (m.inputAt s.sequencer 0)) = true then again
        else .done ((checkAnswer .eventInput (m.inputAt s.sequencer 0)).map some)).run (answer m)
          (s.took m) := by
    unfold Waiting.round
    rw [(Connection.attempts_tryInput hc).run]
    rfl
  rw [runs]
  by_cases hb : Waiting.blocked (checkAnswer .eventInput (m.inputAt s.sequencer 0)) = true
  · rw [if_pos hb]
    exact .inl ⟨blocked_input_iff.1 hb, rfl⟩
  · rw [if_neg hb]
    refine .inr ⟨_, rfl, ?_, ⟨nofun, .inr ⟨mt blocked_input_iff.2 hb, rfl, rfl⟩, awaited⟩⟩
    cases m.inputAt s.sequencer 0 <;> simp [checkAnswer, Except.map]

omit hc in
theorem run_patience (limit : Option Instant) (next : Dialogue (Except Error (Option Event))) :
    ∃ u, Idle s u ∧ ((patience .read limit next).run (answer m) s = next.run (answer m) u ∨
      ¬ InTime limit s.line.clock ∧
        (patience .read limit next).run (answer m) s = (some (.ok none), u)) := by
  have polled (left : Option Duration) (v : Scene σ χ) : ∃ u, Idle v u ∧
      (Waiting.polled .read left next).run (answer m) v = next.run (answer m) u := by
    refine ⟨{ v with line := (v.line.poll .read (pollTimeout left)).2 },
      ⟨rfl, rfl, fun h => h.poll _ _⟩, ?_⟩
    unfold Waiting.polled
    rw [Program.run]
    have reported := v.line.poll_cases .read (pollTimeout left)
    change (answer m (.poll .read (pollTimeout left)) v).1 = _ ∨
      (answer m (.poll .read (pollTimeout left)) v).1 = _ at reported
    rcases reported with ready | ready <;> rw [ready] <;> rfl
  cases limit with
  | none =>
    obtain ⟨u, idle, runs⟩ := polled none s
    exact ⟨u, idle, .inl runs⟩
  | some d =>
    let v : Scene σ χ := { s with line := s.line.now.2 }
    have looked : Idle s v := ⟨rfl, rfl, Line.Watched.now⟩
    have reads : (patience .read (some d) next).run (answer m) s =
        (if d ≤ s.line.clock then .done (.ok none)
          else Waiting.polled .read (some (d - s.line.clock)) next).run (answer m) v := by
      have ends := apply_ite (fun left => (Program.done left >>= fun
        | none => .done (.ok none)
        | some left => Waiting.polled .read left next : Dialogue _)) (d ≤ s.line.clock) none
          (some (some (d - s.line.clock)))
      exact congrArg (fun p => p.run (answer m) v) ends
    rw [reads]
    by_cases late : d ≤ s.line.clock
    · rw [if_pos late]
      exact ⟨v, looked, .inr ⟨fun inTime => Nat.not_le.2 (inTime d rfl) late, rfl⟩⟩
    · rw [if_neg late]
      obtain ⟨u, idle, runs⟩ := polled (some (d - s.line.clock)) v
      exact ⟨u, looked.trans idle, .inl runs⟩

omit hc in
theorem run_deadline {β : Type} (timeout : Option Duration) (f : Option Instant → Dialogue β)
    (s : Scene σ χ) : ∃ u limit, Idle s u ∧ (Prompt timeout → InTime limit u.line.clock) ∧
      (deadline timeout >>= f).run (answer m) s = (f limit).run (answer m) u := by
  cases timeout with
  | none => exact ⟨s, none, .refl s, fun _ => nofun, rfl⟩
  | some d =>
    by_cases zero : d = 0
    · subst zero
      exact ⟨s, none, .refl s, fun _ => nofun, rfl⟩
    · refine ⟨{ s with line := s.line.now.2 }, deadlineFrom s.line.clock d,
        ⟨rfl, rfl, Line.Watched.now⟩, fun prompt => prompt.inTime s.line.clock, ?_⟩
      simp only [deadline, if_neg zero]
      rfl

/-- By induction on the attempts that are granted. -/
theorem came_pollUntil {limit : Option Instant} {n : Nat} (awaited : s.awaited = [])
    (runs : (pollUntil .read limit c.tryInput n).run.run (answer m) s = (some result, t)) :
    ∃ k, Came m s result t k ∧
      (result = .ok none → 0 < k ∧ (InTime limit s.line.clock → 1 < k)) ∧
      (s.line.Watched → t.line.Watched) := by
  induction n generalizing s with
  | zero => cases runs
  | succ n ih =>
    rw [run_pollUntil_round] at runs
    rcases run_round_cases hc (m := m) _ awaited with ⟨blocks, again⟩ | ⟨other, ends, final, came⟩
    · rw [again] at runs
      obtain ⟨u, idle, goesOn | ⟨late, expired⟩⟩ := run_patience (m := m) (s := s.took m) limit
        (pollUntil .read limit c.tryInput n).run
      · rw [goesOn] at runs
        obtain ⟨k, came, gaveUp, watched⟩ := ih (idle.awaited.trans awaited) runs
        refine ⟨k + 1, came.later blocks idle.sequencer, fun nothing => ?_,
          fun before => watched (idle.watched before)⟩
        have first := (gaveUp nothing).1
        exact ⟨Nat.succ_pos k, fun _ => Nat.succ_lt_succ first⟩
      · rw [expired] at runs
        cases runs
        refine ⟨1, ?_, fun _ => ⟨Nat.one_pos, fun inTime => absurd inTime late⟩, idle.watched⟩
        exact (Came.gaveUp (idle.awaited.trans awaited)).later blocks idle.sequencer
    · rw [ends] at runs
      cases runs
      exact ⟨0, came, fun nothing => absurd nothing final, id⟩

theorem came_retryWhenReady {limit : Option Instant} {n : Nat} (awaited : s.awaited = [])
    (runs : (retryWhenReady .read limit c.tryInput n).run.run (answer m) s = (some result, t)) :
    ∃ k, Came m s result t k ∧ (s.line.Watched → (result = .ok none → 0 < k) ∧
      (result ≠ .ok none → k = 0 → t.line.Watched)) := by
  induction n generalizing s with
  | zero => cases runs
  | succ n ih =>
    have alone : s.yield m .read = s := by
      unfold yield occurAwaited
      simp [awaited]
    have suspends : (retryWhenReady .read limit c.tryInput (n + 1)).run.run (answer m) s =
        (if (s.line.suspend .read limit).1 = true then
          Waiting.round c.tryInput (Program.ask (.clearReady .read) fun _ =>
            (retryWhenReady .read limit c.tryInput n).run)
        else if limit.isSome then .done (.ok none)
        else (retryWhenReady .read limit c.tryInput n).run).run (answer m) (s.resumed limit) := by
      rw [run_retryWhenReady_succ, Program.run]
      simp only [answer, alone]
      rfl
    rw [suspends] at runs
    by_cases ready : (s.line.suspend .read limit).1 = true
    · rw [if_pos ready] at runs
      have came_from {k : Nat} {result : Except Error (Option Event)} {t : Scene σ χ}
          (came : Came m (s.resumed limit) result t k) : Came m s result t k := came.congr rfl
      rcases run_round_cases hc (m := m) (s := s.resumed limit) _ awaited with
        ⟨blocks, again⟩ | ⟨other, ends, final, came⟩
      · rw [again] at runs
        obtain ⟨k, came, -⟩ := ih (s := { (s.resumed limit).took m with
          line := (s.resumed limit).line.clear .read }) awaited runs
        exact ⟨k + 1, came_from (came.later blocks rfl), fun _ =>
          ⟨fun _ => Nat.succ_pos k, fun _ first => absurd first (Nat.succ_ne_zero k)⟩⟩
      · rw [ends] at runs
        cases runs
        exact ⟨0, came_from came, fun watched =>
          ⟨fun nothing => absurd nothing final, fun _ _ => (watched.suspend limit).2⟩⟩
    · rw [if_neg ready] at runs
      have missed (watched : s.line.Watched) : False := ready (watched.suspend limit).1
      cases limit with
      | some d =>
        cases runs
        have came := Came.gaveUp (m := m) (s := s.resumed (some d)) awaited
        exact ⟨0, came.congr rfl, fun watched => (missed watched).elim⟩
      | none =>
        obtain ⟨k, came, -⟩ := ih (s := s.resumed none) awaited runs
        exact ⟨k, came.congr rfl, fun watched => (missed watched).elim⟩

/-- What comes of a wait for input of either kind. Nothing came only behind an input that would
block; and where there is something to read and time for it, behind two. -/
theorem came_input {mode : Mode} {timeout : Option Duration} {n : Nat} (awaited : s.awaited = [])
    (runs : (c.input mode timeout n).run.run (answer m) s = (some result, t)) :
    ∃ k, Came m s result t k ∧ (result = .ok none → 0 < k) ∧
      (s.line.Watched → Prompt timeout → (result = .ok none → 1 < k) ∧
        (result ≠ .ok none → k ≤ 1 → t.line.Watched)) := by
  unfold Connection.input at runs
  cases mode with
  | blocking =>
    rw [run_blocking] at runs
    obtain ⟨u, limit, idle, inTime, begins⟩ := run_deadline (m := m) timeout
      (fun limit => (pollUntil .read limit c.tryInput n).run) s
    rw [begins] at runs
    obtain ⟨k, came, gaveUp, watched⟩ := came_pollUntil hc (idle.awaited.trans awaited) runs
    refine ⟨k, came.congr idle.sequencer, fun nothing => (gaveUp nothing).1,
      fun before prompt => ⟨fun nothing => (gaveUp nothing).2 (inTime prompt), fun _ _ => ?_⟩⟩
    exact watched (idle.watched before)
  | suspending =>
    rw [run_suspending] at runs
    obtain ⟨u, limit, idle, -, begins⟩ := run_deadline (m := m) timeout
      (fun limit => Waiting.round c.tryInput (retryWhenReady .read limit c.tryInput n).run) s
    rw [begins] at runs
    rcases run_round_cases hc (m := m) _ (idle.awaited.trans awaited) with
      ⟨blocks, again⟩ | ⟨other, ends, final, came⟩
    · rw [again] at runs
      obtain ⟨k, came, decided⟩ := came_retryWhenReady hc (s := u.took m)
        (idle.awaited.trans awaited) runs
      refine ⟨k + 1, (came.later blocks rfl).congr idle.sequencer, fun _ => Nat.succ_pos k,
        fun before _ => ?_⟩
      obtain ⟨gaveUp, watched⟩ := decided (idle.watched before)
      refine ⟨fun nothing => Nat.succ_lt_succ (gaveUp nothing), fun some_ once => ?_⟩
      exact watched some_ (by omega)
    · rw [ends] at runs
      cases runs
      exact ⟨0, came.congr idle.sequencer, fun nothing => absurd nothing final, fun before _ =>
        ⟨fun nothing => absurd nothing final, fun _ _ => idle.watched before⟩⟩

omit hc in
theorem Came.settled (came : Came m s result t k) {i : Nat}
    (blocks : ∀ j < i, m.inputAt s.sequencer j = .error Status.wouldBlock)
    (other : m.inputAt s.sequencer i ≠ .error Status.wouldBlock)
    (waits : result = .ok none → i < k) :
    k = i ∧ result = (checkAnswer .eventInput (m.inputAt s.sequencer i)).map some ∧
      t.sequencer = m.afterInputs s.sequencer (i + 1) := by
  rcases came.ends with ⟨nothing, -⟩ | ⟨final, same, left⟩
  · exact absurd (came.blocks i (waits nothing)) other
  · obtain rfl : k = i := by
      rcases Nat.lt_trichotomy k i with before | same | behind
      · exact absurd (blocks k before) final
      · exact same
      · exact absurd (came.blocks i behind) other
    exact ⟨rfl, same, left⟩

/-- Two clients of the same sequencer, before the same inputs. -/
structure Abreast (m : Simulator σ χ) (ready : Prop) (s t : Scene σ χ) : Prop where
  sequencer : t.sequencer = s.sequencer
  awaited : s.awaited = [] ∧ t.awaited = []
  fair : Fair ready (m.inputAt s.sequencer)
  watched : ready → s.line.Watched ∧ t.line.Watched

variable {ready : Prop} {mode mode' : Mode} {timeout : Option Duration} {n n' : Nat}
  {s' t' : Scene σ χ} {result' : Except Error (Option Event)}

theorem Abreast.input (h : Abreast m ready s t) (prompt : ready → Prompt timeout)
    (runs : (c.input mode timeout n).run.run (answer m) s = (some result, s'))
    (runs' : (c.input mode' timeout n').run.run (answer m) t = (some result', t')) :
    result' = result ∧ (∃ k l, s'.sequencer = m.afterInputs s.sequencer k ∧
        t'.sequencer = m.afterInputs s.sequencer l) ∧
      ∀ e, result = .ok (some e) → Abreast m ready s' t' := by
  obtain ⟨k, came, waits, prompted⟩ := came_input hc h.awaited.1 runs
  obtain ⟨l, came', waits', prompted'⟩ := came_input hc h.awaited.2 runs'
  replace came' := came'.congr h.sequencer
  rcases h.fair.cases with all | ⟨i, blocks, other, once⟩
  · obtain ⟨nothing, left⟩ := came.ends.resolve_right fun some_ => some_.1 (all k)
    obtain ⟨nothing', left'⟩ := came'.ends.resolve_right fun some_ => some_.1 (all l)
    refine ⟨nothing'.trans nothing.symm, ⟨k, l, left, left'⟩, fun e found => ?_⟩
    rw [nothing] at found
    cases found
  · have patient : (result = .ok none → i < k) ∧ (result' = .ok none → i < l) := by
      rcases once with rfl | ⟨rfl, isReady⟩
      · exact ⟨waits, waits'⟩
      · have watched := h.watched isReady
        exact ⟨(prompted watched.1 (prompt isReady)).1, (prompted' watched.2 (prompt isReady)).1⟩
    obtain ⟨rfl, same, left⟩ := came.settled blocks other patient.1
    obtain ⟨rfl, same', left'⟩ := came'.settled blocks other patient.2
    refine ⟨same'.trans same.symm, ⟨_, _, left, left'⟩, fun e found => ?_⟩
    have soon : l ≤ 1 := by omega
    refine ⟨left'.trans left.symm, ⟨came.awaited, came'.awaited⟩, ?_, fun isReady => ?_⟩
    · rw [left]
      have rest : m.inputAt (m.afterInputs s.sequencer (l + 1)) =
          fun j => m.inputAt s.sequencer (l + 1 + j) :=
        funext (m.inputAt_afterInputs s.sequencer (l + 1))
      rw [rest]
      refine h.fair.drop fun j hj status failed => ?_
      rcases Nat.lt_succ_iff_lt_or_eq.1 hj with before | rfl
      · rw [blocks j before] at failed
        cases failed
        rfl
      · rw [same, failed] at found
        cases found
    · have watched := h.watched isReady
      have some_ : result ≠ .ok none := by simp [found]
      have some' : result' ≠ .ok none := by simp [same'.trans same.symm, found]
      exact ⟨(prompted watched.1 (prompt isReady)).2 some_ soon,
        (prompted' watched.2 (prompt isReady)).2 some' soon⟩

end Scene

end MidiSequencer
