import MidiSequencer.Proofs.Waiting.Retry
import MidiSequencer.Query

/-! # Rounds of loops

Enumerations and waits, one round at a time. -/
namespace MidiSequencer

def Request.isCall : Request → Bool
  | .call _ => true
  | _ => false

namespace Enumeration

variable {ι β : Type} {e : Enumeration ι}

theorem step_of_unfinished {cursor : Cursor} (hc : cursor.finished = false) :
    e.step cursor = (e.next cursor.previous).run >>= fun
      | .ok (some a) => .done (some (.ok a), { cursor with previous := e.previous a })
      | .ok none => .done (none, { cursor with finished := true })
      | .error err => .done (some (.error err), { cursor with finished := true }) := by
  unfold Enumeration.step
  rw [hc]
  rfl

theorem step_of_finished {cursor : Cursor} (hc : cursor.finished = true) :
    e.step cursor = .done (none, cursor) := by
  unfold Enumeration.step
  rw [hc]
  rfl

theorem items_succ {cursor : Cursor} (hc : cursor.finished = false) (n : Nat) :
    e.items (n + 1) cursor = (e.next cursor.previous).run >>= fun
      | .ok (some a) => e.items n { cursor with previous := e.previous a } >>= fun rest =>
        .done (.ok a :: rest)
      | .ok none => .done []
      | .error err => e.items n { cursor with finished := true } >>= fun rest =>
        .done (.error err :: rest) := by
  rw [Enumeration.items, step_of_unfinished hc, Program.bind_assoc]
  congr 1
  funext result
  rcases result with err | (_ | a) <;> rfl

theorem items_of_finished {cursor : Cursor} (hc : cursor.finished = true) (n : Nat) :
    e.items (n + 1) cursor = .done [] := by
  rw [Enumeration.items, step_of_finished hc]
  rfl

theorem run_fold_succ {visit : β → ι → Action β} {cursor : Cursor}
    (hc : cursor.finished = false) (n : Nat) (b : β) :
    (e.fold visit (n + 1) cursor b).run = (e.next cursor.previous).run >>= fun
      | .ok (some a) =>
        (visit b a >>= fun b => e.fold visit n { cursor with previous := e.previous a } b).run
      | .ok none => .done (.ok b)
      | .error err => .done (.error err) := by
  rw [Enumeration.fold, ExceptT.run_bind, step_of_unfinished hc]
  simp only [ExceptT.run_lift, map_eq_pure_bind, bind_assoc]
  congr 1
  funext result
  rcases result with err | (_ | a) <;> rfl

end Enumeration

namespace Connection

variable {c : Connection} (hc : c.isOpen = true)
include hc

theorem run_nextClient {previous : Previous} {n : Int} (hn : previous.inClients = .ok n) :
    (c.nextClient previous).run = .ask (.call (.nextClient n)) fun answer =>
      .done (checkNext (.nextClient n) answer) := by
  unfold nextClient Connection.call
  rw [hn, hc]
  rfl

theorem run_nextPort {client : Int} {previous : Previous} {n : Int}
    (hn : previous.inPortsOf client = .ok n) :
    (c.nextPort client previous).run = .ask (.call (.nextPort client n)) fun answer =>
      .done (checkNext (.nextPort client n) answer) := by
  unfold nextPort Connection.call
  rw [hn, hc]
  rfl

end Connection

namespace Waiting

variable {α : Type}

theorem deadline_cases (timeout : Option Duration) :
    (∃ b, deadline timeout = .done b) ∨
      ∃ g : Instant → Option Instant,
        deadline timeout = Program.ask .now fun now => .done (g now) := by
  cases timeout with
  | none => exact .inl ⟨none, rfl⟩
  | some t =>
    by_cases ht : t = 0
    · refine .inl ⟨none, ?_⟩
      simp [deadline, ht]
    · refine .inr ⟨fun now => deadlineFrom now t, ?_⟩
      simp only [deadline, if_neg ht]
      rfl

theorem remaining_cases (limit : Option Instant) :
    (∃ b, remaining limit = .done b) ∨
      ∃ g : Instant → Option (Option Duration),
        remaining limit = Program.ask .now fun now => .done (g now) := by
  cases limit with
  | none => exact .inl ⟨_, rfl⟩
  | some d => exact .inr ⟨_, rfl⟩

/-- An attempt, and what is done about its answer: another one if it would block. -/
def round (attempt : Action α) (again : Dialogue (Except Error (Option α))) :
    Dialogue (Except Error (Option α)) :=
  attempt.run >>= fun answer => if blocked answer then again else .done (answer.map some)

theorem run_retryWhenReady_succ (interest : Interest) (limit : Option Instant)
    (attempt : Action α) (n : Nat) :
    (retryWhenReady interest limit attempt (n + 1)).run =
      .ask (.suspend interest limit) fun (ready : Bool) =>
        if ready then
          round attempt (Program.ask (.clearReady interest) fun _ =>
            (retryWhenReady interest limit attempt n).run)
        else if limit.isSome then .done (.ok none)
        else (retryWhenReady interest limit attempt n).run := by
  simp only [retryWhenReady, round, ExceptT.run_bind, Action.ask, Dialogue.ask, Program.query,
    ExceptT.run_lift, map_eq_pure_bind, Program.ask_bind, Program.done_bind, Program.pure_eq]
  congr 1
  funext ready
  by_cases hr : ready = true
  · simp only [hr, if_true, ExceptT.run_bind, ExceptT.run_lift, map_eq_pure_bind, bind_assoc,
      Program.pure_eq, Program.done_bind]
    congr 1
    funext answer
    by_cases hb : blocked answer = true
    · simp only [hb, if_true, ExceptT.run_bind, ExceptT.run_lift, map_eq_pure_bind,
        Program.ask_bind, Program.done_bind, Program.pure_eq]
    · cases answer <;> simp [hb] <;> rfl
  · cases limit <;> simp [hr]

theorem run_blocking (interest : Interest) (timeout : Option Duration) (attempt : Action α)
    (n : Nat) : (wait .blocking interest timeout attempt n).run =
      deadline timeout >>= fun limit => (pollUntil interest limit attempt n).run := by
  simp only [wait, blocking, ExceptT.run_bind, ExceptT.run_lift, map_eq_pure_bind, bind_assoc,
    pure_bind]

theorem run_suspending (interest : Interest) (timeout : Option Duration) (attempt : Action α)
    (n : Nat) : (wait .suspending interest timeout attempt n).run =
      deadline timeout >>= fun limit =>
        round attempt (retryWhenReady interest limit attempt n).run := by
  simp only [wait, suspending, round, ExceptT.run_bind, ExceptT.run_lift, map_eq_pure_bind,
    bind_assoc, pure_bind]
  congr 1
  funext limit
  congr 1
  funext answer
  by_cases hb : blocked answer = true
  · simp only [hb, if_true]
  · cases answer <;> simp [hb] <;> rfl

section

variable {P : Dialogue (Except Error (Option α)) → Prop}

def Silent (P : Dialogue (Except Error (Option α)) → Prop) : Prop :=
  ∀ q next, q.isCall = false → (∀ answer, P (next answer)) → P (Program.ask q next)

theorem Silent.reading {β : Type} {p : Dialogue β} {f : β → Dialogue (Except Error (Option α))}
    (silent : Silent P)
    (hp : (∃ b, p = .done b) ∨ ∃ g : Instant → β, p = Program.ask .now fun now => .done (g now))
    (hf : ∀ b, P (f b)) : P (p >>= f) := by
  rcases hp with ⟨b, rfl⟩ | ⟨g, rfl⟩
  · exact hf b
  · exact silent .now _ rfl fun now => hf (g now)

variable {attempt : Action α}

/-- What a property has to respect to hold of every wait for an attempt. -/
structure RoundRules (attempt : Action α) (P : Dialogue (Except Error (Option α)) → Prop) :
    Prop where
  silent : Silent P
  unfinished : P .unfinished
  expired : P (.done (.ok none))
  broken : ∀ number, P (.done (.error (.poll number)))
  round : ∀ again, P again → P (round attempt again)

namespace RoundRules

variable (hP : RoundRules attempt P)
include hP

theorem pollUntil (interest : Interest) (limit : Option Instant) (n : Nat) :
    P (pollUntil interest limit attempt n).run := by
  induction n with
  | zero => exact hP.unfinished
  | succ n ih =>
    rw [run_pollUntil_succ]
    refine hP.round _ (hP.silent.reading (remaining_cases limit) fun left => ?_)
    cases left with
    | none => exact hP.expired
    | some left =>
      refine hP.silent (.poll interest _) _ rfl fun outcome => ?_
      cases outcome with
      | failed number => exact hP.broken number
      | _ => exact ih

theorem retryWhenReady (interest : Interest) (limit : Option Instant) (n : Nat) :
    P (retryWhenReady interest limit attempt n).run := by
  induction n with
  | zero => exact hP.unfinished
  | succ n ih =>
    rw [run_retryWhenReady_succ]
    refine hP.silent (.suspend interest limit) _ rfl fun ready => ?_
    cases ready with
    | true => exact hP.round _ (hP.silent (.clearReady interest) _ rfl fun _ => ih)
    | false =>
      cases limit with
      | some d => exact hP.expired
      | none => exact ih

/-- By induction on the attempts that are granted, for clients of both kinds. -/
theorem wait (mode : Mode) (interest : Interest) (timeout : Option Duration) (n : Nat) :
    P (wait mode interest timeout attempt n).run := by
  cases mode with
  | blocking =>
    rw [run_blocking]
    exact hP.silent.reading (deadline_cases timeout) fun limit => hP.pollUntil interest limit n
  | suspending =>
    rw [run_suspending]
    exact hP.silent.reading (deadline_cases timeout) fun limit =>
      hP.round _ (hP.retryWhenReady interest limit n)

end RoundRules

theorem wait_of_first (silent : Silent P) (first : ∀ again, P (round attempt again)) (mode : Mode)
    (interest : Interest) (timeout : Option Duration) {n : Nat} (cut : n = 0 → P .unfinished) :
    P (wait mode interest timeout attempt n).run := by
  cases mode with
  | blocking =>
    rw [run_blocking]
    refine silent.reading (deadline_cases timeout) fun limit => ?_
    cases n with
    | zero => exact cut rfl
    | succ n =>
      rw [run_pollUntil_succ]
      exact first _
  | suspending =>
    rw [run_suspending]
    exact silent.reading (deadline_cases timeout) fun limit => first _

end

end Waiting

end MidiSequencer
