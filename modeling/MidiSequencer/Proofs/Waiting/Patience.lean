import MidiSequencer.Proofs.Recording
import MidiSequencer.Proofs.Rounds

/-! # Patience

What a wait of either kind does about a call that would block: it goes on, or ends without an error
of the call. -/
namespace MidiSequencer

/-- The last call would block; before the first call this is `b`. -/
def Call.LastBlocked (b : Prop) : Call.History → Prop
  | [] => b
  | x :: rest => LastBlocked (x.answer = x.question.forced Status.wouldBlock) rest

theorem Call.lastBlocked_append (b : Prop) (before : Call.History)
    (x : Program.Exchange Call Call.Answer) :
    LastBlocked b (before ++ [x]) ↔ x.answer = x.question.forced Status.wouldBlock := by
  induction before generalizing b with
  | nil => exact Iff.rfl
  | cons y before ih => exact ih _

namespace Waiting

variable {α : Type}

def GivesUp : Except Error (Option α) → Prop
  | .ok none => True
  | .ok (some _) => False
  | .error e => ∃ number, e = .poll number

/-- No answer is that a call would block, and behind such a call the wait gives up if it ends; `b`
says that the last call was one. -/
def Patient (b : Prop) : Program Request Request.Answer (Except Error (Option α)) → Prop
  | .done result => blocked result = false ∧ (b → GivesUp result)
  | .unfinished => True
  | .ask (.call c) next =>
    ∀ answer, Patient (answer = c.forced Status.wouldBlock) (next answer)
  | .ask _ next => ∀ answer, Patient b (next answer)

theorem Patient.traces {b : Prop} {p : Dialogue (Except Error (Option α))} (hp : Patient b p)
    {h : Dialogue.History} {result : Except Error (Option α)}
    (ht : Program.Traces p h (some result)) : blocked result = false ∧
      (Call.LastBlocked b (Dialogue.calls h) → GivesUp result) := by
  generalize ho : some result = o at ht
  induction ht generalizing b with
  | done r =>
    cases ho
    exact hp
  | unfinished => cases ho
  | @ask q next answer h o hn ih =>
    cases q with
    | call c => exact ih (hp answer) ho
    | _ => exact ih (hp answer) ho

structure Attempts (attempt : Action α) (c : Call) (check : c.Answer → Except Error α) : Prop where
  run : attempt.run = .ask (.call c) fun answer => .done (check answer)
  blocks : blocked (check (c.forced Status.wouldBlock)) = true

section

variable {attempt : Action α} {c : Call} {check : c.Answer → Except Error α}
  (ha : Attempts attempt c check)
include ha

theorem patient_round {again : Dialogue (Except Error (Option α))}
    (hagain : ∀ b, Patient b again) (b : Prop) : Patient b (round attempt again) := by
  unfold round
  simp only [ha.run, Program.ask_bind, Program.done_bind]
  intro answer
  show Patient _ (if blocked (check answer) = true then again
    else .done ((check answer).map some))
  by_cases hb : blocked (check answer) = true
  · rw [if_pos hb]
    exact hagain _
  · rw [if_neg hb]
    have open_ : blocked ((check answer).map some) = false := by
      cases hc : check answer with
      | ok a => rfl
      | error e =>
        rw [hc] at hb
        simpa [Except.map, blocked] using hb
    refine ⟨open_, fun ht => ?_⟩
    rw [ht] at hb
    exact absurd ha.blocks hb

theorem patient_wait (mode : Mode) (interest : Interest) (timeout : Option Duration) (n : Nat)
    (b : Prop) : Patient b (wait mode interest timeout attempt n).run := by
  have rules : RoundRules attempt fun p => ∀ b, Patient b p :=
    { silent := fun q next hq hf b => by
        cases q with
        | call c => cases hq
        | _ => exact fun answer => hf answer b
      unfinished := fun _ => trivial
      expired := fun _ => ⟨rfl, fun _ => trivial⟩
      broken := fun number _ => ⟨rfl, fun _ => ⟨number, rfl⟩⟩
      round := fun again h => patient_round ha h }
  exact rules.wait mode interest timeout n b

end

end Waiting

namespace Connection

open Waiting

variable {c : Connection} (hc : c.isOpen = true)
include hc

theorem attempts_tryInput : Attempts c.tryInput .eventInput (checkAnswer .eventInput) := by
  constructor
  · unfold tryInput Connection.call
    rw [hc]
    rfl
  · rfl

theorem attempts_command (q : Command) :
    Attempts (c.command q) (.command q) (checkStatus (.command q)) := by
  constructor
  · unfold Connection.command Connection.call
    rw [hc]
    rfl
  · rfl

end Connection

end MidiSequencer
