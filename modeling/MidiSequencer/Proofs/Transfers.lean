import MidiSequencer.Proofs.Conduct.Sessions

/-! # Transfers

An operation that moves an event does it with its last call, and says so in its answer. Which calls
move an event is left open: those that hand one over, or those that take one. -/
namespace MidiSequencer

variable {α β : Type} {moved? : Program.Exchange Call Call.Answer → Option Event}

namespace Dialogue

variable {shown : α → Option Event}

/-- The program moves at most one event, with its last call, and answers a value that shows it. -/
def Moves (moved? : Program.Exchange Call Call.Answer → Option Event) (shown : α → Option Event) :
    Program Request Request.Answer (Except Error α) → Prop
  | .done result => result.toOption.bind shown = none
  | .unfinished => True
  | .ask (.call c) next => ∀ answer,
      (moved? ⟨c, answer⟩ = none → Moves moved? shown (next answer)) ∧
      ∀ e, moved? ⟨c, answer⟩ = some e → ∃ a, next answer = .done (.ok a) ∧ shown a = some e
  | .ask _ next => ∀ answer, Moves moved? shown (next answer)

/-- By induction on the history, which ends with the call that moves the event. -/
theorem Moves.traces {p : Dialogue (Except Error α)} (hp : Moves moved? shown p)
    {h : Dialogue.History} {o : Option (Except Error α)} (ht : Program.Traces p h o) :
    (calls h).filterMap moved? = ((o.bind Except.toOption).bind shown).toList ∧
      (calls h).dropLast.filterMap moved? = [] := by
  induction ht with
  | done result =>
    have silent : result.toOption.bind shown = none := hp
    simp [silent, calls]
  | unfinished => simp [calls]
  | @ask q next answer h o hn ih =>
    cases q with
    | call c =>
      have head : calls (⟨.call c, answer⟩ :: h) = ⟨c, answer⟩ :: calls h := rfl
      rw [head]
      cases ha : moved? ⟨c, answer⟩ with
      | none =>
        obtain ⟨all, last⟩ := ih ((hp answer).1 ha)
        constructor
        · simpa [ha] using all
        · cases hh : calls h with
          | nil => rfl
          | cons x rest =>
            rw [hh] at last
            simpa [ha] using last
      | some event =>
        obtain ⟨a, ended, said⟩ := (hp answer).2 event ha
        rw [ended] at hn
        obtain ⟨rfl, rfl⟩ := Program.traces_done_iff.1 hn
        simp [calls, ha, Except.toOption, said]
    | _ => exact ih (hp answer)

end Dialogue

namespace Waiting

open Dialogue

variable {attempt : Action α} {shown : α → Option Event}

theorem moves_round (shows_ : ∀ a, (shown a).isSome = true)
    (ha : Moves moved? shown attempt.run) {again : Dialogue (Except Error (Option α))}
    (hagain : Moves moved? (·.bind shown) again) :
    Moves moved? (·.bind shown) (round attempt again) := by
  unfold round
  generalize attempt.run = p at ha ⊢
  induction p with
  | done result =>
    cases result with
    | ok a =>
      have silent : shown a = none := ha
      have loud := shows_ a
      rw [silent] at loud
      cases loud
    | error err =>
      rw [Program.done_bind]
      split
      · exact hagain
      · rfl
  | unfinished => trivial
  | ask q next ih =>
    cases q with
    | call c =>
      intro answer
      refine ⟨fun hc => ih answer ((ha answer).1 hc), fun event hc => ?_⟩
      obtain ⟨a, ended, said⟩ := (ha answer).2 event hc
      exact ⟨some a, congrArg (· >>= _) ended, said⟩
    | _ => exact fun answer => ih answer (ha answer)

theorem moves_wait (shows_ : ∀ a, (shown a).isSome = true) (ha : Moves moved? shown attempt.run)
    (mode : Mode) (interest : Interest) (timeout : Option Duration) (n : Nat) :
    Moves moved? (·.bind shown) (wait mode interest timeout attempt n).run := by
  have rules : RoundRules attempt (Moves moved? (·.bind shown)) :=
    { silent := fun q next hq hf => by
        cases q with
        | call c => cases hq
        | _ => exact hf
      unfinished := trivial
      expired := rfl
      broken := fun number => rfl
      round := fun again h => moves_round shows_ ha h }
  exact rules.wait mode interest timeout n

end Waiting

theorem Connection.moves_call {c : Connection} (q : Call) (check : q.Answer → Except Error α)
    {shown : α → Option Event}
    (checked : ∀ answer, (check answer).toOption.bind shown = moved? ⟨q, answer⟩) :
    Dialogue.Moves moved? shown (c.call q >>= fun answer => liftM (check answer)).run := by
  unfold Connection.call
  cases c.isOpen with
  | false => rfl
  | true =>
    intro answer
    refine ⟨fun silent => (checked answer).trans silent, fun e moved => ?_⟩
    have shown_e := (checked answer).trans moved
    cases hc : check answer with
    | error err =>
      rw [hc] at shown_e
      cases shown_e
    | ok a =>
      rw [hc] at shown_e
      exact ⟨a, congrArg Program.done hc, shown_e⟩

namespace Session

variable {s : Session} {bound : Nat} {h : Dialogue.History} {result : Option (Outcome × Session)}
  {said : Option Outcome → List Event}

/-- What the calls of a history move is what the outcome says, and nothing is moved before the last
call. -/
structure Transfers (moved? : Program.Exchange Call Call.Answer → Option Event)
    (said : Option Outcome → List Event) (h : Dialogue.History)
    (result : Option (Outcome × Session)) : Prop where
  all : (Dialogue.calls h).filterMap moved? = said (result.map Prod.fst)
  last : (Dialogue.calls h).dropLast.filterMap moved? = []

theorem transfers_done {x : Outcome × Session} (hx : said (some x.1) = [])
    (ht : Program.Traces (.done x) h result) : Transfers moved? said h result := by
  obtain ⟨rfl, rfl⟩ := Program.traces_done_iff.1 ht
  exact ⟨hx.symm, rfl⟩

theorem transfers_onlyBlocking {d : Dialogue (Outcome × Session)}
    (silent : said (some .unsupported) = [])
    (hd : Program.Traces d h result → Transfers moved? said h result)
    (ht : Program.Traces (s.onlyBlocking d) h result) : Transfers moved? said h result := by
  unfold onlyBlocking at ht
  split at ht
  · exact hd ht
  · exact transfers_done silent ht

theorem transfers_withSlot {slot : Option β} {f : β → Dialogue (Outcome × Session)}
    (silent : said (some .noSuchSlot) = [])
    (hf : ∀ b, slot = some b → Program.Traces (f b) h result → Transfers moved? said h result)
    (ht : Program.Traces (s.withSlot slot f) h result) : Transfers moved? said h result := by
  cases slot with
  | none => exact transfers_done silent ht
  | some b => exact hf b rfl ht

theorem transfers_report {f : α → Value} {shown : α → Option Event} {a : Action α}
    (silent : said none = []) (failed : ∀ e, said (some (.error e)) = [])
    (hf : ∀ a, said (some (.value (f a))) = (shown a).toList)
    (ha : Dialogue.Moves moved? shown a.run) (ht : Program.Traces (s.report f a) h result) :
    Transfers moved? said h result := by
  rcases Program.traces_bind_iff.1 ht with ⟨h₁, r, h₂, rfl, ht₁, ht₂⟩ | ⟨rfl, cut⟩
  · obtain ⟨rfl, rfl⟩ := Program.traces_done_iff.1 ht₂
    obtain ⟨all, last⟩ := ha.traces ht₁
    rw [List.append_nil]
    refine ⟨?_, last⟩
    rw [all]
    cases r with
    | ok v => exact (hf v).symm
    | error err => exact (failed err).symm
  · obtain ⟨all, last⟩ := ha.traces cut
    exact ⟨all.trans silent.symm, last⟩

theorem moved_of_names {γ : Type} {moved? : Program.Exchange Call Call.Answer → Option γ}
    {c : Call.History} {movers names : List String}
    (hm : ∀ x e, moved? x = some e → x.question.name ∈ movers)
    (hc : ∀ x ∈ c, x.question.name ∈ names) (hn : ∀ name ∈ movers, name ∉ names) :
    c.filterMap moved? = [] := by
  rw [List.filterMap_eq_nil_iff]
  intro x hx
  cases ha : moved? x with
  | none => rfl
  | some e => exact absurd (hc x hx) (hn _ (hm x e ha))

theorem transfers_other {movers : List String} {operation : Operation}
    (hm : ∀ x e, moved? x = some e → x.question.name ∈ movers) (silent : ∀ o, said o = [])
    (hn : ∀ name ∈ movers, name ∉ operation.callNames)
    (ht : Program.Traces (s.perform bound operation) h result) :
    Transfers moved? said h result := by
  have heeds := s.perform_heeds bound operation
  have named : ∀ x ∈ Dialogue.calls h, x.question.name ∈ operation.callNames := heeds.names ht
  constructor
  · rw [moved_of_names hm named hn, silent]
  · exact moved_of_names hm (fun x hx => named x (List.dropLast_subset _ hx)) hn

theorem finish_names {o : Option Session} (ht : Program.Traces s.finish h o) :
    ∀ x ∈ Dialogue.calls h, x.question.name ∈ Operation.close.callNames := by
  have hi : (s.rules .close).Ignores := s.rules_ignores rfl
  have heeds := heeds_finish rfl hi (.head _) (.tail _ (.head _)) (.tail _ (.tail _ (.head _)))
  exact heeds.names ht

end Session

end MidiSequencer
