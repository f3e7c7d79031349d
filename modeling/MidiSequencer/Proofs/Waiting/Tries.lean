import MidiSequencer.Proofs.Waiting.Patience

/-! # Tries of a wait

Whatever is answered, a wait makes the same call again while it would block. The first answer of
another kind decides, unless the wait gives up before. -/
namespace MidiSequencer.Waiting

variable {α : Type} {c : Call} {check : c.Answer → Except Error α}

/-- The calls of a wait, and what they come to. -/
inductive Tried (c : Call) (check : c.Answer → Except Error α) :
    Call.History → Option (Except Error (Option α)) → Prop where
  | ceased {result} (gives : ∀ r, result = some r → GivesUp r) : Tried c check [] result
  | decided {answer} (final : blocked (check answer) = false) :
      Tried c check [⟨c, answer⟩] (some ((check answer).map some))
  | blocked {answer calls result} (blocks : blocked (check answer) = true) :
      Tried c check calls result → Tried c check (⟨c, answer⟩ :: calls) result

theorem tried_wait {attempt : Action α} (ha : Attempts attempt c check) (mode : Mode)
    (interest : Interest) (timeout : Option Duration) (n : Nat) {h : Dialogue.History}
    {result : Option (Except Error (Option α))}
    (ht : Program.Traces (wait mode interest timeout attempt n).run h result) :
    Tried c check (Dialogue.calls h) result := by
  have ended (r : Except Error (Option α)) (gives : GivesUp r) (h : Dialogue.History)
      (o : Option (Except Error (Option α))) (ht : Program.Traces (.done r) h o) :
      Tried c check (Dialogue.calls h) o := by
    obtain ⟨rfl, rfl⟩ := Program.traces_done_iff.1 ht
    exact .ceased fun _ same => Option.some.inj same ▸ gives
  have rules : RoundRules attempt fun p => ∀ h o, Program.Traces p h o →
      Tried c check (Dialogue.calls h) o :=
    { silent := fun q next hq hp h o ht => by
        obtain ⟨answer, t, rfl, later⟩ := Program.traces_ask_iff.1 ht
        cases q with
        | call c => cases hq
        | _ => exact hp answer t o later
      unfinished := fun h o ht => by
        obtain ⟨rfl, rfl⟩ := Program.traces_unfinished_iff.1 ht
        exact .ceased nofun
      expired := ended _ trivial
      broken := fun number => ended _ ⟨number, rfl⟩
      round := fun again hp h o ht => by
        unfold round at ht
        rw [ha.run, Program.ask_bind] at ht
        obtain ⟨answer, t, rfl, later⟩ := Program.traces_ask_iff.1 ht
        rw [Program.done_bind] at later
        cases hb : Waiting.blocked (check answer) with
        | true =>
          rw [if_pos hb] at later
          exact .blocked hb (hp t o later)
        | false =>
          rw [if_neg (by simp [hb])] at later
          obtain ⟨rfl, rfl⟩ := Program.traces_done_iff.1 later
          exact .decided hb }
  exact rules.wait mode interest timeout n h result ht

end MidiSequencer.Waiting
