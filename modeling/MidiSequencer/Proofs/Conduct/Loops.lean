import MidiSequencer.Proofs.Conduct.Actions
import MidiSequencer.Proofs.Rounds

/-! # Conduct of loops

Enumerations and waits heed the rules if each of their rounds does. A closed connection ends them in
the first round. -/
namespace MidiSequencer

/-- What has to come out of one step of an enumeration: an error, after which it has ended. -/
def Duty.step (ι : Type) : Duty (Option (Except Error ι) × Cursor) where
  refused o := ∃ e cursor, o = some (some (.error e), cursor) ∧ cursor.finished = true ∧
    e.status? = none
  reported e o := ∃ cursor, o = some (some (.error e), cursor) ∧ cursor.finished = true

/-- What has to come out of all steps: an error as the last item. The steps that are granted may
not suffice to see that nothing follows it. -/
def Duty.items (ι : Type) (cut : Prop) : Duty (List (Except Error ι)) where
  refused
    | none => cut
    | some items => ∃ e, items = [.error e] ∧ e.status? = none
  reported e
    | none => True
    | some items => items.getLast? = some (.error e)

namespace Enumeration

open MidiSequencer.Action

variable {ι β : Type} {e : Enumeration ι} {R : Rules} {cut : Prop}

protected def Heeds (e : Enumeration ι) (R : Rules) : Prop :=
  ∀ previous, Action.Heeds R False (e.next previous)

theorem heeds_step (he : e.Heeds R) {cursor : Cursor}
    (hc : cursor.finished = false) : Dialogue.Heeds R (.step ι) (e.step cursor) := by
  rw [step_of_unfinished hc]
  apply Dialogue.Heeds.bind (he cursor.previous)
  · intro result hr
    cases ho : R.isOpen with
    | true => rcases result with err | (_ | a) <;> exact Dialogue.heeds_of_isOpen ho _
    | false =>
      obtain ⟨err, rfl, hs⟩ := hr ho
      exact fun _ => ⟨err, _, rfl, rfl, hs⟩
  · intro _ hn
    cases hn
  · intro err _ result hr
    cases hr
    exact Dialogue.ends_done ⟨_, rfl, rfl⟩
  · intro err hn
    cases hn

theorem ends_items_after_error (err : Error) {cursor : Cursor} (hc : cursor.finished = true)
    (n : Nat) : Dialogue.Ends (e.items n cursor >>= fun rest => .done (.error err :: rest))
      ((Duty.items ι cut).reported err) := by
  cases n with
  | zero => exact Dialogue.ends_unfinished trivial
  | succ n =>
    rw [items_of_finished hc]
    exact Dialogue.ends_done rfl

theorem heeds_items_after_error (ho : R.isOpen = true) (err : Error) {cursor : Cursor}
    (hc : cursor.finished = true) (n : Nat) : Dialogue.Heeds R (.items ι cut)
      (e.items n cursor >>= fun rest => .done (.error err :: rest)) := by
  cases n with
  | zero => exact Dialogue.heeds_unfinished_of_isOpen ho
  | succ n =>
    rw [items_of_finished hc]
    exact Dialogue.heeds_of_isOpen ho _

theorem heeds_items_cons (ho : R.isOpen = true) {p : Dialogue (List (Except Error ι))}
    (hp : Dialogue.Heeds R (.items ι cut) p) (a : ι) :
    Dialogue.Heeds R (.items ι cut) (p >>= fun rest => .done (.ok a :: rest)) := by
  apply hp.bind
  · intro items _
    exact Dialogue.heeds_of_isOpen ho _
  · exact fun _ hcut => hcut
  · intro err _ items hi
    refine Dialogue.ends_done ?_
    cases items with
    | nil => cases hi
    | cons x items => exact hi
  · exact fun _ _ => trivial

/-- By induction on the steps that are granted. -/
theorem heeds_items (he : e.Heeds R) {n : Nat}
    (hn : R.isOpen = false → n < 2 → cut) {cursor : Cursor} (hc : cursor.finished = false) :
    Dialogue.Heeds R (.items ι cut) (e.items n cursor) := by
  induction n generalizing cursor with
  | zero => exact fun ho => hn ho (by omega)
  | succ n ih =>
    rw [items_succ hc]
    apply Dialogue.Heeds.bind (he cursor.previous)
    · intro result hr
      cases ho : R.isOpen with
      | true =>
        have free : R.isOpen = false → n < 2 → cut := fun hn => by simp [ho] at hn
        rcases result with err | (_ | a)
        · exact heeds_items_after_error ho err rfl n
        · exact Dialogue.heeds_of_isOpen ho _
        · have rest : Dialogue.Heeds R (.items ι cut)
              (e.items n { cursor with previous := e.previous a }) := ih free hc
          exact heeds_items_cons ho rest a
      | false =>
        obtain ⟨err, rfl, hs⟩ := hr ho
        cases n with
        | zero => exact fun _ => hn ho (by omega)
        | succ n =>
          dsimp only
          rw [items_of_finished rfl]
          exact fun _ => ⟨err, rfl, hs⟩
    · intro _ hn
      cases hn
    · intro err _ result hr
      cases hr
      exact ends_items_after_error err rfl n
    · intro err hn
      cases hn

theorem heeds_fold (he : ∀ previous, Heeds R cut (e.next previous)) {visit : β → ι → Action β}
    (hv : R.isOpen = true → ∀ b a, Heeds R cut (visit b a)) {n : Nat}
    (hn : R.isOpen = false → n < 1 → cut) {cursor : Cursor} (hc : cursor.finished = false) (b : β) :
    Heeds R cut (e.fold visit n cursor b) := by
  induction n generalizing cursor b with
  | zero => exact fun ho => hn ho (by omega)
  | succ n ih =>
    unfold Heeds
    rw [run_fold_succ hc]
    apply Dialogue.Heeds.bind (he cursor.previous)
    · intro result hr
      cases ho : R.isOpen with
      | true =>
        rcases result with err | (_ | a)
        · exact Dialogue.heeds_of_isOpen ho _
        · exact Dialogue.heeds_of_isOpen ho _
        · have free : R.isOpen = false → n < 1 → cut := fun hn => by simp [ho] at hn
          have rest (b : β) :
              Heeds R cut (e.fold visit n { cursor with previous := e.previous a } b) :=
            @ih free { cursor with previous := e.previous a } hc b
          exact heeds_bind (hv ho b a) fun _ b => rest b
      | false =>
        obtain ⟨err, rfl, hs⟩ := hr ho
        exact heeds_error hs
    · exact fun _ hcut => hcut
    · intro err _ result hr
      cases hr
      exact Dialogue.ends_done rfl
    · intro err hn
      cases hn

end Enumeration

namespace Waiting

open MidiSequencer.Action

variable {α : Type} {R : Rules} {cut : Prop}

theorem not_blocked_of_refused {answer : Except Error α}
    (h : ∃ e, answer = .error e ∧ e.status? = none) : blocked answer = false := by
  obtain ⟨e, rfl, he⟩ := h
  simp [blocked, Error.isWouldBlock, he]

section

variable {attempt : Action α} (hw : R.waits = true)
  (transfers : ∀ c : Call, c.name ∈ R.names → c.isTransfer = true)
include hw transfers

theorem not_blocked_of_reports {e : Error} (he : R.Reports e) :
    blocked (.error e : Except Error α) = false := by
  obtain ⟨c, s, rfl, -, hc, hx⟩ := he
  have other : s ≠ Status.wouldBlock := by
    intro hs
    exact hx (.inr (.inl ⟨hw, transfers c hc, hs⟩))
  simp [blocked, Error.isWouldBlock, Error.status?, other]

/-- An attempt and what is done about its answer: a closed connection and a failure that is not
exempt end the wait. -/
theorem heeds_round (ha : Heeds R cut attempt)
    {again : Dialogue (Except Error (Option α))}
    (hagain : R.isOpen = true → Dialogue.Heeds R (.action (Option α) cut) again) :
    Dialogue.Heeds R (.action (Option α) cut) (round attempt again) := by
  apply Dialogue.Heeds.bind ha
  · intro answer hr
    cases ho : R.isOpen with
    | true =>
      by_cases hb : blocked answer = true
      · rw [if_pos hb]
        exact hagain ho
      · rw [if_neg hb]
        exact Dialogue.heeds_of_isOpen ho _
    | false =>
      have refused := hr ho
      rw [not_blocked_of_refused refused]
      obtain ⟨e, rfl, he⟩ := refused
      exact fun _ => ⟨e, rfl, he⟩
  · exact fun _ hcut => hcut
  · intro e he answer hr
    cases hr
    rw [not_blocked_of_reports hw transfers he]
    exact Dialogue.ends_done rfl
  · intro e hn
    cases hn

theorem heeds_wait (ha : Heeds R cut attempt) (mode : Mode) (interest : Interest)
    (timeout : Option Duration) {n : Nat} (hn : R.isOpen = false → n < 1 → cut) :
    Heeds R cut (wait mode interest timeout attempt n) := by
  have silent : Silent (Dialogue.Heeds R (.action (Option α) cut)) := by
    intro q next hq hf
    cases q with
    | call c => cases hq
    | _ => exact Dialogue.heeds_ask trivial (fun _ _ _ h => h) hf
  cases ho : R.isOpen with
  | true =>
    have rules : RoundRules attempt (Dialogue.Heeds R (.action (Option α) cut)) :=
      { silent
        unfinished := Dialogue.heeds_unfinished_of_isOpen ho
        expired := Dialogue.heeds_of_isOpen ho _
        broken := fun number => Dialogue.heeds_of_isOpen ho _
        round := fun again h => heeds_round hw transfers ha fun _ => h }
    exact rules.wait mode interest timeout n
  | false =>
    have first (again : Dialogue (Except Error (Option α))) :
        Dialogue.Heeds R (.action (Option α) cut) (round attempt again) :=
      heeds_round hw transfers ha fun hc => by simp [ho] at hc
    exact wait_of_first silent first mode interest timeout fun h0 _ => hn ho (by omega)

end

end Waiting

namespace Connection

open MidiSequencer.Action

def asking (c : Connection) (name : String) : Rules where
  isOpen := c.isOpen
  names := [name]

theorem heeds_clients (c : Connection) : c.clients.Heeds (c.asking "query_next_client") :=
  fun previous => heeds_nextClient rfl (.head _) previous

theorem heeds_ports (c : Connection) (client : Int) :
    (c.ports client).Heeds (c.asking "query_next_port") :=
  fun previous => heeds_nextPort rfl (.head _) client previous

variable {c : Connection} {R : Rules} {cut : Prop}

section

variable (hR : R.isOpen = c.isOpen) (hports : "query_next_port" ∈ R.names)
include hR hports

theorem heeds_collectPorts (ho : R.isOpen = true) (f : PortFilter) (n : Nat)
    (found : List PortInfo) (client : ClientInfo) :
    Heeds R cut (c.collectPorts f n found client) := by
  unfold collectPorts
  split
  · have next (previous : Previous) : Heeds R cut (c.nextPort client.clientId previous) :=
      heeds_nextPort hR hports client.clientId previous
    refine Enumeration.heeds_fold (e := c.ports client.clientId) next ?_ ?_ rfl found
    · intro _ found p
      exact heeds_pure ho _
    · intro hc
      simp [ho] at hc
  · exact heeds_pure ho _

variable (hclients : "query_next_client" ∈ R.names)
include hclients

theorem heeds_allPorts (f : PortFilter) {n : Nat} (hn : R.isOpen = false → n < 1 → cut) :
    Heeds R cut (c.allPorts f n) := by
  have next (previous : Previous) : Heeds R cut (c.nextClient previous) :=
    heeds_nextClient hR hclients previous
  exact Enumeration.heeds_fold (e := c.clients) next
    (fun ho => heeds_collectPorts hR hports ho f n) hn rfl []

theorem heeds_listPorts (f : PortFilter) {n : Nat} (hn : R.isOpen = false → n < 1 → cut) :
    Heeds R cut (c.listPorts f n) :=
  heeds_return (heeds_allPorts hR hports hclients f hn) _

theorem heeds_listPortsBy (f : PortFilter) (le : PortInfo → PortInfo → Bool) {n : Nat}
    (hn : R.isOpen = false → n < 1 → cut) : Heeds R cut (c.listPortsBy f le n) :=
  heeds_return (heeds_allPorts hR hports hclients f hn) _

end

end Connection

end MidiSequencer
