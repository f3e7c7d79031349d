import MidiSequencer.Proofs.Conduct.Rules
import MidiSequencer.Query

/-! # Conduct of actions

Calls with the check of their answers heed the rules, whatever is answered. -/
namespace MidiSequencer

/-- What has to come out of an action: on a closed connection an error of its own, behind a call
that failed the error of this call. -/
def Duty.action (α : Type) (cut : Prop) : Duty (Except Error α) where
  refused
    | none => cut
    | some result => ∃ e, result = .error e ∧ e.status? = none
  reported e o := o = some (.error e)

/-- An action that may be cut short on a closed connection only where `cut` holds. -/
def Action.Heeds {α : Type} (R : Rules) (cut : Prop) (a : Action α) : Prop :=
  Dialogue.Heeds R (.action α cut) a.run

namespace Action

variable {α β : Type} {R : Rules} {cut : Prop}

theorem heeds_error {e : Error} (he : e.status? = none) : Heeds R cut (throw e : Action α) :=
  fun _ => ⟨e, rfl, he⟩

theorem heeds_pure (hc : R.isOpen = true) (a : α) : Heeds R cut (pure a) :=
  Dialogue.heeds_of_isOpen hc _

theorem heeds_bind {a : Action α} {f : α → Action β} (ha : Heeds R cut a)
    (hf : R.isOpen = true → ∀ x, Heeds R cut (f x)) : Heeds R cut (a >>= f) := by
  unfold Heeds
  rw [ExceptT.run_bind]
  apply Dialogue.Heeds.bind ha
  · intro result hr
    cases hc : R.isOpen with
    | true =>
      cases result with
      | ok x => exact hf hc x
      | error e => exact Dialogue.heeds_of_isOpen hc _
    | false =>
      obtain ⟨e, rfl, he⟩ := hr hc
      exact heeds_error he
  · exact fun _ hn => hn
  · intro e _ result hr
    cases hr
    exact Dialogue.ends_done rfl
  · intro e hn
    cases hn

theorem heeds_checked {e : Except Error α} {f : α → Action β}
    (he : ∀ x, e = .error x → x.status? = none) (hf : ∀ x, e = .ok x → Heeds R cut (f x)) :
    Heeds R cut (liftM e >>= f) := by
  cases e with
  | ok x => exact hf x rfl
  | error x => exact heeds_error (he x rfl)

theorem heeds_return {a : Action α} (ha : Heeds R cut a) (f : α → β) :
    Heeds R cut (a >>= fun x => pure (f x)) :=
  heeds_bind ha fun hc x => heeds_pure hc (f x)

end Action

def Misuse.ofName? (name : String) : Option Misuse :=
  if '\x00' ∈ name.toList then some .interiorNul else none

theorem checkName_eq (name : String) :
    checkName name = ((Misuse.ofName? name).map fun m => .error (.usage m)).getD (.ok name) := by
  unfold checkName Misuse.ofName?
  by_cases nul : '\x00' ∈ name.toList <;> simp [nul]

theorem checkName_error {name : String} {e : Error} (h : checkName name = .error e) :
    e.status? = none := by
  unfold checkName at h
  split at h
  · cases h
    rfl
  · cases h

theorem Previous.inPortsOf_error {client : Int} {previous : Previous} {e : Error}
    (h : previous.inPortsOf client = .error e) : e.status? = none := by
  cases previous with
  | start => cases h
  | id n => cases h
  | port owner n =>
    by_cases ho : owner = client
    · rw [Previous.inPortsOf, if_pos ho] at h
      cases h
    · rw [Previous.inPortsOf, if_neg ho] at h
      cases h
      rfl

theorem checkNext_error {α : Type} {q : Call} {s : Status} (hn : s ≠ Status.notFound)
    (hs : s < 0) :
    checkNext q (.error s : Except Status α) = .error (.service q.label s) := by
  simp [checkNext, checkStatus, hn, hs, Except.map]

namespace Connection

open MidiSequencer.Action

variable {α β : Type} {c : Connection} {R : Rules} {cut : Prop} (hR : R.isOpen = c.isOpen)
include hR

theorem heeds_call {q : Call} (hq : q.name ∈ R.names) {check : q.Answer → Except Error α}
    (checked : ∀ answer s, q.Fails answer s → ¬ R.Exempt q s →
      check answer = .error (.service q.label s)) :
    Heeds R cut (c.call q >>= fun answer => liftM (check answer)) := by
  unfold Connection.call
  cases hc : c.isOpen with
  | false => exact heeds_error rfl
  | true =>
    have isOpen : R.isOpen = true := hR.trans hc
    refine ⟨⟨isOpen, hq⟩, fun answer => ⟨Dialogue.heeds_of_isOpen isOpen _, ?_⟩⟩
    rintro _ s ⟨rfl, hf⟩ hx
    exact Dialogue.ends_done (congrArg some (checked answer s hf hx))

theorem heeds_command {q : Command} (hq : q.name ∈ R.names) : Heeds R cut (c.command q) := by
  refine heeds_call hR (q := .command q) hq ?_
  rintro _ s ⟨negative, -, rfl⟩ -
  exact if_pos negative

theorem heeds_execute {q : Command} (hq : q.name ∈ R.names) : Heeds R cut (c.execute q) :=
  heeds_return (heeds_command hR hq) fun _ => ()

theorem heeds_setClientName (hq : "set_client_name" ∈ R.names) (name : String) :
    Heeds R cut (c.setClientName name) :=
  heeds_checked (fun _ => checkName_error) fun _ _ => heeds_execute hR hq

theorem heeds_tryInput (hq : "event_input" ∈ R.names) : Heeds R cut c.tryInput := by
  refine heeds_call hR (q := .eventInput) hq ?_
  rintro _ s ⟨-, -, rfl⟩ -
  rfl

theorem heeds_tryOutputRecord (hq : "event_output" ∈ R.names)
    (hd : "event_output_direct" ∈ R.names) (direct : Bool) (record : Record) :
    Heeds R cut (c.tryOutputRecord direct record) := by
  cases direct with
  | false => exact heeds_command hR hq
  | true => exact heeds_command hR hd

theorem heeds_clientInfo (hq : "get_client_info" ∈ R.names) (client : Int) :
    Heeds R cut (c.clientInfo client) := by
  refine heeds_call hR (q := .clientInfo client) hq ?_
  rintro _ s ⟨-, -, rfl⟩ -
  rfl

theorem heeds_portInfo (hq : "get_port_info" ∈ R.names) (port : PortRef) :
    Heeds R cut (c.portInfo port) := by
  refine heeds_call hR (q := .portInfo _ _) hq ?_
  rintro _ s ⟨-, -, rfl⟩ -
  rfl

theorem heeds_nextClient (hq : "query_next_client" ∈ R.names) (previous : Previous) :
    Heeds R cut (c.nextClient previous) := by
  apply heeds_checked
  · intro e he
    cases previous <;> cases he
    rfl
  · intro n _
    refine heeds_call hR (q := .nextClient n) hq ?_
    rintro _ s ⟨negative, -, rfl⟩ hx
    exact checkNext_error (fun hn => hx (.inl ⟨rfl, hn⟩)) negative

theorem heeds_nextPort (hq : "query_next_port" ∈ R.names) (client : Int) (previous : Previous) :
    Heeds R cut (c.nextPort client previous) := by
  apply heeds_checked
  · intro e he
    exact Previous.inPortsOf_error he
  · intro n _
    refine heeds_call hR (q := .nextPort client n) hq ?_
    rintro _ s ⟨negative, -, rfl⟩ hx
    exact checkNext_error (fun hn => hx (.inl ⟨rfl, hn⟩)) negative

end Connection

end MidiSequencer
