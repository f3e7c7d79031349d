import MidiSequencer.Proofs.Resources.Account
import MidiSequencer.Session

/-! # What operations ask

Apart from opening, making, giving back and releasing, an operation makes plain calls only, and only
while the connection is open. -/
namespace MidiSequencer

def Call.isPlain : Call → Bool
  | .command (.openSequencer ..) => false
  | .command (.createPort ..) => false
  | .command (.deletePort _) => false
  | .command (.allocQueue _) => false
  | .command (.freeQueue _) => false
  | .release => false
  | _ => true

theorem Deed.ofCall_of_isPlain {c : Call} (hc : c.isPlain = true) (a : c.Answer) :
    Deed.ofCall c a = .other := by
  cases c with
  | command c => cases c <;> first | rfl | cases hc
  | release => cases hc
  | _ => rfl

namespace Connection

variable {α β : Type} (c : Connection)

def Allows : Request → Prop
  | .call q => c.isOpen = true ∧ q.isPlain = true
  | _ => True

def Asks (p : Dialogue α) : Prop := p.Meets c.Allows fun _ => True

variable {c}

theorem Asks.deeds {p : Dialogue α} (hp : c.Asks p) {h : Dialogue.History} {o : Option α}
    (ht : Program.Traces p h o) : ∀ d ∈ Call.deeds (Dialogue.calls h), d = .other := by
  intro d hd
  obtain ⟨x, hx, rfl⟩ := List.mem_map.1 hd
  obtain ⟨⟨q, answer⟩, hq, hs⟩ := List.mem_filterMap.1 hx
  cases q with
  | call q =>
    cases hs
    exact Deed.ofCall_of_isPlain (hp.question ht _ hq).2 answer
  | _ => cases hs

theorem Asks.nothing {p : Dialogue α} (hp : c.Asks p) (hc : c.isOpen = false)
    {h : Dialogue.History} {o : Option α} (ht : Program.Traces p h o) : Dialogue.calls h = [] := by
  apply List.filterMap_eq_nil_iff.2
  rintro ⟨q, answer⟩ hq
  cases q with
  | call q => exact absurd (hp.question ht _ hq).1 (by simp [hc])
  | _ => rfl

/-! Rules for asking in sequence. -/

theorem asks_done (a : α) : c.Asks (.done a) := trivial

theorem asks_bind {p : Dialogue α} {f : α → Dialogue β} (hp : c.Asks p) (hf : ∀ a, c.Asks (f a)) :
    c.Asks (p >>= f) :=
  hp.bind fun a _ => hf a

theorem asks_query (q : Request) (hq : c.Allows q) : c.Asks (Dialogue.ask q) :=
  ⟨hq, fun _ => trivial⟩

theorem asks_lift {p : Dialogue α} (hp : c.Asks p) :
    c.Asks (ExceptT.lift p : Action α).run :=
  asks_bind hp fun a => asks_done (Except.ok a : Except Error α)

theorem asks_sequence {a : Action α} {f : α → Action β} (ha : c.Asks a.run)
    (hf : ∀ x, c.Asks (f x).run) : c.Asks (a >>= f).run :=
  Action.meets_sequence ha hf

theorem asks_checked (e : Except Error α) : c.Asks (liftM e : Action α).run :=
  asks_done e

/-! Calls. -/

theorem asks_call {q : Call} (hq : q.isPlain = true) : c.Asks (c.call q).run := by
  unfold Connection.call
  split
  · next hc => exact asks_lift (asks_query (.call q) ⟨hc, hq⟩)
  · exact asks_done _

theorem asks_command {q : Command} (hq : (Call.command q).isPlain = true) :
    c.Asks (c.command q).run :=
  asks_sequence (asks_call hq) fun _ => asks_checked _

theorem asks_execute {q : Command} (hq : (Call.command q).isPlain = true) :
    c.Asks (c.execute q).run :=
  asks_sequence (asks_command hq) fun _ => asks_done _

theorem asks_setClientName (name : String) : c.Asks (c.setClientName name).run :=
  asks_sequence (asks_checked _) fun _ => asks_execute rfl

theorem asks_tryInput : c.Asks c.tryInput.run :=
  asks_sequence (asks_call rfl) fun _ => asks_checked _

theorem asks_tryOutputRecord (direct : Bool) (record : Record) :
    c.Asks (c.tryOutputRecord direct record).run := by
  cases direct <;> exact asks_command rfl

theorem asks_nextClient (previous : Previous) : c.Asks (c.nextClient previous).run :=
  asks_sequence (asks_checked _) fun _ => asks_sequence (asks_call rfl) fun _ => asks_checked _

theorem asks_nextPort (client : Int) (previous : Previous) :
    c.Asks (c.nextPort client previous).run :=
  asks_sequence (asks_checked _) fun _ => asks_sequence (asks_call rfl) fun _ => asks_checked _

theorem asks_clientInfo (client : Int) : c.Asks (c.clientInfo client).run :=
  asks_sequence (asks_call rfl) fun _ => asks_checked _

theorem asks_portInfo (port : PortRef) : c.Asks (c.portInfo port).run :=
  asks_sequence (asks_call rfl) fun _ => asks_checked _

/-! Enumerations. -/

section

variable {ι : Type} {e : Enumeration ι} (he : ∀ previous, c.Asks (e.next previous).run)
include he

theorem asks_enumerationStep (cursor : Cursor) : c.Asks (e.step cursor) := by
  unfold Enumeration.step
  split
  · exact asks_done _
  · apply asks_bind (he _)
    intro result
    rcases result with err | (_ | a) <;> exact asks_done _

theorem asks_items (steps : Nat) (cursor : Cursor) : c.Asks (e.items steps cursor) := by
  induction steps generalizing cursor with
  | zero => trivial
  | succ steps ih =>
    apply asks_bind (asks_enumerationStep he cursor)
    rintro ⟨item, cursor⟩
    cases item with
    | none => exact asks_done _
    | some item => exact asks_bind (ih cursor) fun _ => asks_done _

theorem asks_fold {visit : β → ι → Action β} (hv : ∀ b a, c.Asks (visit b a).run) (steps : Nat)
    (cursor : Cursor) (b : β) : c.Asks (e.fold visit steps cursor b).run := by
  induction steps generalizing cursor b with
  | zero => trivial
  | succ steps ih =>
    apply asks_sequence (asks_lift (asks_enumerationStep he cursor))
    rintro ⟨item, cursor⟩
    rcases item with _ | (err | a)
    · exact asks_done _
    · exact asks_done _
    · exact asks_sequence (hv b a) fun b => ih cursor b

end

theorem asks_collectPorts (f : PortFilter) (steps : Nat) (found : List PortInfo)
    (client : ClientInfo) : c.Asks (c.collectPorts f steps found client).run := by
  unfold collectPorts
  split
  · exact asks_fold (asks_nextPort _) (fun _ _ => asks_done _) steps _ _
  · exact asks_done _

theorem asks_allPorts (f : PortFilter) (steps : Nat) : c.Asks (c.allPorts f steps).run :=
  asks_fold asks_nextClient (asks_collectPorts f steps) steps _ _

theorem asks_listPorts (f : PortFilter) (steps : Nat) : c.Asks (c.listPorts f steps).run :=
  asks_sequence (asks_allPorts f steps) fun _ => asks_done _

theorem asks_listPortsBy (f : PortFilter) (le : PortInfo → PortInfo → Bool) (steps : Nat) :
    c.Asks (c.listPortsBy f le steps).run :=
  asks_sequence (asks_allPorts f steps) fun _ => asks_done _

/-! Waits. -/

theorem asks_poll (interest : Interest) (limit : Option Duration) :
    c.Asks (Waiting.poll interest limit).run := by
  apply asks_sequence (asks_lift (asks_query (.poll _ _) trivial))
  intro outcome
  cases outcome <;> exact asks_done _

theorem asks_remaining (limit : Option Instant) : c.Asks (Waiting.remaining limit) := by
  cases limit with
  | none => exact asks_done _
  | some limit => exact asks_bind (asks_query .now trivial) fun _ => asks_done _

theorem asks_deadline (timeout : Option Duration) : c.Asks (Waiting.deadline timeout) := by
  cases timeout with
  | none => exact asks_done _
  | some timeout =>
    simp only [Waiting.deadline]
    split
    · exact asks_done _
    · exact asks_bind (asks_query .now trivial) fun _ => asks_done _

section

variable {attempt : Action α} (ha : c.Asks attempt.run)
include ha

theorem asks_pollUntil (interest : Interest) (limit : Option Instant) (attempts : Nat) :
    c.Asks (Waiting.pollUntil interest limit attempt attempts).run := by
  induction attempts with
  | zero => trivial
  | succ attempts ih =>
    apply asks_sequence (asks_lift ha)
    intro outcome
    split
    · apply asks_sequence (asks_lift (asks_remaining limit))
      intro left
      cases left with
      | none => exact asks_done _
      | some left => exact asks_sequence (asks_poll interest left) fun _ => ih
    · exact asks_sequence (asks_checked outcome) fun _ => asks_done _

theorem asks_retryWhenReady (interest : Interest) (limit : Option Instant) (attempts : Nat) :
    c.Asks (Waiting.retryWhenReady interest limit attempt attempts).run := by
  induction attempts with
  | zero => trivial
  | succ attempts ih =>
    apply asks_sequence (asks_lift (asks_query (.suspend _ _) trivial))
    intro ready
    split
    · apply asks_sequence (asks_lift ha)
      intro outcome
      split
      · exact asks_sequence (asks_lift (asks_query (.clearReady _) trivial)) fun _ => ih
      · exact asks_sequence (asks_checked outcome) fun _ => asks_done _
    · split
      · exact asks_done _
      · exact ih

theorem asks_wait (mode : Mode) (interest : Interest) (timeout : Option Duration)
    (attempts : Nat) : c.Asks (Waiting.wait mode interest timeout attempt attempts).run := by
  cases mode with
  | blocking =>
    exact asks_sequence (asks_lift (asks_deadline timeout)) fun _ => asks_pollUntil ha _ _ _
  | suspending =>
    refine asks_sequence (asks_lift (asks_deadline timeout)) fun limit =>
      asks_sequence (asks_lift ha) fun outcome => ?_
    split
    · exact asks_retryWhenReady ha _ _ _
    · exact asks_sequence (asks_checked outcome) fun _ => asks_done _

end

end Connection

end MidiSequencer
