import MidiSequencer.Proofs.Conduct.Loops
import MidiSequencer.Proofs.Conduct.Operations

/-! # Conduct of sessions

Every operation of a session heeds its rules, and so does the end of a session. -/
namespace MidiSequencer

namespace Session

variable {s : Session} {bound : Nat} {operation : Operation} {R : Rules}

/-! Rules for reporting. -/

theorem refused_error (hn : operation.isEnding = false) {e : Error} (he : e.status? = none) :
    operation.Refused (.error e) := by
  unfold Operation.Refused
  rw [if_neg (by simp [hn])]
  split
  · trivial
  · exact he

theorem heeds_report {α : Type} {f : α → Value} {a : Action α} (hn : operation.isEnding = false)
    (ha : Action.Heeds R (bound < 2) a) :
    Dialogue.Heeds R (s.duty bound operation) (s.report f a) := by
  apply Dialogue.Heeds.bind ha
  · intro result hr ho
    obtain ⟨e, rfl, he⟩ := hr ho
    exact fun _ => refused_error hn he
  · exact fun _ hcut => hcut
  · intro e _ result hr
    cases hr
    exact Dialogue.ends_done rfl
  · intro e hn
    cases hn

theorem heeds_done {a : Action Unit} (hn : operation.isEnding = false)
    (ha : Action.Heeds R (bound < 2) a) :
    Dialogue.Heeds R (s.duty bound operation) (s.done a) :=
  heeds_report hn ha

theorem heeds_value {v : Value} (hg : operation.isGetter = true) (hn : operation.isEnding = false) :
    Dialogue.Heeds R (s.duty bound operation) (.done (.value v, s)) := by
  intro _ _
  unfold Operation.Refused
  rw [if_neg (by simp [hn]), if_pos hg]
  trivial

theorem heeds_poll (hg : operation.isGetter = true) (hn : operation.isEnding = false)
    (interest : Interest) (timeout : Option Duration) :
    Dialogue.Heeds R (s.duty bound operation) (s.report .bool (Waiting.poll interest timeout)) := by
  have refused (o : Outcome) : operation.Refused o := by
    unfold Operation.Refused
    rw [if_neg (by simp [hn]), if_pos hg]
    trivial
  refine Dialogue.heeds_ask (q := .poll _ _) trivial (fun _ _ _ h => h) fun outcome => ?_
  cases outcome <;> exact fun _ _ => refused _

theorem heeds_reading {ι : Type} {e : Enumeration ι} {f : List (Except Error ι) → Value}
    (hr : operation.reads = true) (hg : operation.isGetter = false)
    (hn : operation.isEnding = false)
    (refuses : ∀ err, err.status? = none → (Outcome.value (f [.error err])).Refuses)
    (reports : ∀ err items, items.getLast? = some (.error err) →
      (Outcome.value (f items)).Reports err)
    (he : e.Heeds R) :
    Dialogue.Heeds R (s.duty bound operation)
      (e.items bound {} >>= fun items => .done (.value (f items), s)) := by
  have items : Dialogue.Heeds R (.items ι (bound < 2)) (e.items bound {}) :=
    Enumeration.heeds_items he (fun _ h => h) rfl
  apply items.bind
  · intro items hi hc
    obtain ⟨err, rfl, hs⟩ := hi hc
    intro _
    unfold Operation.Refused
    rw [if_neg (by simp [hn]), if_neg (by simp [hg])]
    exact refuses err hs
  · exact fun _ hcut => hcut
  · intro err _ items hi
    exact Dialogue.ends_done (reports err items hi)
  · exact fun _ _ => hr

/-- What an object that was made is put into does not matter. -/
theorem heeds_create {α : Type} {a : Action α}
    {next : Except Error α → Dialogue (Outcome × Session)} (hn : operation.isEnding = false)
    (failed : ∀ e, next (.error e) = .done (.error e, s))
    (made : ∀ x, ∃ o, next (.ok x) = .done o) (ha : Action.Heeds R (bound < 2) a) :
    Dialogue.Heeds R (s.duty bound operation) (a.run >>= next) := by
  apply Dialogue.Heeds.bind ha
  · intro result hr
    cases result with
    | ok x =>
      obtain ⟨o, ho⟩ := made x
      rw [ho]
      intro hc
      obtain ⟨e, he, -⟩ := hr hc
      cases he
    | error e =>
      rw [failed]
      intro hc
      obtain ⟨_, same, he⟩ := hr hc
      cases same
      exact fun _ => refused_error hn he
  · exact fun _ hcut => hcut
  · intro e _ result hr
    cases hr
    rw [failed]
    exact Dialogue.ends_done rfl
  · intro e hn
    cases hn

theorem heeds_onlyBlocking {d : Dialogue (Outcome × Session)}
    (offered : s.offers operation = true → s.mode = .blocking)
    (hd : Dialogue.Heeds R (s.duty bound operation) d) :
    Dialogue.Heeds R (s.duty bound operation) (s.onlyBlocking d) := by
  unfold onlyBlocking
  cases hm : s.mode with
  | blocking => exact hd
  | suspending =>
    intro _ ho
    have blocking := offered ho
    rw [hm] at blocking
    cases blocking

theorem heeds_withSlot {α : Type} {slot : Option α} {f : α → Dialogue (Outcome × Session)}
    (offered : s.offers operation = true → slot.isSome = true)
    (hf : ∀ a, slot = some a → Dialogue.Heeds R (s.duty bound operation) (f a)) :
    Dialogue.Heeds R (s.duty bound operation) (s.withSlot slot f) := by
  cases slot with
  | some a => exact hf a rfl
  | none =>
    intro _ ho
    cases offered ho

end Session

/-! Making and giving back. -/

/-- Always ends, with a value that has the property `P`; no failure is reported. -/
def Duty.ends {α : Type} (P : α → Prop) : Duty α where
  refused o := ∃ a, o = some a ∧ P a
  reported _ _ := False

def Duty.giveBack (α : Type) : Duty (Except Error Unit × α) where
  refused o := ∃ a, o = some (.ok (), a)
  reported e o := ∃ a, o = some (.error e, a)

namespace Connection

open MidiSequencer.Action

variable {c : Connection} {R : Rules} {cut : Prop} (hR : R.isOpen = c.isOpen)
include hR

theorem heeds_createPort (hq : "create_simple_port" ∈ R.names) (name : String)
    (capability : PortCapabilities) (portType : PortType) :
    Heeds R cut (c.createPort name capability portType) :=
  heeds_checked (fun _ => checkName_error) fun name _ =>
    heeds_return (heeds_command hR (q := .createPort name capability portType) hq) _

theorem heeds_createQueue (hq : "alloc_queue" ∈ R.names) (name : Option String) :
    Heeds R cut (c.createQueue name) := by
  apply heeds_checked
  · intro e he
    cases name with
    | none => cases he
    | some name =>
      have checked : (checkName name).map some = .error e := he
      cases hn : checkName name with
      | ok n =>
        rw [hn] at checked
        cases checked
      | error e' =>
        rw [hn] at checked
        cases checked
        exact checkName_error hn
  · intro name _
    exact heeds_return (heeds_command hR (q := .allocQueue name) hq) _

theorem heeds_giveBack {α : Type} {q : Command} (hq : q.name ∈ R.names) (isClosed : Bool)
    (closed : α) : Dialogue.Heeds R (.giveBack α)
      (if isClosed || !c.isOpen then .done (.ok (), closed)
        else (c.execute q).run >>= fun result => .done (result, closed)) := by
  split
  · exact fun _ => ⟨closed, rfl⟩
  · next hc =>
    have isOpen : R.isOpen = true := by
      rw [hR]
      simp only [Bool.or_eq_true, Bool.not_eq_true', not_or, Bool.not_eq_false] at hc
      exact hc.2
    have execute : Heeds R False (c.execute q) := heeds_execute hR hq
    apply Dialogue.Heeds.bind execute
    · intro result _
      exact Dialogue.heeds_of_isOpen isOpen _
    · intro _ hn
      cases hn
    · intro e _ result hr
      cases hr
      exact Dialogue.ends_done ⟨closed, rfl⟩
    · intro e hn
      cases hn

theorem heeds_close (hq : "close" ∈ R.names) :
    Dialogue.Heeds R (.ends fun _ => True) c.close := by
  unfold Connection.close
  cases hc : c.isOpen with
  | false => exact fun _ => ⟨c, rfl, trivial⟩
  | true =>
    have isOpen : R.isOpen = true := hR.trans hc
    refine ⟨⟨isOpen, hq⟩, fun answer => ⟨Dialogue.heeds_of_isOpen isOpen _, ?_⟩⟩
    rintro _ s ⟨rfl, -, answers, -⟩ -
    exact absurd rfl answers

end Connection

namespace Rules

theorem Ignores.not_reports {R : Rules} (h : R.Ignores) {e : Error} : ¬ R.Reports e := by
  rintro ⟨c, s, -, answers, hc, hx⟩
  rcases h.returns c hc with hr | rfl
  · exact hx (.inr (.inr ⟨h.drops, hr⟩))
  · exact answers rfl

end Rules

namespace Dialogue

variable {α β : Type} {R : Rules} (hi : R.Ignores)
include hi

theorem heeds_ignoring {D : Duty α} {E : Duty β} {p : Dialogue α} {f : α → Dialogue β}
    (hp : Heeds R D p) (hn : ¬ D.refused none) (failed : ∀ e, ¬ D.reported e none)
    (hf : ∀ a, (R.isOpen = false → D.refused (some a)) → Heeds R E (f a)) :
    Heeds R E (p >>= f) := by
  apply hp.bind
  · exact hf
  · intro _ h
    exact absurd h hn
  · intro e he
    exact absurd he hi.not_reports
  · intro e he
    exact absurd he (failed e)

theorem heeds_ends_bind {P : α → Prop} {E : Duty β} {p : Dialogue α} {f : α → Dialogue β}
    (hp : Heeds R (.ends P) p) (hf : ∀ a, (R.isOpen = false → P a) → Heeds R E (f a)) :
    Heeds R E (p >>= f) := by
  apply heeds_ignoring hi hp
  · rintro ⟨a, ha, -⟩
    cases ha
  · exact fun _ h => h
  · intro a ha
    apply hf
    intro hc
    obtain ⟨b, hb, hP⟩ := ha hc
    cases hb
    exact hP

end Dialogue

section

variable {c : Connection} {R : Rules} (hR : R.isOpen = c.isOpen) (hi : R.Ignores)
include hR hi

theorem Port.heeds_drop (hq : "delete_simple_port" ∈ R.names) (p : Port) :
    Dialogue.Heeds R (.ends fun _ => True) (p.drop c) := by
  have close := Connection.heeds_giveBack hR (q := .deletePort p.id) hq p.isClosed
    { p with isClosed := true }
  apply Dialogue.heeds_ignoring hi close
  · rintro ⟨_, ha⟩
    cases ha
  · rintro _ ⟨_, ha⟩
    cases ha
  · exact fun _ _ _ => ⟨(), rfl, trivial⟩

theorem Queue.heeds_drop (hq : "free_queue" ∈ R.names) (q : Queue) :
    Dialogue.Heeds R (.ends fun _ => True) (q.drop c) := by
  have close := Connection.heeds_giveBack hR (q := .freeQueue q.id) hq q.isClosed
    { q with isClosed := true }
  apply Dialogue.heeds_ignoring hi close
  · rintro ⟨_, ha⟩
    cases ha
  · rintro _ ⟨_, ha⟩
    cases ha
  · exact fun _ _ _ => ⟨(), rfl, trivial⟩

omit hR in
theorem Session.heeds_dropAll {α : Type} {drop : α → Connection → Dialogue Unit}
    (hd : ∀ a, Dialogue.Heeds R (.ends fun _ => True) (drop a c)) (slots : List (Option α)) :
    Dialogue.Heeds R (.ends fun _ => True) (Session.dropAll drop c slots) := by
  induction slots with
  | nil => exact fun _ => ⟨(), rfl, trivial⟩
  | cons place rest ih =>
    cases place with
    | none => exact ih
    | some a => exact Dialogue.heeds_ends_bind hi (hd a) fun _ _ => ih

end

namespace Session

variable {s : Session} {R : Rules} (hR : R.isOpen = s.connection.isOpen) (hi : R.Ignores)
  (hports : "delete_simple_port" ∈ R.names) (hqueues : "free_queue" ∈ R.names)
include hR hi hports hqueues

theorem heeds_clear_bind {β : Type} {E : Duty β} {f : Session → Dialogue β}
    (hf : Dialogue.Heeds R E (f { s with ports := [], queues := [] })) :
    Dialogue.Heeds R E (s.clear >>= f) := by
  unfold clear
  simp only [bind_assoc]
  apply Dialogue.heeds_ends_bind hi (heeds_dropAll hi (Port.heeds_drop hR hi hports) s.ports)
  intro _ _
  apply Dialogue.heeds_ends_bind hi
    (heeds_dropAll hi (Queue.heeds_drop hR hi hqueues) s.queues)
  exact fun _ _ => hf

variable (hrelease : "close" ∈ R.names)
include hrelease

theorem heeds_finish : Dialogue.Heeds R (.ends fun _ => True) s.finish := by
  apply heeds_clear_bind hR hi hports hqueues
  have close := Connection.heeds_close hR hrelease
  apply Dialogue.heeds_ends_bind hi close
  exact fun c _ _ => ⟨_, rfl, trivial⟩

/-- A suspending client closes as a session ends. -/
theorem heeds_close : Dialogue.Heeds R (.ends fun _ => True) s.close := by
  obtain ⟨mode, c, ports, queues⟩ := s
  cases mode with
  | blocking =>
    have close := Connection.heeds_close hR hrelease
    apply Dialogue.heeds_ends_bind hi close
    exact fun c _ _ => ⟨_, rfl, trivial⟩
  | suspending => exact heeds_finish hR hi hports hqueues hrelease

end Session

theorem checkOpen_error {isClosed : Bool} {e : Error}
    (h : (if isClosed then .error .closed else .ok () : Except Error Unit) = .error e) :
    e.status? = none := by
  split at h
  · cases h
    rfl
  · cases h

namespace Session

variable (s : Session) (bound : Nat)

theorem heeds_giveBack_bind {α : Type} {s : Session} {bound : Nat} {operation : Operation}
    {R : Rules} {p : Dialogue (Except Error Unit × α)} (after : α → Session)
    (hn : operation.isEnding = true) (hp : Dialogue.Heeds R (.giveBack α) p) :
    Dialogue.Heeds R (s.duty bound operation) (p >>= fun x =>
      .done (.ofExcept (fun _ => .unit) x.1, after x.2)) := by
  apply hp.bind
  · intro x hx hc
    obtain ⟨a, ha⟩ := hx hc
    cases ha
    intro _
    unfold Operation.Refused
    rw [if_pos hn]
    rfl
  · rintro _ ⟨a, ha⟩
    cases ha
  · rintro e _ x ⟨a, ha⟩
    cases ha
    exact Dialogue.ends_done rfl
  · rintro e ⟨a, ha⟩
    cases ha

theorem heeds_ends_return {α : Type} {s : Session} {bound : Nat} {operation : Operation}
    {R : Rules} {P : α → Prop} {p : Dialogue α} {after : α → Session} (hi : R.Ignores)
    (hn : operation.isEnding = true) (hp : Dialogue.Heeds R (.ends P) p) :
    Dialogue.Heeds R (s.duty bound operation) (p >>= fun a => .done (.value .unit, after a)) := by
  apply Dialogue.heeds_ends_bind hi hp
  intro a _ _ _
  unfold Operation.Refused
  rw [if_pos hn]

theorem rules_ignores {operation : Operation} (hd : operation.drops = true) :
    (s.rules operation).Ignores :=
  ⟨hd, Operation.isReturn_of_drops hd⟩

theorem rules_transfers {operation : Operation} (hw : operation.waits = true) :
    ∀ c : Call, c.name ∈ (s.rules operation).names → c.isTransfer = true :=
  Operation.isTransfer_of_waits hw

theorem performPort_heeds (slot : Nat) (p : Port) (o : PortOperation) :
    Dialogue.Heeds (s.rules (.port slot o)) (s.duty bound (.port slot o))
      (s.performPort slot p o) := by
  have checked {α : Type} {a : Action α} {R : Rules} (ha : Action.Heeds R (bound < 2) a) :
      Action.Heeds R (bound < 2) (liftM p.checkOpen >>= fun _ => a) :=
    Action.heeds_checked (fun _ => checkOpen_error) fun _ _ => ha
  cases o with
  | isClosed => exact heeds_value rfl rfl
  | info => exact heeds_report rfl (checked (Connection.heeds_portInfo rfl (.head _) _))
  | close =>
    have close := Connection.heeds_giveBack (R := s.rules (.port slot .close)) rfl
      (q := .deletePort p.id) (.head _) p.isClosed { p with isClosed := true }
    exact heeds_giveBack_bind (fun p => { s with ports := s.ports.set slot (some p) }) rfl close
  | drop =>
    have hi : (s.rules (.port slot .drop)).Ignores := s.rules_ignores rfl
    exact heeds_ends_return hi rfl (Port.heeds_drop rfl hi (.head _) p)
  | _ => exact heeds_done rfl (checked (Connection.heeds_execute rfl (.head _)))

theorem performQueue_heeds (slot : Nat) (q : Queue) (o : QueueOperation) :
    Dialogue.Heeds (s.rules (.queue slot o)) (s.duty bound (.queue slot o))
      (s.performQueue slot q o) := by
  cases o with
  | close =>
    have close := Connection.heeds_giveBack (R := s.rules (.queue slot .close)) rfl
      (q := .freeQueue q.id) (.head _) q.isClosed { q with isClosed := true }
    exact heeds_giveBack_bind (fun q => { s with queues := s.queues.set slot (some q) }) rfl close
  | drop =>
    have hi : (s.rules (.queue slot .drop)).Ignores := s.rules_ignores rfl
    exact heeds_ends_return hi rfl (Queue.heeds_drop rfl hi (.head _) q)
  | _ =>
    exact heeds_done rfl (Action.heeds_checked (fun _ => checkOpen_error) fun _ _ =>
      Connection.heeds_execute rfl (.head _))

theorem createPort_heeds (name : String) (capability : PortCapabilities) (portType : PortType) :
    Dialogue.Heeds (s.rules (.createPort name capability portType))
      (s.duty bound (.createPort name capability portType))
      (s.createPort name capability portType) :=
  heeds_create rfl (fun _ => rfl) (fun _ => ⟨_, rfl⟩)
    (Connection.heeds_createPort rfl (.head _) name capability portType)

theorem createQueue_heeds (name : Option String) :
    Dialogue.Heeds (s.rules (.createQueue name)) (s.duty bound (.createQueue name))
      (s.createQueue name) :=
  heeds_create rfl (fun _ => rfl) (fun _ => ⟨_, rfl⟩)
    (Connection.heeds_createQueue rfl (.head _) name)

theorem perform_heeds (operation : Operation) :
    Dialogue.Heeds (s.rules operation) (s.duty bound operation) (s.perform bound operation) := by
  have one : (s.rules operation).isOpen = false → bound < 1 → bound < 2 := fun _ h => by omega
  cases operation with
  | close =>
    have hi : (s.rules .close).Ignores := s.rules_ignores rfl
    exact heeds_ends_return hi rfl
      (heeds_close rfl hi (.head _) (.tail _ (.head _)) (.tail _ (.tail _ (.head _))))
  | isClosed => exact heeds_value rfl rfl
  | clientId => exact heeds_value rfl rfl
  | setClientName name => exact heeds_done rfl (Connection.heeds_setClientName rfl (.head _) name)
  | ownClientInfo => exact heeds_report rfl (Connection.heeds_clientInfo rfl (.head _) _)
  | createPort name capability portType => exact s.createPort_heeds bound name capability portType
  | createQueue name => exact s.createQueue_heeds bound name
  | port slot o =>
    exact heeds_withSlot (fun h => h) fun p _ => s.performPort_heeds bound slot p o
  | queue slot o =>
    exact heeds_withSlot (fun h => h) fun q _ => s.performQueue_heeds bound slot q o
  | tryInput =>
    exact heeds_onlyBlocking of_decide_eq_true
      (heeds_report rfl (Connection.heeds_tryInput rfl (.head _)))
  | tryOutput direct event routing =>
    have attempt (record : Record) : Action.Heeds (s.rules (.tryOutput direct event routing))
        (bound < 2) (s.connection.tryOutputRecord direct record) :=
      Connection.heeds_tryOutputRecord rfl (.head _) (.tail _ (.head _)) direct record
    apply heeds_onlyBlocking
    · intro h
      exact of_decide_eq_true (Bool.and_eq_true_iff.1 h).1
    · apply heeds_withSlot
      · intro h
        exact (Bool.and_eq_true_iff.1 h).2
      · exact fun route _ => heeds_report rfl (attempt _)
  | tryDrain =>
    exact heeds_onlyBlocking of_decide_eq_true
      (heeds_report rfl (Connection.heeds_command rfl (.head _)))
  | input timeout =>
    have attempt : Action.Heeds (s.rules (.input timeout)) (bound < 2) s.connection.tryInput :=
      Connection.heeds_tryInput rfl (.head _)
    exact heeds_report rfl (Waiting.heeds_wait rfl (s.rules_transfers rfl) attempt _ _ _ one)
  | output direct event routing timeout =>
    have attempt (record : Record) :
        Action.Heeds (s.rules (.output direct event routing timeout)) (bound < 2)
          (s.connection.tryOutputRecord direct record) :=
      Connection.heeds_tryOutputRecord rfl (.head _) (.tail _ (.head _)) direct record
    exact heeds_withSlot (fun h => h) fun route _ =>
      heeds_report rfl (Waiting.heeds_wait rfl (s.rules_transfers rfl) (attempt _) _ _ _ one)
  | drain timeout =>
    have attempt : Action.Heeds (s.rules (.drain timeout)) (bound < 2) s.connection.tryDrain :=
      Connection.heeds_command rfl (.head _)
    exact heeds_report rfl (Waiting.heeds_wait rfl (s.rules_transfers rfl) attempt _ _ _ one)
  | poll interest timeout =>
    exact heeds_onlyBlocking of_decide_eq_true (heeds_poll rfl rfl interest timeout)
  | nextClient previous =>
    exact heeds_onlyBlocking of_decide_eq_true
      (heeds_report rfl (Connection.heeds_nextClient rfl (.head _) previous))
  | nextPort client previous =>
    exact heeds_onlyBlocking of_decide_eq_true
      (heeds_report rfl (Connection.heeds_nextPort rfl (.head _) client previous))
  | clientInfo client => exact heeds_report rfl (Connection.heeds_clientInfo rfl (.head _) client)
  | portInfo target =>
    cases target with
    | ref port => exact heeds_report rfl (Connection.heeds_portInfo rfl (.head _) port)
    | slot slot =>
      exact heeds_withSlot (fun h => h) fun p _ =>
        heeds_report rfl (Connection.heeds_portInfo rfl (.head _) _)
  | setPortInfo port info =>
    exact heeds_onlyBlocking of_decide_eq_true
      (heeds_done rfl (Connection.heeds_execute rfl (.head _)))
  | clients =>
    exact heeds_reading rfl rfl rfl (fun _ h => ⟨_, rfl, h⟩) (fun _ _ h => h)
      s.connection.heeds_clients
  | ports client =>
    exact heeds_reading rfl rfl rfl (fun _ h => ⟨_, rfl, h⟩) (fun _ _ h => h)
      (s.connection.heeds_ports client)
  | listPorts filter =>
    exact heeds_report rfl
      (Connection.heeds_listPorts rfl (.tail _ (.head _)) (.head _) filter one)
  | listPortsBy filter le =>
    exact heeds_report rfl
      (Connection.heeds_listPortsBy rfl (.tail _ (.head _)) (.head _) filter le one)
  | subscribe sender dest binding =>
    exact heeds_withSlot (fun h => h) fun options _ =>
      heeds_done rfl (Connection.heeds_execute rfl (.head _))
  | unsubscribe sender dest binding =>
    exact heeds_withSlot (fun h => h) fun options _ =>
      heeds_done rfl (Connection.heeds_execute rfl (.head _))
  | _ => exact heeds_done rfl (Connection.heeds_execute rfl (.head _))

end Session

end MidiSequencer
