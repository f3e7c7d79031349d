import MidiSequencer.Proofs.Resources.Returning

/-! # Turns of a session

Everything that one operation can do to the connection and to what is held on it, with the deeds
that its calls are. -/
namespace MidiSequencer

namespace Operation

def isClose : Operation → Bool
  | .close => true
  | _ => false

def ends : Resource → Nat → Operation → Bool
  | .port, k, .port slot .close => slot == k
  | .port, k, .port slot .drop => slot == k
  | .queue, k, .queue slot .close => slot == k
  | .queue, k, .queue slot .drop => slot == k
  | _, _, _ => false

def Inert (operation : Operation) : Prop :=
  operation.isClose = false ∧ ∀ r k, operation.ends r k = false

theorem Inert.of {operation : Operation} (hc : operation.isClose = false)
    (hp : ∀ k, operation.ends .port k = false) (hq : ∀ k, operation.ends .queue k = false) :
    operation.Inert :=
  ⟨hc, fun r k => by cases r <;> first | exact hp k | exact hq k⟩

def isPlain : Operation → Bool
  | .close => false
  | .createPort .. => false
  | .createQueue _ => false
  | .port .. => false
  | .queue .. => false
  | _ => true

theorem inert_of_isPlain {operation : Operation} (h : operation.isPlain = true) :
    operation.Inert := by
  cases operation <;> first | exact .of rfl (fun _ => rfl) fun _ => rfl | cases h

theorem ends_port_iff {slot : Nat} {o : PortOperation} (ho : o = .close ∨ o = .drop)
    (r : Resource) (k : Nat) : (Operation.port slot o).ends r k = true ↔ r = .port ∧ k = slot := by
  rcases ho with rfl | rfl <;> cases r <;> simp [ends, eq_comm (a := slot) (b := k)]

theorem ends_queue_iff {slot : Nat} {o : QueueOperation} (ho : o = .close ∨ o = .drop)
    (r : Resource) (k : Nat) :
    (Operation.queue slot o).ends r k = true ↔ r = .queue ∧ k = slot := by
  rcases ho with rfl | rfl <;> cases r <;> simp [ends, eq_comm (a := slot) (b := k)]

end Operation

def Value.isCreated : Value → Bool
  | .portCreated .. => true
  | .queueCreated .. => true
  | _ => false

namespace Outcome

def isDone : Outcome → Bool
  | .value _ => true
  | .error _ => true
  | _ => false

def made? : Resource → Outcome → Option (Int × Nat)
  | .port, .value (.portCreated slot p) => some (p.id, slot)
  | .queue, .value (.queueCreated slot q) => some (q.id, slot)
  | _, _ => none

theorem made?_value {v : Value} (hv : v.isCreated = false) (r : Resource) :
    (Outcome.value v).made? r = none := by
  cases r <;> cases v <;> first | rfl | cases hv

theorem made?_error (e : Error) (r : Resource) : (Outcome.error e).made? r = none := by
  cases r <;> rfl

end Outcome

/-- What an operation can do. One that was cut short made nothing and gave nothing back. -/
inductive Turn (mode : Mode) (operation : Operation) (H : Holdings) :
    List Deed → Option Outcome → Holdings → Prop where
  | idle {deeds outcome} (others : ∀ d ∈ deeds, d = .other) (closed : H.isOpen = false → deeds = [])
      (made : ∀ o, outcome = some o → ∀ r, o.made? r = none)
      (inert : ∀ o, outcome = some o → o.isDone = true → operation.Inert) :
      Turn mode operation H deeds outcome H
  | make {outcome} (r : Resource) (id : Int) (isOpen : H.isOpen = true)
      (made : outcome.made? r = some (id, (H.shelf r).length))
      (others : ∀ r', r' ≠ r → outcome.made? r' = none) (inert : operation.Inert) :
      Turn mode operation H [.makes r id] (some outcome)
        (H.put r (H.shelf r ++ [some ⟨id, false⟩]))
  | finish {outcome} (r : Resource) (k : Nat) (x : Held) (place : Option Held)
      (ends : ∀ r' k', operation.ends r' k' = true ↔ r' = r ∧ k' = k)
      (open_ : operation.isClose = false) (held : (H.shelf r)[k]? = some (some x))
      (left : place = none ∨ place = some { x with isClosed := true })
      (done : outcome.isDone = true) (made : ∀ r', outcome.made? r' = none) :
      Turn mode operation H (if H.isOpen && !x.isClosed then [.returns r x.id] else [])
        (some outcome) (H.put r ((H.shelf r).set k place))
  | close {H'} (isClose : operation.isClose = true) (closed : H'.isOpen = false) :
      Turn mode operation H (H.closing mode) (some (.value .unit)) H'

namespace Session

def Takes (s : Session) (operation : Operation) (p : Dialogue (Outcome × Session)) : Prop :=
  ∀ h result, Program.Traces p h result →
    Turn s.mode operation s.holdings (Call.deeds (Dialogue.calls h)) (result.map Prod.fst)
      (s.after result).holdings ∧ (s.after result).mode = s.mode

def Idles (s : Session) (operation : Operation) (p : Dialogue (Outcome × Session)) : Prop :=
  p.Meets s.connection.Allows fun result =>
    result.2 = s ∧ (∀ r, result.1.made? r = none) ∧ (result.1.isDone = true → operation.Inert)

variable {s : Session} {operation : Operation}

theorem Idles.takes {p : Dialogue (Outcome × Session)} (hp : s.Idles operation p) :
    s.Takes operation p := by
  intro h result ht
  have asks : s.connection.Asks p := hp.mono (fun _ hq => hq) fun _ _ => trivial
  have same : s.after result = s := by
    cases result with
    | none => rfl
    | some x => exact (hp.value ht).1
  rw [same]
  refine ⟨.idle (asks.deeds ht) (fun hc => ?_) ?_ ?_, rfl⟩
  · rw [asks.nothing hc ht]
    rfl
  · intro o ho
    obtain ⟨x, rfl, rfl⟩ := Option.map_eq_some_iff.1 ho
    exact (hp.value ht).2.1
  · intro o ho
    obtain ⟨x, rfl, rfl⟩ := Option.map_eq_some_iff.1 ho
    exact (hp.value ht).2.2

theorem idles_report {α : Type} {f : α → Value} {a : Action α} (hi : operation.Inert)
    (hf : ∀ x, (f x).isCreated = false) (ha : s.connection.Asks a.run) :
    s.Idles operation (s.report f a) := by
  apply Program.Meets.bind ha
  intro result _
  refine ⟨rfl, fun r => ?_, fun _ => hi⟩
  cases result with
  | ok x => exact Outcome.made?_value (hf x) r
  | error e => exact Outcome.made?_error e r

theorem idles_done {a : Action Unit} (hi : operation.Inert) (ha : s.connection.Asks a.run) :
    s.Idles operation (s.done a) :=
  idles_report hi (fun _ => rfl) ha

theorem idles_unsupported : s.Idles operation (.done (.unsupported, s)) :=
  ⟨rfl, fun r => by cases r <;> rfl, fun h => by cases h⟩

theorem idles_noSuchSlot : s.Idles operation (.done (.noSuchSlot, s)) :=
  ⟨rfl, fun r => by cases r <;> rfl, fun h => by cases h⟩

theorem idles_value {v : Value} (hi : operation.Inert)
    (hv : v.isCreated = false) : s.Idles operation (.done (.value v, s)) :=
  ⟨rfl, Outcome.made?_value hv, fun _ => hi⟩

theorem idles_onlyBlocking {d : Dialogue (Outcome × Session)} (hd : s.Idles operation d) :
    s.Idles operation (s.onlyBlocking d) := by
  unfold onlyBlocking
  split
  · exact hd
  · exact idles_unsupported

theorem idles_withSlot {α : Type} {slot : Option α} {f : α → Dialogue (Outcome × Session)}
    (hf : ∀ a, s.Idles operation (f a)) : s.Idles operation (s.withSlot slot f) := by
  cases slot with
  | none => exact idles_noSuchSlot
  | some a => exact hf a

theorem holdings_ports (ports : List (Option Port)) : { s with ports }.holdings =
    s.holdings.put .port (ports.map (·.map Port.held)) := by
  unfold holdings Holdings.put
  congr
  funext r
  cases r <;> rfl

theorem holdings_queues (queues : List (Option Queue)) : { s with queues }.holdings =
    s.holdings.put .queue (queues.map (·.map Queue.held)) := by
  unfold holdings Holdings.put
  congr
  funext r
  cases r <;> rfl

theorem takes_make {α : Type} {r : Resource} {wrap : Int → α} {a : Action α}
    {next : Except Error α → Dialogue (Outcome × Session)} (ha : s.connection.Makes r wrap a)
    (hi : operation.Inert) (failed : ∀ e, next (.error e) = .done (.error e, s))
    (succeeded : ∀ id, ∃ o s', next (.ok (wrap id)) = .done (o, s') ∧ s'.mode = s.mode ∧
      s'.holdings = s.holdings.put r (s.holdings.shelf r ++ [some ⟨id, false⟩]) ∧
      o.made? r = some (id, (s.holdings.shelf r).length) ∧ ∀ r', r' ≠ r → o.made? r' = none) :
    s.Takes operation (a.run >>= next) := by
  intro h result ht
  obtain ⟨h₁, x, h₂, rfl, ht₁, ht₂⟩ := Program.traces_bind_of_ends ha.ends ht
  rcases ha h₁ _ ht₁ with ⟨e, he, plain, closed⟩ | ⟨hc, id, deeds, hid⟩
  · cases he
    rw [failed] at ht₂
    obtain ⟨rfl, rfl⟩ := Program.traces_done_iff.1 ht₂
    rw [List.append_nil]
    refine ⟨.idle plain (fun hc => ?_) (fun o ho r => ?_) fun _ _ _ => hi, rfl⟩
    · rw [closed hc]
      rfl
    · cases ho
      exact Outcome.made?_error e r
  · cases hid
    obtain ⟨o, s', hn, mode, holdings, made, others⟩ := succeeded id
    rw [hn] at ht₂
    obtain ⟨rfl, rfl⟩ := Program.traces_done_iff.1 ht₂
    have after : (s.after (some (o, s'))).holdings = _ := holdings
    rw [List.append_nil, deeds, after]
    exact ⟨.make r id hc made others hi, mode⟩

theorem takes_createPort (name : String) (capability : PortCapabilities) (portType : PortType)
    (hi : operation.Inert) : s.Takes operation (s.createPort name capability portType) := by
  refine takes_make (Connection.makes_port name capability portType) hi (fun _ => rfl) fun id =>
    ⟨_, _, rfl, rfl, ?_, ?_, fun r hr => ?_⟩
  · rw [holdings_ports, List.map_append]
    rfl
  · simp [Outcome.made?, holdings]
  · cases r
    · exact absurd rfl hr
    · rfl

theorem takes_createQueue (name : Option String) (hi : operation.Inert) :
    s.Takes operation (s.createQueue name) := by
  refine takes_make (Connection.makes_queue name) hi (fun _ => rfl) fun id =>
    ⟨_, _, rfl, rfl, ?_, ?_, fun r hr => ?_⟩
  · rw [holdings_queues, List.map_append]
    rfl
  · simp [Outcome.made?, holdings]
  · cases r
    · rfl
    · exact absurd rfl hr

theorem takes_finish {α : Type} {r : Resource} {k : Nat} {x : Held} {place : Option Held}
    {p : Dialogue α} {R : α → Prop} {next : α → Dialogue (Outcome × Session)}
    (hp : Dialogue.Does p (s.connection.returning r x) R)
    (ends : ∀ r' k', operation.ends r' k' = true ↔ r' = r ∧ k' = k)
    (hc : operation.isClose = false) (held : (s.holdings.shelf r)[k]? = some (some x))
    (left : place = none ∨ place = some { x with isClosed := true })
    (finished : ∀ a, R a → ∃ o s', next a = .done (o, s') ∧ s'.mode = s.mode ∧
      s'.holdings = s.holdings.put r ((s.holdings.shelf r).set k place) ∧ o.isDone = true ∧
      ∀ r', o.made? r' = none) :
    s.Takes operation (p >>= next) := by
  intro h result ht
  obtain ⟨h₁, a, h₂, rfl, ht₁, ht₂⟩ := Program.traces_bind_of_ends hp.ends ht
  obtain ⟨deeds, b, hb, hr⟩ := hp h₁ _ ht₁
  cases hb
  obtain ⟨o, s', hn, mode, holdings, done, made⟩ := finished a hr
  rw [hn] at ht₂
  obtain ⟨rfl, rfl⟩ := Program.traces_done_iff.1 ht₂
  have after : (s.after (some (o, s'))).holdings = _ := holdings
  rw [List.append_nil, deeds, after]
  exact ⟨.finish r k x place ends hc held left done made, mode⟩

theorem held_port {slot : Nat} {p : Port} (hp : s.port? slot = some p) :
    (s.holdings.shelf .port)[slot]? = some (some p.held) := by
  simp only [port?, Option.join_eq_some_iff] at hp
  simp [holdings, hp]

theorem held_queue {slot : Nat} {q : Queue} (hq : s.queue? slot = some q) :
    (s.holdings.shelf .queue)[slot]? = some (some q.held) := by
  simp only [queue?, Option.join_eq_some_iff] at hq
  simp [holdings, hq]

theorem takes_port {slot : Nat} {p : Port} (hp : s.port? slot = some p) (o : PortOperation) :
    s.Takes (.port slot o) (s.performPort slot p o) := by
  have inert (hn : o ≠ .close ∧ o ≠ .drop) : (Operation.port slot o).Inert :=
    ⟨rfl, fun r k => by cases r <;> cases o <;> first | rfl | simp at hn⟩
  have checked {α : Type} {f : Unit → Action α} (hf : ∀ u, s.connection.Asks (f u).run) :
      s.connection.Asks (liftM p.checkOpen >>= f).run :=
    Connection.asks_sequence (Connection.asks_checked _) hf
  cases o with
  | isClosed =>
    exact (idles_value (inert ⟨nofun, nofun⟩) rfl).takes
  | info =>
    exact (idles_report (inert ⟨nofun, nofun⟩) (fun _ => rfl)
      (checked fun _ => Connection.asks_portInfo _)).takes
  | close =>
    refine takes_finish (p.does_close s.connection) (Operation.ends_port_iff (.inl rfl)) rfl
      (held_port hp) (.inr rfl) fun a ha => ⟨_, _, rfl, rfl, ?_, ?_, fun r => ?_⟩
    · rw [holdings_ports, List.map_set, ha]
      rfl
    · cases a.1 <;> rfl
    · cases a.1 with
      | ok u => exact Outcome.made?_value rfl r
      | error e => exact Outcome.made?_error e r
  | drop =>
    refine takes_finish (p.does_drop s.connection) (Operation.ends_port_iff (.inr rfl)) rfl
      (held_port hp) (.inl rfl) fun a _ => ⟨_, _, rfl, rfl, ?_, rfl, Outcome.made?_value rfl⟩
    rw [holdings_ports, List.map_set]
    rfl
  | _ =>
    exact (idles_done (inert ⟨nofun, nofun⟩) (checked fun _ => Connection.asks_execute rfl)).takes

theorem takes_queue {slot : Nat} {q : Queue} (hq : s.queue? slot = some q)
    (o : QueueOperation) : s.Takes (.queue slot o) (s.performQueue slot q o) := by
  have inert (hn : o ≠ .close ∧ o ≠ .drop) : (Operation.queue slot o).Inert :=
    ⟨rfl, fun r k => by cases r <;> cases o <;> first | rfl | simp at hn⟩
  cases o with
  | close =>
    refine takes_finish (q.does_close s.connection) (Operation.ends_queue_iff (.inl rfl)) rfl
      (held_queue hq) (.inr rfl) fun a ha => ⟨_, _, rfl, rfl, ?_, ?_, fun r => ?_⟩
    · rw [holdings_queues, List.map_set, ha]
      rfl
    · cases a.1 <;> rfl
    · cases a.1 with
      | ok u => exact Outcome.made?_value rfl r
      | error e => exact Outcome.made?_error e r
  | drop =>
    refine takes_finish (q.does_drop s.connection) (Operation.ends_queue_iff (.inr rfl)) rfl
      (held_queue hq) (.inl rfl) fun a _ => ⟨_, _, rfl, rfl, ?_, rfl, Outcome.made?_value rfl⟩
    rw [holdings_queues, List.map_set]
    rfl
  | _ =>
    exact (idles_done (inert ⟨nofun, nofun⟩) (Connection.asks_sequence
      (Connection.asks_checked _) fun _ => Connection.asks_execute rfl)).takes

theorem takes_close : s.Takes .close (s.close >>= fun s' => .done (.value .unit, s')) := by
  intro h result ht
  have closes := Dialogue.does_return (f := fun s' => (Outcome.value .unit, s'))
    (S := fun x => x.1 = .value .unit ∧ x.2.mode = s.mode ∧ x.2.connection.isOpen = false)
    s.does_close fun _ hs => ⟨rfl, hs⟩
  obtain ⟨deeds, ⟨o, s'⟩, rfl, rfl, mode, closed⟩ := closes h result ht
  rw [deeds]
  exact ⟨.close rfl closed, mode⟩

theorem perform_idles (s : Session) (bound : Nat) {operation : Operation}
    (hp : operation.isPlain = true) : s.Idles operation (s.perform bound operation) := by
  have hi := Operation.inert_of_isPlain hp
  have plain {α : Type} {f : α → Value} {a : Action α} (ha : s.connection.Asks a.run)
      (hf : ∀ x, (f x).isCreated = false) : s.Idles operation (s.report f a) :=
    idles_report hi hf ha
  cases operation with
  | close => cases hp
  | createPort name capability portType => cases hp
  | createQueue name => cases hp
  | port slot o => cases hp
  | queue slot o => cases hp
  | setClientName name => exact idles_done hi (Connection.asks_setClientName name)
  | ownClientInfo => exact plain (Connection.asks_clientInfo _) fun _ => rfl
  | tryInput =>
    exact idles_onlyBlocking (plain Connection.asks_tryInput fun _ => rfl)
  | tryOutput direct event routing =>
    exact idles_onlyBlocking (idles_withSlot fun _ =>
      plain (Connection.asks_tryOutputRecord _ _) fun _ => rfl)
  | tryDrain =>
    exact idles_onlyBlocking (plain (Connection.asks_command rfl) fun _ => rfl)
  | input timeout =>
    exact plain (Connection.asks_wait Connection.asks_tryInput _ _ _ _)
      fun _ => rfl
  | output direct event routing timeout =>
    exact idles_withSlot fun _ =>
      plain (Connection.asks_wait (Connection.asks_tryOutputRecord _ _) _ _ _ _)
        fun _ => rfl
  | drain timeout =>
    exact plain (Connection.asks_wait (Connection.asks_command rfl) _ _ _ _)
      fun _ => rfl
  | poll interest timeout =>
    exact idles_onlyBlocking (plain (Connection.asks_poll _ _) fun _ => rfl)
  | nextClient previous =>
    exact idles_onlyBlocking (plain (Connection.asks_nextClient _) fun _ => rfl)
  | nextPort client previous =>
    exact idles_onlyBlocking (plain (Connection.asks_nextPort _ _) fun _ => rfl)
  | clientInfo client => exact plain (Connection.asks_clientInfo _) fun _ => rfl
  | portInfo target =>
    cases target with
    | ref ref => exact plain (Connection.asks_portInfo _) fun _ => rfl
    | slot slot =>
      exact idles_withSlot fun _ =>
        plain (Connection.asks_portInfo _) fun _ => rfl
  | setPortInfo port info => exact idles_onlyBlocking (idles_done hi (Connection.asks_execute rfl))
  | clients =>
    exact Program.Meets.bind (Connection.asks_items Connection.asks_nextClient _ _) fun _ _ =>
      idles_value hi rfl
  | ports client =>
    exact Program.Meets.bind (Connection.asks_items (Connection.asks_nextPort client) _ _)
      fun _ _ => idles_value hi rfl
  | listPorts filter => exact plain (Connection.asks_listPorts _ _) fun _ => rfl
  | listPortsBy filter le =>
    exact plain (Connection.asks_listPortsBy _ _ _) fun _ => rfl
  | subscribe sender dest binding =>
    exact idles_withSlot fun _ => idles_done hi (Connection.asks_execute rfl)
  | unsubscribe sender dest binding =>
    exact idles_withSlot fun _ => idles_done hi (Connection.asks_execute rfl)
  | isClosed => exact idles_value hi rfl
  | clientId => exact idles_value hi rfl
  | _ => exact idles_done hi (Connection.asks_execute rfl)

/-- Whatever the answers are, an operation is a turn. -/
theorem perform_takes (s : Session) (bound : Nat) (operation : Operation) :
    s.Takes operation (s.perform bound operation) := by
  cases operation with
  | close => exact takes_close
  | createPort name capability portType =>
    exact takes_createPort name capability portType (.of rfl (fun _ => rfl) fun _ => rfl)
  | createQueue name => exact takes_createQueue name (.of rfl (fun _ => rfl) fun _ => rfl)
  | port slot o =>
    cases hp : s.port? slot with
    | none => simpa [perform, hp, withSlot] using idles_noSuchSlot.takes
    | some p => simpa [perform, hp, withSlot] using takes_port hp o
  | queue slot o =>
    cases hq : s.queue? slot with
    | none => simpa [perform, hq, withSlot] using idles_noSuchSlot.takes
    | some q => simpa [perform, hq, withSlot] using takes_queue hq o
  | _ => exact (perform_idles s bound rfl).takes

end Session

end MidiSequencer
