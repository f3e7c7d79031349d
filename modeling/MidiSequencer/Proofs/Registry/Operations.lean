import MidiSequencer.Proofs.Registry.Registrations
import MidiSequencer.Proofs.Resources.Standing
import MidiSequencer.Proofs.Transfers

/-! # What operations register

What an operation registers follows from its outcome and from the ports that the session holds. One
that fails makes no call that could have registered anything and succeeded. -/
namespace MidiSequencer

open Program (Traces)

namespace Call

def registering : List String :=
  ["set_client_name", "create_simple_port", "delete_simple_port", "set_port_info"]

theorem name_of_registers {q : Command} (hq : q.registers = true) : q.name ∈ registering := by
  cases q with
  | setClientName name => exact .head _
  | createPort name capability portType => exact .tail _ (.head _)
  | deletePort port => exact .tail _ (.tail _ (.head _))
  | setPortInfo port info => exact .tail _ (.tail _ (.tail _ (.head _)))
  | _ => cases hq

variable {x : Program.Exchange Call Call.Answer}

theorem name_of_registration? {r : Registration} (h : registration? x = some r) :
    x.question.name ∈ registering := by
  obtain ⟨c, answer⟩ := x
  cases c with
  | command q =>
    cases hq : q.registers with
    | true => exact name_of_registers hq
    | false =>
      rw [registration?_of_registers hq] at h
      cases h
  | _ => cases h

theorem registersNothing_of_name (h : x.question.name ∉ registering) : RegistersNothing x := by
  obtain ⟨c, answer⟩ := x
  cases c with
  | command q => exact fun hq => absurd (name_of_registers hq) h
  | _ => trivial

end Call

/-- One command at most, whose status decides whether there is a result. -/
def Action.Orders {α : Type} (q : Command) (wrap : Status → α) (a : Action α) : Prop :=
  ∀ h o, Traces a.run h o →
    (∃ e, o = some (.error e) ∧
      ∀ x ∈ Dialogue.calls h, ∃ status : Status, x = ⟨.command q, status⟩ ∧ status < 0) ∨
    (∃ status : Status, 0 ≤ status ∧ o = some (.ok (wrap status)) ∧
      Dialogue.calls h = [⟨.command q, status⟩])

namespace Action

variable {α β : Type} {q : Command} {wrap : Status → α}

theorem Orders.ends {a : Action α} (ha : a.Orders q wrap) (h : Dialogue.History) :
    ¬ Traces a.run h none := by
  intro ht
  rcases ha h none ht with ⟨e, ho, -⟩ | ⟨status, -, ho, -⟩ <;> cases ho

theorem orders_command (c : Connection) (q : Command) :
    Orders q (fun status => status) (c.command q) := by
  intro h o ht
  rcases c.traces_command ht with ⟨-, rfl, rfl⟩ | ⟨-, status, rfl, rfl⟩
  · exact .inl ⟨.closed, rfl, fun x hx => by cases hx⟩
  · by_cases failed : status < 0
    · refine .inl ⟨.service (Call.label (.command q)) status,
        congrArg some (if_pos failed), fun x hx => ?_⟩
      exact ⟨status, List.mem_singleton.1 hx, failed⟩
    · exact .inr ⟨status, Int.not_lt.1 failed, congrArg some (if_neg failed), rfl⟩

theorem Orders.return {a : Action α} (ha : a.Orders q wrap) (f : α → β) :
    Orders q (fun status => f (wrap status)) (a >>= fun x => pure (f x)) := by
  intro h o ht
  rw [ExceptT.run_bind] at ht
  obtain ⟨h₁, result, h₂, rfl, ht₁, ht₂⟩ := Program.traces_bind_of_ends ha.ends ht
  rcases ha h₁ _ ht₁ with ⟨e, he, failed⟩ | ⟨status, worked, hr, one⟩
  · cases he
    obtain ⟨rfl, rfl⟩ := Program.traces_done_iff.1 ht₂
    rw [List.append_nil]
    exact .inl ⟨e, rfl, failed⟩
  · cases hr
    obtain ⟨rfl, rfl⟩ := Program.traces_done_iff.1 ht₂
    rw [List.append_nil]
    exact .inr ⟨status, worked, rfl, one⟩

theorem orders_execute (c : Connection) (q : Command) : Orders q (fun _ => ()) (c.execute q) :=
  (orders_command c q).return fun _ => ()

theorem orders_checked {e : Except Error β} {f : β → Action α}
    (hf : ∀ x, e = .ok x → Orders q wrap (f x)) : Orders q wrap (liftM e >>= f) := by
  cases e with
  | ok x => exact hf x rfl
  | error err =>
    intro h o ht
    obtain ⟨rfl, rfl⟩ := Program.traces_done_iff.1 ht
    exact .inl ⟨err, rfl, fun x hx => by cases hx⟩

theorem orders_named {name : String} {f : String → Action α}
    (hf : Orders q wrap (f name)) : Orders q wrap (liftM (checkName name) >>= f) := by
  refine orders_checked fun x hx => ?_
  unfold checkName at hx
  split at hx
  · cases hx
  · cases hx
    exact hf

end Action

namespace Session

variable {s : Session} {bound : Nat} {operation : Operation} {h : Dialogue.History}
  {result : Option (Outcome × Session)}

theorem traces_report {α : Type} {f : α → Value} {a : Action α} {q : Command}
    {wrap : Status → α} (ha : a.Orders q wrap) (ht : Traces (s.report f a) h result) :
    (∃ e, result = some (.error e, s) ∧
      ∀ x ∈ Dialogue.calls h, ∃ status : Status, x = ⟨.command q, status⟩ ∧ status < 0) ∨
    (∃ status : Status, 0 ≤ status ∧ result = some (.value (f (wrap status)), s) ∧
      Dialogue.calls h = [⟨.command q, status⟩]) := by
  obtain ⟨h₁, r, h₂, rfl, ht₁, ht₂⟩ := Program.traces_bind_of_ends ha.ends ht
  obtain ⟨rfl, rfl⟩ := Program.traces_done_iff.1 ht₂
  rw [List.append_nil]
  rcases ha h₁ _ ht₁ with ⟨e, he, failed⟩ | ⟨status, worked, hr, one⟩
  · cases he
    exact .inl ⟨e, rfl, failed⟩
  · cases hr
    exact .inr ⟨status, worked, rfl, one⟩

def deletions (s : Session) (places : List (Option Port)) : List Registration :=
  if s.connection.isOpen then
    places.filterMap fun place => (place.filter fun p => !p.isClosed).map fun p => .deleted p.id
  else []

def registrations (s : Session) : Operation → Option Outcome → List Registration
  | .setClientName name, some (.value _) => [.named name]
  | .createPort name capability portType, some (.value (.portCreated _ p)) =>
    [.created p.id name capability portType]
  | .port slot (.setInfo info), some (.value _) =>
    (s.port? slot).toList.map fun p => .replaced p.id info
  | .port slot .close, _ => s.deletions [s.port? slot]
  | .port slot .drop, _ => s.deletions [s.port? slot]
  | .setPortInfo port info, some (.value _) => [.replaced port info]
  | .close, _ =>
    match s.mode with
    | .blocking => []
    | .suspending => s.deletions s.ports
  | _, _ => []

/-- How the ports of a session change with what is registered. -/
inductive Shifts (s : Session) : List Registration → Session → Prop where
  | keeps {regs s'} (ports : s'.ports = s.ports) (connection : s'.connection = s.connection)
      (others : ∀ r ∈ regs, (∃ name, r = .named name) ∨ ∃ port info, r = .replaced port info) :
      Shifts s regs s'
  | makes {s' name capability portType} (p : Port) (ports : s'.ports = s.ports ++ [some p])
      (connection : s'.connection = s.connection) (client : p.client = s.connection.clientId) :
      Shifts s [.created p.id name capability portType] s'
  | ends {s'} (slot : Nat) (p : Port) (place : Option Port) (held : s.port? slot = some p)
      (left : place = none ∨ place = some { p with isClosed := true })
      (ports : s'.ports = s.ports.set slot place) (connection : s'.connection = s.connection) :
      Shifts s (s.deletions [some p]) s'
  | closes {regs s'} (ports : s'.ports = s.ports ∨ s'.ports = [])
      (connection : s'.connection = { s.connection with isOpen := false })
      (deleted : ∀ r ∈ regs, ∃ p, some p ∈ s.ports ∧ r = .deleted p.id) : Shifts s regs s'

/-! Operations that leave the ports of the session as they are. -/

def KeepsPorts (s : Session) (p : Dialogue (Outcome × Session)) : Prop :=
  ∀ h result, Traces p h result →
    (s.after result).ports = s.ports ∧ (s.after result).connection = s.connection

theorem keepsPorts_done {x : Outcome × Session} (ports : x.2.ports = s.ports)
    (connection : x.2.connection = s.connection) : s.KeepsPorts (.done x) := by
  intro h result ht
  obtain ⟨-, rfl⟩ := Program.traces_done_iff.1 ht
  exact ⟨ports, connection⟩

theorem keepsPorts_bind {α : Type} {p : Dialogue α} {f : α → Dialogue (Outcome × Session)}
    (hf : ∀ a, s.KeepsPorts (f a)) : s.KeepsPorts (p >>= f) := by
  intro h result ht
  rcases Program.traces_bind_iff.1 ht with ⟨h₁, a, h₂, -, -, later⟩ | ⟨rfl, -⟩
  · exact hf a h₂ result later
  · exact ⟨rfl, rfl⟩

theorem keepsPorts_report {α : Type} (f : α → Value) (a : Action α) :
    s.KeepsPorts (s.report f a) :=
  keepsPorts_bind fun _ => keepsPorts_done rfl rfl

theorem keepsPorts_onlyBlocking {d : Dialogue (Outcome × Session)} (hd : s.KeepsPorts d) :
    s.KeepsPorts (s.onlyBlocking d) := by
  unfold onlyBlocking
  split
  · exact hd
  · exact keepsPorts_done rfl rfl

theorem keepsPorts_withSlot {α : Type} {slot : Option α} {f : α → Dialogue (Outcome × Session)}
    (hf : ∀ a, s.KeepsPorts (f a)) : s.KeepsPorts (s.withSlot slot f) := by
  cases slot with
  | none => exact keepsPorts_done rfl rfl
  | some a => exact hf a

theorem perform_keepsPorts (s : Session) (bound : Nat) {operation : Operation}
    (hc : operation.isClose = false) (hp : ∀ k, operation.ends .port k = false)
    (hm : ∀ name capability portType, operation ≠ .createPort name capability portType) :
    s.KeepsPorts (s.perform bound operation) := by
  have report {α : Type} (f : α → Value) (a : Action α) : s.KeepsPorts (s.report f a) :=
    keepsPorts_report f a
  cases operation with
  | close => cases hc
  | createPort name capability portType => exact absurd rfl (hm name capability portType)
  | createQueue name =>
    exact keepsPorts_bind fun made => by cases made <;> exact keepsPorts_done rfl rfl
  | port slot o =>
    refine keepsPorts_withSlot fun p => ?_
    cases o with
    | close => simpa [Operation.ends] using hp slot
    | drop => simpa [Operation.ends] using hp slot
    | isClosed => exact keepsPorts_done rfl rfl
    | _ => exact report _ _
  | queue slot o =>
    refine keepsPorts_withSlot fun q => ?_
    cases o with
    | close => exact keepsPorts_bind fun _ => keepsPorts_done rfl rfl
    | drop => exact keepsPorts_bind fun _ => keepsPorts_done rfl rfl
    | _ => exact report _ _
  | isClosed => exact keepsPorts_done rfl rfl
  | clientId => exact keepsPorts_done rfl rfl
  | tryInput => exact keepsPorts_onlyBlocking (report _ _)
  | tryOutput direct event routing =>
    exact keepsPorts_onlyBlocking (keepsPorts_withSlot fun _ => report _ _)
  | tryDrain => exact keepsPorts_onlyBlocking (report _ _)
  | output direct event routing timeout => exact keepsPorts_withSlot fun _ => report _ _
  | poll interest timeout => exact keepsPorts_onlyBlocking (report _ _)
  | nextClient previous => exact keepsPorts_onlyBlocking (report _ _)
  | nextPort client previous => exact keepsPorts_onlyBlocking (report _ _)
  | portInfo target =>
    cases target with
    | ref ref => exact report _ _
    | slot slot => exact keepsPorts_withSlot fun _ => report _ _
  | setPortInfo port info => exact keepsPorts_onlyBlocking (report _ _)
  | clients => exact keepsPorts_bind fun _ => keepsPorts_done rfl rfl
  | ports client => exact keepsPorts_bind fun _ => keepsPorts_done rfl rfl
  | subscribe sender dest binding => exact keepsPorts_withSlot fun _ => report _ _
  | unsubscribe sender dest binding => exact keepsPorts_withSlot fun _ => report _ _
  | _ => exact report _ _

/-! What each operation registers. -/

/-- The calls of a history register what the outcome says, and the ports shift with it. -/
structure Registers (s : Session) (operation : Operation) (h : Dialogue.History)
    (result : Option (Outcome × Session)) : Prop where
  all : Call.registrations (Dialogue.calls h) = s.registrations operation (result.map Prod.fst)
  shifts : s.Shifts (Call.registrations (Dialogue.calls h)) (s.after result)
  failed : (∀ v, result.map Prod.fst ≠ some (.value v)) →
    ∀ x ∈ Dialogue.calls h, Call.RegistersNothing x

theorem registers_other (ht : Traces (s.perform bound operation) h result)
    (silent : s.registrations operation (result.map Prod.fst) = [])
    (keeps : s.KeepsPorts (s.perform bound operation))
    (hn : ∀ name ∈ Call.registering, name ∉ operation.callNames) :
    s.Registers operation h result := by
  have heeds := s.perform_heeds bound operation
  have named : ∀ x ∈ Dialogue.calls h, x.question.name ∈ operation.callNames := heeds.names ht
  have nothing : Call.registrations (Dialogue.calls h) = [] :=
    moved_of_names (fun x r => Call.name_of_registration?) named hn
  obtain ⟨ports, connection⟩ := keeps h result ht
  constructor
  · rw [nothing, silent]
  · rw [nothing]
    exact .keeps ports connection fun r hr => by cases hr
  · intro _ x hx
    exact Call.registersNothing_of_name fun hr => hn _ hr (named x hx)

theorem registers_done {x : Outcome × Session} {operation : Operation}
    (silent : s.registrations operation (some x.1) = []) (same : x.2 = s)
    (ht : Traces (.done x) h result) : s.Registers operation h result := by
  obtain ⟨rfl, rfl⟩ := Program.traces_done_iff.1 ht
  refine ⟨silent.symm, ?_, fun _ x hx => by cases hx⟩
  exact .keeps (congrArg Session.ports same) (congrArg Session.connection same)
    fun r hr => by cases hr

theorem registers_failed {q : Command} {e : Error}
    (said : ∀ status : Status, status < 0 → Call.registration? ⟨.command q, status⟩ = none)
    (fails : ∀ x ∈ Dialogue.calls h, ∃ status : Status, x = ⟨.command q, status⟩ ∧ status < 0)
    (silent : s.registrations operation (some (.error e)) = []) :
    s.Registers operation h (some (.error e, s)) := by
  have nothing : Call.registrations (Dialogue.calls h) = [] := by
    refine List.filterMap_eq_nil_iff.2 fun x hx => ?_
    obtain ⟨status, rfl, negative⟩ := fails x hx
    exact said status negative
  constructor
  · exact nothing.trans silent.symm
  · rw [nothing]
    exact .keeps rfl rfl fun r hr => by cases hr
  · intro _ x hx
    obtain ⟨status, rfl, negative⟩ := fails x hx
    exact fun _ => negative

theorem registers_ordered {α : Type} {f : α → Value} {a : Action α} {q : Command}
    {wrap : Status → α} {r : Registration} (ha : a.Orders q wrap)
    (said : ∀ status : Status, Call.registration? ⟨.command q, status⟩ =
      if 0 ≤ status then some r else none)
    (other : (∃ name, r = .named name) ∨ ∃ port info, r = .replaced port info)
    (failed : ∀ e, s.registrations operation (some (.error e)) = [])
    (worked : ∀ v, s.registrations operation (some (.value v)) = [r])
    (ht : Traces (s.report f a) h result) : s.Registers operation h result := by
  rcases traces_report ha ht with ⟨e, rfl, fails⟩ | ⟨status, positive, rfl, one⟩
  · refine registers_failed (fun status negative => ?_) fails (failed e)
    rw [said, if_neg (Int.not_le.2 negative)]
  · have all : Call.registrations (Dialogue.calls h) = [r] := by
      rw [one]
      simp [Call.registrations, said, positive]
    constructor
    · exact all.trans (worked _).symm
    · rw [all]
      exact .keeps rfl rfl fun r' hr => by
        rw [List.mem_singleton.1 hr]
        exact other
    · intro none_value
      exact absurd rfl (none_value _)

theorem registers_setPort {slot : Nat} {p : Port} (hp : s.port? slot = some p) (info : PortInfo)
    (ht : Traces (s.done (p.setInfo s.connection info)) h result) :
    s.Registers (.port slot (.setInfo info)) h result := by
  have ordered : Action.Orders (.setPortInfo p.id info) (fun _ => ())
      (p.setInfo s.connection info) :=
    Action.orders_checked fun _ _ => Action.orders_execute s.connection _
  exact registers_ordered ordered (fun _ => rfl) (.inr ⟨_, _, rfl⟩) (fun _ => rfl)
    (fun _ => by simp [registrations, hp]) ht

theorem registers_createPort {name : String} {capability : PortCapabilities} {portType : PortType}
    (ht : Traces (s.createPort name capability portType) h result) :
    s.Registers (.createPort name capability portType) h result := by
  have ordered : Action.Orders (.createPort name capability portType)
      (fun id => ({ id, client := s.connection.clientId } : Port))
      (s.connection.createPort name capability portType) :=
    Action.orders_named ((Action.orders_command s.connection _).return _)
  obtain ⟨h₁, r, h₂, rfl, ht₁, ht₂⟩ := Program.traces_bind_of_ends ordered.ends ht
  rcases ordered h₁ _ ht₁ with ⟨e, he, fails⟩ | ⟨id, positive, hr, one⟩
  · cases he
    obtain ⟨rfl, rfl⟩ := Program.traces_done_iff.1 ht₂
    rw [List.append_nil]
    exact registers_failed (q := .createPort name capability portType)
      (fun status negative => if_neg (Int.not_le.2 negative)) fails rfl
  · cases hr
    obtain ⟨rfl, rfl⟩ := Program.traces_done_iff.1 ht₂
    rw [List.append_nil]
    have all : Call.registrations (Dialogue.calls h₁) =
        [.created id name capability portType] := by
      rw [one]
      exact congrArg Option.toList (if_pos positive)
    constructor
    · exact all
    · rw [all]
      exact .makes { id, client := s.connection.clientId } rfl rfl rfl
    · intro none_value
      exact absurd rfl (none_value _)

/-! What is given up. -/

def deletion? : Deed → Option Registration
  | .returns .port id => some (.deleted id)
  | _ => none

theorem registrations_of_deeds {c : Call.History}
    (hc : ∀ x ∈ c, x.question.name ∈ ["delete_simple_port", "free_queue", "close"]) :
    Call.registrations c = (Call.deeds c).filterMap deletion? := by
  unfold Call.registrations Call.deeds
  rw [List.filterMap_map]
  refine List.filterMap_congr fun x hx => ?_
  have name := hc x hx
  obtain ⟨c, answer⟩ := x
  cases c with
  | command q =>
    cases q <;> first | rfl | simp [Call.name, Command.name] at name
  | release => rfl
  | _ => simp [Call.name] at name

theorem deletions_of_returning (s : Session) (p : Port) :
    (s.connection.returning .port p.held).filterMap deletion? = s.deletions [some p] := by
  unfold Connection.returning deletions
  cases hc : s.connection.isOpen <;> cases hp : p.isClosed <;> simp [Port.held, hp, deletion?]

theorem deletions_of_clearing (s : Session) (hc : s.connection.isOpen = true) :
    s.holdings.clearing.filterMap deletion? = s.deletions s.ports := by
  unfold Holdings.clearing deletions
  rw [if_pos hc, List.filterMap_append, List.filterMap_map, List.filterMap_map]
  have queues : (s.holdings.shelf .queue).dues.filterMap (deletion? ∘ .returns .queue) = [] :=
    List.filterMap_eq_nil_iff.2 fun _ _ => rfl
  rw [queues, List.append_nil]
  show (Shelf.dues (s.ports.map (·.map Port.held))).filterMap _ = _
  unfold Shelf.dues
  rw [List.filterMap_map, List.filterMap_filterMap]
  refine List.filterMap_congr fun place _ => ?_
  cases place with
  | none => rfl
  | some p =>
    cases hp : p.isClosed <;> simp [Port.held, hp, deletion?, Option.filter]

theorem deletions_of_closing (s : Session) (mode : Mode) :
    (s.holdings.closing mode).filterMap deletion? =
      match mode with
      | .blocking => []
      | .suspending => s.deletions s.ports := by
  cases hc : s.connection.isOpen with
  | false =>
    have nothing : s.deletions s.ports = [] := if_neg (by simp [hc])
    rw [s.holdings.closing_of_closed hc, nothing]
    cases mode <;> rfl
  | true =>
    cases mode with
    | blocking =>
      rw [s.holdings.closing_blocking hc]
      rfl
    | suspending =>
      rw [s.holdings.closing_suspending hc, List.filterMap_append, s.deletions_of_clearing hc]
      exact List.append_nil _

theorem mem_deletions {places : List (Option Port)} {r : Registration}
    (hr : r ∈ s.deletions places) : ∃ p, some p ∈ places ∧ r = .deleted p.id := by
  unfold deletions at hr
  split at hr
  · obtain ⟨place, member, told⟩ := List.mem_filterMap.1 hr
    obtain ⟨p, kept, rfl⟩ := Option.map_eq_some_iff.1 told
    obtain ⟨rfl, -⟩ := Option.filter_eq_some_iff.1 kept
    exact ⟨p, member, rfl⟩
  · cases hr

theorem registers_ends {slot : Nat} {p : Port} {o : PortOperation} {place : Option Port}
    (hp : s.port? slot = some p) (ho : o = .close ∨ o = .drop)
    (left : place = none ∨ place = some { p with isClosed := true })
    (does : Dialogue.Does (s.performPort slot p o) (s.connection.returning .port p.held) fun x =>
      x.2 = { s with ports := s.ports.set slot place })
    (ht : Traces (s.perform bound (.port slot o)) h result) :
    Call.registrations (Dialogue.calls h) =
        s.registrations (.port slot o) (result.map Prod.fst) ∧
      s.Shifts (Call.registrations (Dialogue.calls h)) (s.after result) := by
  have heeds := s.perform_heeds bound (.port slot o)
  have named : ∀ x ∈ Dialogue.calls h,
      x.question.name ∈ ["delete_simple_port", "free_queue", "close"] := by
    intro x hx
    have name : x.question.name ∈ (Operation.port slot o).callNames := heeds.names ht x hx
    rcases ho with rfl | rfl <;> exact List.mem_singleton.1 name ▸ .head _
  have performed : s.perform bound (.port slot o) = s.performPort slot p o := by
    simp only [perform, hp]
    rfl
  rw [performed] at ht
  obtain ⟨deeds, x, rfl, after⟩ := does h result ht
  have all : Call.registrations (Dialogue.calls h) = s.deletions [some p] := by
    rw [registrations_of_deeds named, deeds, deletions_of_returning]
  have said : s.registrations (.port slot o) (some x.1) = s.deletions [some p] := by
    rcases ho with rfl | rfl <;> simp [registrations, hp]
  refine ⟨all.trans said.symm, ?_⟩
  rw [all]
  have same : s.after (some x) = { s with ports := s.ports.set slot place } := after
  exact .ends slot p place hp left (by rw [same]) (by rw [same])

/-- A port that is closed without success was not deleted. -/
theorem failed_closePort {slot : Nat} {p : Port}
    (ht : Traces (s.performPort slot p .close) h result)
    (failed : ∀ v, result.map Prod.fst ≠ some (.value v)) :
    ∀ x ∈ Dialogue.calls h, Call.RegistersNothing x := by
  have closes : p.close s.connection =
      if p.isClosed || !s.connection.isOpen then .done (.ok (), { p with isClosed := true })
      else (s.connection.execute (.deletePort p.id)).run >>= fun result =>
        .done (result, { p with isClosed := true }) := rfl
  change Traces (p.close s.connection >>= fun y => Program.done (.ofExcept (fun _ => .unit) y.1,
    { s with ports := s.ports.set slot (some y.2) })) h result at ht
  rw [closes] at ht
  split at ht
  · obtain ⟨-, rfl⟩ := Program.traces_done_iff.1 ht
    exact absurd rfl (failed .unit)
  · have ordered := Action.orders_execute s.connection (.deletePort p.id)
    rw [bind_assoc] at ht
    obtain ⟨h₁, r, h₂, rfl, ht₁, ht₂⟩ := Program.traces_bind_of_ends ordered.ends ht
    obtain ⟨rfl, rfl⟩ := Program.traces_done_iff.1 ht₂
    rw [List.append_nil]
    rcases ordered h₁ _ ht₁ with ⟨e, he, fails⟩ | ⟨status, -, hr, -⟩
    · intro x hx
      obtain ⟨status, rfl, negative⟩ := fails x hx
      exact fun _ => negative
    · cases hr
      exact absurd rfl (failed .unit)

theorem registers_noSuchSlot {slot : Nat} {o : PortOperation} (hp : s.port? slot = none)
    (ht : Traces (s.perform bound (.port slot o)) h result) :
    s.Registers (.port slot o) h result := by
  have performed : s.perform bound (.port slot o) = .done (.noSuchSlot, s) := by
    simp only [perform, hp]
    rfl
  rw [performed] at ht
  refine registers_done ?_ rfl ht
  have nothing : s.deletions [none] = [] := by
    unfold deletions
    split <;> rfl
  cases o <;> simp [registrations, hp, nothing]

theorem registers_port (slot : Nat) (o : PortOperation)
    (ht : Traces (s.perform bound (.port slot o)) h result) :
    s.Registers (.port slot o) h result := by
  cases hp : s.port? slot with
  | none => exact registers_noSuchSlot hp ht
  | some p =>
    have performed : s.perform bound (.port slot o) = s.performPort slot p o := by
      simp only [perform, hp]
      rfl
    have keeps (he : o.isEnding = false) : s.KeepsPorts (s.perform bound (.port slot o)) :=
      s.perform_keepsPorts bound rfl (fun k => by cases o <;> first | rfl | cases he)
        (by simp)
    have played : Traces (s.performPort slot p o) h result := by rwa [performed] at ht
    cases o with
    | setInfo info => exact registers_setPort hp info played
    | close =>
      have does : Dialogue.Does (s.performPort slot p .close)
          (s.connection.returning .port p.held) fun x =>
          x.2 = { s with ports := s.ports.set slot (some { p with isClosed := true }) } :=
        Dialogue.does_return (p.does_close s.connection) fun y hy => by rw [hy]
      obtain ⟨all, shifts⟩ := registers_ends hp (.inl rfl) (.inr rfl) does ht
      exact ⟨all, shifts, failed_closePort played⟩
    | drop =>
      have does : Dialogue.Does (s.performPort slot p .drop)
          (s.connection.returning .port p.held) fun x =>
          x.2 = { s with ports := s.ports.set slot none } ∧ x.1 = .value .unit :=
        Dialogue.does_return (p.does_drop s.connection) fun _ _ => ⟨rfl, rfl⟩
      obtain ⟨-, x, rfl, -, value⟩ := does h result played
      obtain ⟨all, shifts⟩ := registers_ends hp (.inr rfl) (.inl rfl)
        (fun h o ht => (does h o ht).imp_right fun ⟨x, hx, same, _⟩ => ⟨x, hx, same⟩) ht
      exact ⟨all, shifts, fun failed => absurd (congrArg some value) (failed .unit)⟩
    | _ =>
      exact registers_other ht rfl (keeps rfl)
        (by simp [Call.registering, Operation.callNames, PortOperation.callNames])

theorem closes_connection {c : Connection} {o : Option Connection} (ht : Traces c.close h o) :
    o = some { c with isOpen := false } ∧ Call.registrations (Dialogue.calls h) = [] := by
  unfold Connection.close at ht
  split at ht
  · obtain ⟨_, t, rfl, hd⟩ := Program.traces_ask_iff.1 ht
    obtain ⟨rfl, rfl⟩ := Program.traces_done_iff.1 hd
    exact ⟨rfl, rfl⟩
  · next hc =>
    obtain ⟨rfl, rfl⟩ := Program.traces_done_iff.1 ht
    have closed : c.isOpen = false := by simpa using hc
    exact ⟨congrArg some (by rw [← closed]), rfl⟩

theorem closes_session {o : Option Session} (ht : Traces (s.connection.close >>= fun c =>
    Program.done { s with connection := c }) h o) :
    o = some { s with connection := { s.connection with isOpen := false } } := by
  obtain ⟨h₁, c, h₂, -, ht₁, ht₂⟩ := Program.traces_bind_of_ends s.connection.does_close.ends ht
  obtain rfl := Option.some.inj (closes_connection ht₁).1
  exact (Program.traces_done_iff.1 ht₂).2

theorem traces_close {o : Option Session} (ht : Traces s.close h o) :
    o = some { s with connection := { s.connection with isOpen := false } } ∨
      o = some { s with
        connection := { s.connection with isOpen := false }, ports := [], queues := [] } := by
  obtain ⟨mode, c, ports, queues⟩ := s
  cases mode with
  | blocking => exact .inl (closes_session (s := ⟨.blocking, c, ports, queues⟩) ht)
  | suspending =>
    have clears := does_clear ⟨.suspending, c, ports, queues⟩
    change Traces (clear ⟨.suspending, c, ports, queues⟩ >>= fun s =>
      s.connection.close >>= fun c => Program.done { s with connection := c }) h o at ht
    obtain ⟨h₁, s', h₂, -, ht₁, ht₂⟩ := Program.traces_bind_of_ends clears.ends ht
    obtain ⟨-, _, hs, rfl⟩ := clears h₁ _ ht₁
    cases hs
    exact .inr (closes_session ht₂)

theorem registers_close (ht : Traces (s.perform bound .close) h result) :
    s.Registers .close h result := by
  have named := (s.perform_heeds bound .close).names ht
  change Traces (s.close >>= fun s' => Program.done (.value .unit, s')) h result at ht
  obtain ⟨h₁, s', h₂, rfl, ht₁, ht₂⟩ := Program.traces_bind_of_ends s.does_close.ends ht
  obtain ⟨rfl, rfl⟩ := Program.traces_done_iff.1 ht₂
  obtain ⟨deeds, -⟩ := s.does_close h₁ _ ht₁
  rw [List.append_nil] at named ⊢
  have all : Call.registrations (Dialogue.calls h₁) =
      match s.mode with
      | .blocking => []
      | .suspending => s.deletions s.ports := by
    rw [registrations_of_deeds named, deeds, deletions_of_closing]
  refine ⟨all, ?_, fun failed => absurd rfl (failed .unit)⟩
  have deleted : ∀ r ∈ Call.registrations (Dialogue.calls h₁),
      ∃ p, some p ∈ s.ports ∧ r = .deleted p.id := by
    rw [all]
    intro r hr
    split at hr
    · cases hr
    · exact mem_deletions hr
  rcases traces_close ht₁ with hs | hs
  · obtain rfl := Option.some.inj hs
    exact .closes (.inl rfl) rfl deleted
  · obtain rfl := Option.some.inj hs
    exact .closes (.inr rfl) rfl deleted

/-- What every operation registers, whatever is answered. -/
theorem perform_registers (ht : Traces (s.perform bound operation) h result) :
    s.Registers operation h result := by
  have keeps (hc : operation.isClose = false) (hp : ∀ k, operation.ends .port k = false)
      (hm : ∀ name capability portType, operation ≠ .createPort name capability portType) :
      s.KeepsPorts (s.perform bound operation) := s.perform_keepsPorts bound hc hp hm
  cases operation with
  | close => exact registers_close ht
  | createPort name capability portType => exact registers_createPort ht
  | port slot o => exact registers_port slot o ht
  | setClientName name =>
    have ordered : Action.Orders (.setClientName name) (fun _ => ())
        (s.connection.setClientName name) :=
      Action.orders_named (Action.orders_execute s.connection _)
    exact registers_ordered ordered (fun _ => rfl) (.inl ⟨name, rfl⟩) (fun _ => rfl)
      (fun _ => rfl) ht
  | setPortInfo port info =>
    cases hm : s.mode with
    | suspending =>
      have performed : s.perform bound (.setPortInfo port info) = .done (.unsupported, s) := by
        simp only [perform, onlyBlocking, hm]
        rfl
      rw [performed] at ht
      exact registers_done rfl rfl ht
    | blocking =>
      have performed : s.perform bound (.setPortInfo port info) =
          s.done (s.connection.setPortInfo port info) := by
        simp only [perform, onlyBlocking, hm]
      rw [performed] at ht
      exact registers_ordered (Action.orders_execute s.connection _) (fun _ => rfl)
        (.inr ⟨_, _, rfl⟩) (fun _ => rfl) (fun _ => rfl) ht
  | queue slot o =>
    refine registers_other ht rfl (keeps rfl (fun _ => rfl) (by simp)) ?_
    cases o <;> simp [Call.registering, Operation.callNames, QueueOperation.callNames]
  | _ =>
    exact registers_other ht rfl (keeps rfl (fun _ => rfl) (by simp))
      (by simp [Call.registering, Operation.callNames])

end Session

end MidiSequencer
