import MidiSequencer.Proofs.Registry.Lookups

/-! # Registrations

What a client has a sequencer in memory register, as the calls of it say. Of the registrations about
one port the last decides what is found under its number. -/
namespace MidiSequencer

inductive Registration where
  | named (name : String)
  | created (port : Int) (name : String) (capability : PortCapabilities) (portType : PortType)
  | replaced (port : Int) (info : PortInfo)
  | deleted (port : Int)
  deriving DecidableEq

namespace Registration

def port? : Registration → Option Int
  | named _ => none
  | created port .. => some port
  | replaced port _ => some port
  | deleted port => some port

def name? : Registration → Option String
  | named name => some name
  | _ => none

/-- What is found under the number of the port, which is one of the client `ours`. -/
def snapshot? (ours : Int) : Registration → Option PortInfo
  | created port name capability portType =>
    some { clientId := ours, portId := port, name, capability := capability.truncate
           portType := portType.truncate, midiChannels := 16 }
  | replaced port info => some (info.owned ours port)
  | _ => none

variable (ours client port : Int)

def concerns (r : Registration) : Bool :=
  client == ours && r.port? == some port

/-- What is found under a number where `found` was found before. -/
def settled (found : Option PortInfo) (registrations : List Registration) : Option PortInfo :=
  ((registrations.filter (concerns ours client port)).getLast?).elim found (snapshot? ours)

def lastName (name : String) (registrations : List Registration) : String :=
  ((registrations.filterMap name?).getLast?).getD name

variable {ours client port} {found : Option PortInfo} {registrations rest : List Registration}

theorem settled_singleton (r : Registration) : settled ours client port found [r] =
    if r.concerns ours client port then r.snapshot? ours else found := by
  unfold settled
  rw [List.filter_singleton]
  cases r.concerns ours client port <;> rfl

theorem settled_append : settled ours client port found (registrations ++ rest) =
    settled ours client port (settled ours client port found registrations) rest := by
  unfold settled
  rw [List.filter_append, List.getLast?_append]
  cases (rest.filter (concerns ours client port)).getLast? <;> rfl

theorem settled_foreign (h : client ≠ ours) :
    settled ours client port found registrations = found := by
  have nothing : registrations.filter (concerns ours client port) = [] := by
    simp [concerns, h]
  rw [settled, nothing]
  rfl

theorem settled_isSome (h : .deleted port ∉ registrations) (hf : found.isSome = true) :
    (settled ours client port found registrations).isSome = true := by
  unfold settled
  cases hl : (registrations.filter (concerns ours client port)).getLast? with
  | none => exact hf
  | some r =>
    obtain ⟨member, about⟩ := List.mem_filter.1 (List.mem_of_getLast? hl)
    cases r with
    | named name => simp [concerns, Registration.port?] at about
    | created n name capability portType => rfl
    | replaced n info => rfl
    | deleted n =>
      obtain rfl : n = port := by
        simp only [concerns, Registration.port?, Bool.and_eq_true, beq_iff_eq,
          Option.some.injEq] at about
        exact about.2
      exact absurd member h

theorem lastName_append (name : String) : lastName name (registrations ++ rest) =
    lastName (lastName name registrations) rest := by
  unfold lastName
  rw [List.filterMap_append, List.getLast?_append]
  cases (rest.filterMap name?).getLast? <;> rfl

end Registration

namespace Call

/-- What a call registers. A deletion says that there is no such port, whatever it answers. -/
def registration? : Program.Exchange Call Call.Answer → Option Registration
  | ⟨.command (.setClientName name), status⟩ => if 0 ≤ status then some (.named name) else none
  | ⟨.command (.createPort name capability portType), id⟩ =>
    if 0 ≤ id then some (.created id name capability portType) else none
  | ⟨.command (.setPortInfo port info), status⟩ =>
    if 0 ≤ status then some (.replaced port info) else none
  | ⟨.command (.deletePort port), _⟩ => some (.deleted port)
  | _ => none

def registrations (h : History) : List Registration :=
  h.filterMap registration?

@[simp] theorem registrations_append (h t : History) :
    registrations (h ++ t) = registrations h ++ registrations t :=
  List.filterMap_append

def RegistersNothing : Program.Exchange Call Call.Answer → Prop
  | ⟨.command q, status⟩ => q.registers = true → status < 0
  | _ => True

theorem registration?_of_registers {q : Command} (hq : q.registers = false) (status : Status) :
    registration? ⟨.command q, status⟩ = none := by
  cases q <;> first | rfl | cases hq

end Call

namespace Store

open Registration

/-- From one state to another by what is registered. -/
structure Registers (s : Store) (registrations : List Registration) (t : Store) : Prop where
  clientId : t.clientId = s.clientId
  nextPort : s.nextPort ≤ t.nextPort
  port? (client port : Int) : t.port? client port =
    settled s.clientId client port (s.port? client port) registrations
  client? (client : Int) : t.client? client = (s.client? client).map fun c =>
    if client = s.clientId then { c with name := lastName c.name registrations } else c
  others : t.clients.filter (·.clientId != s.clientId) =
    s.clients.filter (·.clientId != s.clientId)
  created (port : Int) (name : String) (capability : PortCapabilities) (portType : PortType) :
    .created port name capability portType ∈ registrations →
    s.nextPort ≤ port ∧ port < t.nextPort

variable {s t u : Store} {regs rest : List Registration}

theorem Registers.of_tables (clientId : t.clientId = s.clientId)
    (nextPort : t.nextPort = s.nextPort) (clients : t.clients = s.clients)
    (ports : t.ports = s.ports) : s.Registers [] t where
  clientId := clientId
  nextPort := Int.le_of_eq nextPort.symm
  port? client port := by
    rw [Store.port?, ports]
    rfl
  client? client := by
    unfold Store.client?
    rw [clients]
    cases s.clients.find? _ <;> simp [lastName]
  others := by rw [clients]
  created port name capability portType h := by cases h

theorem Registers.refl (s : Store) : s.Registers [] s := .of_tables rfl rfl rfl rfl

theorem Registers.trans (first : s.Registers regs t) (second : t.Registers rest u) :
    s.Registers (regs ++ rest) u where
  clientId := second.clientId.trans first.clientId
  nextPort := Int.le_trans first.nextPort second.nextPort
  port? client port := by
    rw [second.port?, first.port?, first.clientId, settled_append]
  client? client := by
    rw [second.client?, first.client?, first.clientId, Option.map_map]
    refine congrArg (Option.map · _) (funext fun c => ?_)
    by_cases h : client = s.clientId <;> simp [h, lastName_append]
  others := by
    have later := second.others
    rw [first.clientId] at later
    exact later.trans first.others
  created port name capability portType h := by
    rcases List.mem_append.1 h with h | h
    · obtain ⟨low, high⟩ := first.created _ _ _ _ h
      exact ⟨low, Int.lt_of_lt_of_le high second.nextPort⟩
    · obtain ⟨low, high⟩ := second.created _ _ _ _ h
      exact ⟨Int.le_trans first.nextPort low, high⟩

/-! What a call registers. -/

def SameNumbers (s t : Store) : Prop :=
  t.clientId = s.clientId ∧ t.nextPort = s.nextPort

theorem sameNumbers_of_countTransfer {blocked : Bool} (h : s.countTransfer = (blocked, t)) :
    s.SameNumbers t := by
  cases h
  exact ⟨rfl, rfl⟩

variable (s)

theorem takeInput_sameNumbers : s.SameNumbers s.takeInput.2 := by
  unfold takeInput
  split
  · next t ht => exact sameNumbers_of_countTransfer ht
  · next t ht =>
    have counted : s.SameNumbers t := sameNumbers_of_countTransfer ht
    split
    · exact counted
    · exact counted

theorem send_sameNumbers (record : Record) : s.SameNumbers (s.send record).2 := by
  unfold send
  split
  · next t ht => exact sameNumbers_of_countTransfer ht
  · next t ht =>
    have counted : s.SameNumbers t := sameNumbers_of_countTransfer ht
    exact counted

theorem command_sameNumbers {q : Command} (hq : q.registers = false) :
    s.SameNumbers (s.command q).2 := by
  cases q with
  | setClientName name => cases hq
  | createPort name capability portType => cases hq
  | deletePort port => cases hq
  | setPortInfo port info => cases hq
  | eventOutput record => exact s.send_sameNumbers record
  | eventOutputDirect record => exact s.send_sameNumbers record
  | drainOutput =>
    simp only [command, drain]
    split
    · next t ht => exact sameNumbers_of_countTransfer ht
    · next t ht => exact sameNumbers_of_countTransfer ht
  | freeQueue queue =>
    simp only [command, freeQueue]
    split <;> exact ⟨rfl, rfl⟩
  | setQueueTempo queue tempo resolution =>
    simp only [command, updateQueue]
    split <;> exact ⟨rfl, rfl⟩
  | controlQueue queue eventType value =>
    simp only [command, updateQueue]
    split <;> exact ⟨rfl, rfl⟩
  | subscribe sub =>
    simp only [command, subscribe]
    split <;> exact ⟨rfl, rfl⟩
  | unsubscribe sub =>
    simp only [command, unsubscribe]
    split <;> exact ⟨rfl, rfl⟩
  | _ => exact ⟨rfl, rfl⟩

variable {s}

theorem Registers.of_same (numbers : s.SameNumbers t)
    (tables : t.clients = s.clients ∧ t.ports = s.ports) : s.Registers [] t :=
  .of_tables numbers.1 numbers.2 tables.1 tables.2

theorem Tidy.of_same (hs : s.Tidy) (numbers : s.SameNumbers t)
    (tables : t.clients = s.clients ∧ t.ports = s.ports) : t.Tidy where
  ports := tables.2 ▸ hs.ports
  nextPort := numbers.2 ▸ hs.nextPort
  own p member ours := by
    rw [numbers.2]
    exact hs.own p (tables.2 ▸ member) (ours.trans numbers.1)

theorem command_tables (s : Store) {q : Command} (hq : q.registers = false) :
    (s.command q).2.clients = s.clients ∧ (s.command q).2.ports = s.ports := by
  cases hr : q.record? with
  | none =>
    have leaves := s.command_leaves hq hr
    exact ⟨leaves.clients, leaves.ports⟩
  | some record =>
    cases q with
    | eventOutput record => exact s.send_tables record
    | eventOutputDirect record => exact s.send_tables record
    | _ => cases hr

theorem Registers.of_port {r : Registration} {n : Int} (about : r.port? = some n)
    (clientId : t.clientId = s.clientId) (nextPort : s.nextPort ≤ t.nextPort)
    (clients : t.clients = s.clients)
    (found : ∀ client port, t.port? client port =
      if client = s.clientId ∧ port = n then r.snapshot? s.clientId else s.port? client port)
    (created : ∀ port name capability portType, r = .created port name capability portType →
      s.nextPort ≤ port ∧ port < t.nextPort) : s.Registers [r] t where
  clientId := clientId
  nextPort := nextPort
  port? client port := by
    rw [found, settled_singleton]
    simp only [concerns, about, Bool.and_eq_true, beq_iff_eq, Option.some.injEq, eq_comm (a := n)]
  client? client := by
    have unnamed : r.name? = none := by
      cases r with
      | named name => cases about
      | _ => rfl
    unfold Store.client?
    rw [clients]
    cases s.clients.find? _ <;> simp [lastName, unnamed]
  others := by rw [clients]
  created port name capability portType h :=
    created port name capability portType (List.mem_singleton.1 h).symm

theorem Tidy.registers_createPort (hs : s.Tidy) (name : String) (capability : PortCapabilities)
    (portType : PortType) :
    s.Registers [.created s.nextPort name capability portType]
      (s.createPort name capability portType).2 :=
  .of_port rfl rfl (Int.le_of_lt (Int.lt_succ _)) rfl (fun _ _ => hs.port?_createPort ..) (by
    rintro port name capability portType h
    cases h
    exact ⟨Int.le_refl _, Int.lt_succ _⟩)

theorem registers_deletePort (s : Store) (n : Int) :
    s.Registers [.deleted n] (s.deletePort n).2 := by
  have same : s.SameNumbers (s.deletePort n).2 ∧ (s.deletePort n).2.clients = s.clients := by
    rcases s.deletePort_cases n with ⟨ports, -, h⟩ | ⟨-, h⟩ <;> rw [h] <;> exact ⟨⟨rfl, rfl⟩, rfl⟩
  obtain ⟨⟨clientId, nextPort⟩, clients⟩ := same
  exact .of_port rfl clientId (Int.le_of_eq nextPort.symm) clients
    (fun _ _ => s.port?_deletePort n) nofun

theorem registers_setPortInfo {n : Int} {info : PortInfo}
    (worked : 0 ≤ (s.setPortInfo n info).1) :
    s.Registers [.replaced n info] (s.setPortInfo n info).2 := by
  have same : s.SameNumbers (s.setPortInfo n info).2 ∧
      (s.setPortInfo n info).2.clients = s.clients := by
    rcases s.setPortInfo_cases n info with ⟨ports, -, h⟩ | ⟨-, h⟩ <;> rw [h] <;>
      exact ⟨⟨rfl, rfl⟩, rfl⟩
  obtain ⟨⟨clientId, nextPort⟩, clients⟩ := same
  exact .of_port rfl clientId (Int.le_of_eq nextPort.symm) clients
    (fun _ _ => port?_setPortInfo worked) nofun

theorem registers_setClientName {name : String} (worked : 0 ≤ (s.setClientName name).1) :
    s.Registers [.named name] (s.setClientName name).2 := by
  have named (client : Int) : (s.setClientName name).2.client? client =
      if client = s.clientId then (s.client? client).map fun c => { c with name }
      else s.client? client := client?_setClientName worked
  rcases s.setClientName_cases name with ⟨clients, h, set⟩ | failed
  · rw [set] at named ⊢
    have others : clients.filter (·.clientId != s.clientId) =
        s.clients.filter (·.clientId != s.clientId) := by
      refine filter_updateFirst_other (fun c hc => ?_) h
      have ours : c.clientId = s.clientId := eq_of_beq hc
      simp [ours]
    constructor
    · exact rfl
    · exact Int.le_refl _
    · intro client port
      rw [settled_singleton]
      simp only [concerns, Registration.port?, reduceCtorEq, beq_iff_eq, Bool.and_eq_true,
        and_false, if_false]
      rfl
    · intro client
      rw [named]
      split <;> simp [lastName, name?]
    · exact others
    · intro port name capability portType h
      cases List.mem_singleton.1 h
  · rw [failed] at worked
    cases worked

theorem command_eq_of_failed {q : Command} (hq : q.registers = true)
    (failed : (s.command q).1 < 0) (hs : 0 ≤ s.nextPort) : (s.command q).2 = s := by
  have worked : ¬ (0 : Status) < 0 := Int.lt_irrefl 0
  cases q with
  | setClientName name =>
    rcases s.setClientName_cases name with ⟨clients, -, h⟩ | h
    · simp only [command, h] at failed
      exact absurd failed worked
    · simp only [command, h]
  | createPort name capability portType => exact absurd failed (Int.not_lt.2 hs)
  | deletePort n =>
    rcases s.deletePort_cases n with ⟨ports, -, h⟩ | ⟨-, h⟩
    · simp only [command, h] at failed
      exact absurd failed worked
    · simp only [command, h]
  | setPortInfo n info =>
    rcases s.setPortInfo_cases n info with ⟨ports, -, h⟩ | ⟨-, h⟩
    · simp only [command, h] at failed
      exact absurd failed worked
    · simp only [command, h]
  | _ => cases hq

theorem Tidy.setClientName (hs : s.Tidy) (name : String) : (s.setClientName name).2.Tidy := by
  rcases s.setClientName_cases name with ⟨clients, -, h⟩ | h <;> rw [h]
  · exact ⟨hs.ports, hs.nextPort, hs.own⟩
  · exact hs

theorem registers_of_status {q : Command} {r : Registration} (hs : 0 ≤ s.nextPort)
    (hq : q.registers = true)
    (said : ∀ status : Status, Call.registration? ⟨.command q, status⟩ =
      if 0 ≤ status then some r else none)
    (worked : 0 ≤ (s.command q).1 → s.Registers [r] (s.command q).2) :
    s.Registers (Call.registrations [⟨.command q, (s.command q).1⟩]) (s.command q).2 := by
  by_cases h : 0 ≤ (s.command q).1
  · have one : Call.registrations [⟨.command q, (s.command q).1⟩] = [r] := by
      simp [Call.registrations, said, h]
    rw [one]
    exact worked h
  · have nothing : Call.registrations [⟨.command q, (s.command q).1⟩] = [] := by
      simp [Call.registrations, said, h]
    rw [nothing, command_eq_of_failed hq (Int.not_le.1 h) hs]
    exact .refl s

theorem Tidy.command (hs : s.Tidy) (q : Command) :
    s.Registers (Call.registrations [⟨.command q, (s.command q).1⟩]) (s.command q).2 ∧
      (s.command q).2.Tidy := by
  cases hq : q.registers with
  | false =>
    have nothing : Call.registrations [⟨.command q, (s.command q).1⟩] = [] := by
      simp [Call.registrations, Call.registration?_of_registers hq]
    rw [nothing]
    exact ⟨.of_same (s.command_sameNumbers hq) (s.command_tables hq),
      hs.of_same (s.command_sameNumbers hq) (s.command_tables hq)⟩
  | true =>
    cases q with
    | setClientName name =>
      exact ⟨registers_of_status hs.nextPort rfl (fun _ => rfl) registers_setClientName,
        hs.setClientName name⟩
    | createPort name capability portType =>
      refine ⟨?_, hs.createPort name capability portType⟩
      have one : Call.registrations [⟨.command (.createPort name capability portType),
          (s.command (.createPort name capability portType)).1⟩] =
          [.created s.nextPort name capability portType] :=
        congrArg Option.toList (if_pos hs.nextPort)
      rw [one]
      exact hs.registers_createPort name capability portType
    | deletePort n => exact ⟨s.registers_deletePort n, hs.deletePort n⟩
    | setPortInfo n info =>
      exact ⟨registers_of_status hs.nextPort rfl (fun _ => rfl) registers_setPortInfo,
        hs.setPortInfo n info⟩
    | _ => cases hq

theorem Tidy.answer (hs : s.Tidy) (c : Call) :
    s.Registers (Call.registrations [⟨c, (s.answer c).1⟩]) (s.answer c).2 ∧
      (s.answer c).2.Tidy := by
  cases c with
  | command q => exact hs.command q
  | eventInput =>
    have leaves := s.takeInput_leaves
    exact ⟨.of_same s.takeInput_sameNumbers ⟨leaves.clients, leaves.ports⟩,
      hs.of_same s.takeInput_sameNumbers ⟨leaves.clients, leaves.ports⟩⟩
  | _ => exact ⟨.of_tables rfl rfl rfl rfl, hs.of_same ⟨rfl, rfl⟩ ⟨rfl, rfl⟩⟩

theorem answer_tables (hs : 0 ≤ s.nextPort) {c : Call}
    (nothing : Call.RegistersNothing ⟨c, (s.answer c).1⟩) :
    (s.answer c).2.clients = s.clients ∧ (s.answer c).2.ports = s.ports := by
  cases c with
  | command q =>
    cases hq : q.registers with
    | false => exact s.command_tables hq
    | true =>
      show (s.command q).2.clients = _ ∧ (s.command q).2.ports = _
      rw [command_eq_of_failed hq (nothing hq) hs]
      exact ⟨rfl, rfl⟩
  | eventInput => exact ⟨s.takeInput_leaves.clients, s.takeInput_leaves.ports⟩
  | _ => exact ⟨rfl, rfl⟩

end Store

namespace Rehearsal

/-- Nothing is forced, and nobody else registers or removes anything. -/
def Change.Quiet : Change → Prop
  | .force rows => Script.Forces (fun _ _ => False) ⟨rows⟩
  | .setup _ _ => False
  | .removeClient _ => False
  | _ => True

variable {r t : Rehearsal} {h : Call.History}

theorem Change.Quiet.forces {x : Change} (hx : x.Quiet) : x.Forces fun _ _ => False := by
  cases x with
  | force rows => exact hx
  | _ => trivial

theorem Change.Quiet.same {x : Change} (hx : x.Quiet) (r : Rehearsal) :
    r.store.SameNumbers (r.change x).store ∧
      (r.change x).store.clients = r.store.clients ∧ (r.change x).store.ports = r.store.ports := by
  cases x with
  | setup clients ports => cases hx
  | removeClient client => cases hx
  | _ => exact ⟨⟨rfl, rfl⟩, rfl, rfl⟩

theorem answer_unforced (hr : r.script.Forces fun _ _ => False) (c : Call) :
    (r.answer c).1 = (r.store.answer c).1 ∧ (r.answer c).2.store = (r.store.answer c).2 ∧
      (r.answer c).2.script.Forces fun _ _ => False := by
  obtain ⟨answers, forces⟩ := answers hr c
  cases answers with
  | forced status allowed answered store => exact allowed.elim
  | worked answered store => exact ⟨answered, store, forces⟩

/-- Nothing is forced, and the tables are tidy. -/
structure Orderly (r : Rehearsal) : Prop where
  script : r.script.Forces fun _ _ => False
  tidy : r.store.Tidy

theorem Orderly.answer (hr : r.Orderly) (c : Call) :
    r.store.Registers (Call.registrations [⟨c, (r.answer c).1⟩]) (r.answer c).2.store ∧
      (r.answer c).2.Orderly := by
  obtain ⟨answered, store, script⟩ := answer_unforced hr.script c
  obtain ⟨registers, tidy⟩ := hr.tidy.answer c
  rw [answered, store]
  exact ⟨registers, script, store ▸ tidy⟩

theorem Orderly.change (hr : r.Orderly) {x : Change} (hx : x.Quiet) :
    r.store.Registers [] (r.change x).store ∧ (r.change x).Orderly := by
  obtain ⟨numbers, tables⟩ := hx.same r
  exact ⟨.of_same numbers tables, forces_change hr.script hx.forces, hr.tidy.of_same numbers tables⟩

/-- At every moment that is registered which the calls so far have registered. -/
theorem Orderly.passes (hr : r.Orderly) (p : simulator.Passes Change.Quiet r h t) :
    r.store.Registers (Call.registrations h) t.store ∧ t.Orderly := by
  induction p with
  | refl => exact ⟨.refl _, hr⟩
  | @call h t c before ih =>
    obtain ⟨registers, orderly⟩ := ih
    obtain ⟨now, after⟩ := orderly.answer c
    rw [Call.registrations_append]
    exact ⟨registers.trans now, after⟩
  | @change h t x allowed before ih =>
    obtain ⟨registers, orderly⟩ := ih
    obtain ⟨now, after⟩ := orderly.change allowed
    have all := registers.trans now
    rw [List.append_nil] at all
    exact ⟨all, after⟩

theorem Orderly.passes_tables (hr : r.Orderly) (p : simulator.Passes Change.Quiet r h t)
    (nothing : ∀ x ∈ h, Call.RegistersNothing x) :
    t.store.clients = r.store.clients ∧ t.store.ports = r.store.ports := by
  induction p with
  | refl => exact ⟨rfl, rfl⟩
  | @call h t c before ih =>
    obtain ⟨earlier, last⟩ := List.forall_mem_append.1 nothing
    obtain ⟨clients, ports⟩ := ih earlier
    obtain ⟨-, orderly⟩ := hr.passes before
    obtain ⟨answered, store, -⟩ := answer_unforced orderly.script c
    have quiet : Call.RegistersNothing ⟨c, (t.answer c).1⟩ := last _ (.head _)
    rw [answered] at quiet
    obtain ⟨same, same'⟩ := Store.answer_tables orderly.tidy.nextPort quiet
    show (t.answer c).2.store.clients = _ ∧ (t.answer c).2.store.ports = _
    rw [store]
    exact ⟨same.trans clients, same'.trans ports⟩
  | @change h t x allowed before ih =>
    obtain ⟨clients, ports⟩ := ih nothing
    obtain ⟨-, same, same'⟩ := allowed.same t
    exact ⟨same.trans clients, same'.trans ports⟩

end Rehearsal

end MidiSequencer
