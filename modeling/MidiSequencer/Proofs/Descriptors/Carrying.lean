import MidiSequencer.Proofs.Descriptors.Names
import MidiSequencer.Proofs.Resources.Handles

/-! # What descriptors carry

A snapshot of a port goes through a descriptor unharmed, but for what only the sequencer decides.
The calls that need a descriptor allocate one first and free it at last, and where there is none
they do nothing else. -/
namespace MidiSequencer.Native

variable {σ α : Type}

theorem readName_writeName (name : String) : readName (writeName name) = name := by
  simp only [readName, writeName, Text.Utf8.decode_encode, String.ofList_toList]

theorem ofBool_beq_one (b : Bool) : (ofBool b == 1) = b := by
  cases b <;> rfl

/-- What is read is what was written, without the bits that have no name and the name of the client;
the numbers and the use counts are those of the descriptor. -/
theorem PortDescriptor.read_write (d : PortDescriptor) (info : PortInfo) :
    (d.write info).read =
      { info with
        clientId := d.client, portId := d.port, readUse := d.readUse, writeUse := d.writeUse
        capability := info.capability.truncate, portType := info.portType.truncate
        clientName := "" } := by
  simp only [write, read, readName_writeName, ofBool_beq_one]

/-- The kind of descriptor that a call needs, and the native call that it is for. A name with a zero
character inside is not handed over. -/
def carrier? : Call → Option (DescriptorKind × Option NativeCall)
  | .nextClient previous => some (.clientInfo, some (.nextClient { client := previous }))
  | .nextPort client previous => some (.portInfo, some (.nextPort { client, port := previous }))
  | .clientInfo client => some (.clientInfo, some (.clientInfo client {}))
  | .portInfo client port => some (.portInfo, some (.portInfo client port {}))
  | .command (.setPortInfo port info) => some (.portInfo,
      if '\x00' ∈ info.name.toList then none else some (.setPortInfo port (.write {} info)))
  | .command (.setQueueTempo queue tempo resolution) =>
    some (.queueTempo, some (.setQueueTempo queue { tempo, resolution }))
  | .command (.subscribe s) => some (.subscribe, some (.subscribe (.ofSubscription s)))
  | .command (.unsubscribe s) => some (.subscribe, some (.unsubscribe (.ofSubscription s)))
  | _ => none

def Served.calls (m : Library σ) (c : Call) (s : Served σ) : List NativeCall :=
  (Served.answer (Machine.recorded m) c ⟨(s.tables, []), s.held⟩).2.tables.2.map
    Program.Exchange.question

namespace Library

inductive Carries (m : Library σ) : Option NativeCall → StateM σ α → Prop where
  | refuses (a : α) : Carries m none (pure a)
  | calls (n : NativeCall) (f : n.Answer → α) : Carries m (some n) (f <$> m.call n)

variable (m : Library σ) {c : Call} {kind : DescriptorKind} {carried? : Option NativeCall}

theorem setPortInfo_eq (port : Int) (info : PortInfo) : m.setPortInfo port info =
    m.withDescriptor .portInfo id (if '\x00' ∈ info.name.toList then pure Status.invalid
      else m.call (.setPortInfo port (.write {} info))) := by
  simp only [setPortInfo, List.contains_iff_mem]

theorem exists_carries (hc : carrier? c = some (kind, carried?)) : ∃ body : StateM σ c.Answer,
    m.serve c = m.withDescriptor kind c.forced body ∧ m.Carries carried? body := by
  cases c with
  | command q =>
    cases q with
    | setPortInfo port info =>
      cases hc
      refine ⟨_, m.setPortInfo_eq port info, ?_⟩
      split
      · exact .refuses _
      · exact .calls (.setPortInfo port (.write {} info)) id
    | setQueueTempo queue tempo resolution =>
      cases hc
      exact ⟨_, rfl, .calls (.setQueueTempo queue { tempo, resolution }) id⟩
    | subscribe s =>
      cases hc
      exact ⟨_, rfl, .calls (.subscribe (.ofSubscription s)) id⟩
    | unsubscribe s =>
      cases hc
      exact ⟨_, rfl, .calls (.unsubscribe (.ofSubscription s)) id⟩
    | _ => cases hc
  | nextClient previous =>
    cases hc
    exact ⟨_, rfl, .calls (.nextClient { client := previous }) (filled ClientDescriptor.read)⟩
  | nextPort client previous =>
    cases hc
    exact ⟨_, rfl, .calls (.nextPort { client, port := previous }) (filled PortDescriptor.read)⟩
  | clientInfo client =>
    cases hc
    exact ⟨_, rfl, .calls (.clientInfo client {}) (filled ClientDescriptor.read)⟩
  | portInfo client port =>
    cases hc
    exact ⟨_, rfl, .calls (.portInfo client port {}) (filled PortDescriptor.read)⟩
  | _ => cases hc

theorem withDescriptor_failed {failed : Status → α} {body : StateM σ α} {s : σ}
    (h : (m (.allocate kind) s).1 < (0 : Int)) : m.withDescriptor kind failed body s =
      (failed (m (.allocate kind) s).1, (m (.allocate kind) s).2) := by
  show (if _ then _ else _ : StateM σ α) _ = _
  exact congrFun (if_pos h) _

theorem withDescriptor_allocated {failed : Status → α} {body : StateM σ α} {s : σ}
    (h : ¬ (m (.allocate kind) s).1 < (0 : Int)) : m.withDescriptor kind failed body s =
      let filled := body (m (.allocate kind) s).2
      (filled.1, (m (.free kind) filled.2).2) := by
  show (if _ then _ else _ : StateM σ α) _ = _
  exact congrFun (if_neg h) _

theorem isHandling_of_carrier? (hc : carrier? c = some (kind, carried?)) :
    c.isHandling = false := by
  cases c with
  | command q => cases q <;> first | rfl | cases hc
  | release => cases hc
  | _ => rfl

variable {m}

theorem Carries.questions {carried? : Option NativeCall}
    {body : StateM (σ × NativeCall.History) α} (h : Carries (Machine.recorded m) carried? body)
    (t : σ × NativeCall.History) : (body t).2.2.map Program.Exchange.question =
      t.2.map Program.Exchange.question ++ carried?.toList := by
  cases h with
  | refuses a => exact (List.append_nil _).symm
  | calls n f => exact List.map_append

variable (m)

theorem calls_of_carrier? (hc : carrier? c = some (kind, carried?)) (s : Served σ) :
    let status : Status := (m (.allocate kind) s.tables).1
    (status < 0 → (s.answer m c).1 = c.forced status) ∧
      s.calls m c =
        .allocate kind :: if status < 0 then [] else carried?.toList ++ [.free kind] := by
  intro status
  have plain := isHandling_of_carrier? hc
  -- the answer is that of the library itself, the calls are those that are written down of it
  obtain ⟨body, serve, -⟩ := exists_carries m hc
  obtain ⟨recorded, served, carries⟩ := exists_carries (Machine.recorded m) hc
  unfold Served.calls
  rw [answer_of_isHandling _ _ plain, answer_of_isHandling _ _ plain, serve, served]
  by_cases failed : status < 0
  · have failed' : (Machine.recorded m (.allocate kind) (s.tables, [])).1 < (0 : Int) := failed
    rw [withDescriptor_failed m failed, withDescriptor_failed _ failed', if_pos failed]
    exact ⟨fun _ => rfl, rfl⟩
  · have allocated : ¬ (Machine.recorded m (.allocate kind) (s.tables, [])).1 < (0 : Int) := failed
    rw [withDescriptor_allocated _ allocated, if_neg failed]
    refine ⟨fun h => absurd h failed, ?_⟩
    show List.map _ (_ ++ [_]) = _
    rw [List.map_append, carries.questions]
    rfl

end Library

theorem Served.answer_setPortInfo (m : Library σ) (s : Served σ) (port : Int) (info : PortInfo) :
    let allocated := m (.allocate .portInfo) s.tables
    (s.answer m (.command (.setPortInfo port info))).1 =
      if allocated.1 < (0 : Int) then allocated.1
      else if '\x00' ∈ info.name.toList then Status.invalid
      else (m (.setPortInfo port (.write {} info)) allocated.2).1 := by
  intro allocated
  rw [answer_of_isHandling _ _ rfl]
  show (m.setPortInfo port info s.tables).1 = _
  rw [m.setPortInfo_eq]
  by_cases failed : allocated.1 < (0 : Int)
  · rw [if_pos failed, Library.withDescriptor_failed m failed]
    rfl
  · rw [if_neg failed, Library.withDescriptor_allocated m failed]
    split <;> rfl

/-- A snapshot whose name has no zero character is read back from the descriptor it was written to;
one with such a name is refused, and no native call is made. No call that needs a descriptor does
anything where none is allocated: it answers the status of the allocation. -/
theorem metadata_carried (m : Library σ) (s : Served σ) :
    (∀ (d : PortDescriptor) (info : PortInfo), '\x00' ∉ info.name.toList →
      (∃ bytes, (d.write info).name = some bytes ∧ 0 ∉ bytes) ∧
      (d.write info).read =
        { info with
          clientId := d.client, portId := d.port, readUse := d.readUse, writeUse := d.writeUse
          capability := info.capability.truncate, portType := info.portType.truncate
          clientName := "" }) ∧
    (∀ (port : Int) (info : PortInfo),
      let c := Call.command (.setPortInfo port info)
      let allocated := m (.allocate .portInfo) s.tables
      ((s.answer m c).1 =
        if allocated.1 < (0 : Int) then allocated.1
        else if '\x00' ∈ info.name.toList then Status.invalid
        else (m (.setPortInfo port (.write {} info)) allocated.2).1) ∧
      ('\x00' ∈ info.name.toList → ∀ port d, .setPortInfo port d ∉ s.calls m c)) ∧
    ∀ (c : Call) (kind : DescriptorKind) (carried? : Option NativeCall),
      carrier? c = some (kind, carried?) →
      let status : Status := (m (.allocate kind) s.tables).1
      (status < 0 → (s.answer m c).1 = c.forced status) ∧
      s.calls m c =
        .allocate kind :: if status < 0 then [] else carried?.toList ++ [.free kind] := by
  refine ⟨fun d info whole => ?_, fun port info => ?_, fun c kind carried? hc => ?_⟩
  · exact ⟨⟨_, rfl, Text.Utf8.zero_not_mem_encode whole⟩, d.read_write info⟩
  · refine ⟨s.answer_setPortInfo m port info, fun nul port' d => ?_⟩
    have needs : carrier? (.command (.setPortInfo port info)) = some (.portInfo, none) := by
      simp only [carrier?, if_pos nul]
    rw [(Library.calls_of_carrier? m needs s).2]
    split <;> simp
  · exact Library.calls_of_carrier? m hc s

/-- A descriptor keeps its own numbers and use counts; a name that is not whole is refused; and
where no descriptor is allocated no port is set. -/
theorem metadata_carried_refused :
    let info : PortInfo :=
      { clientId := 7, name := "S\u00FCd", capability := ⟨0x1003⟩, timestamping := true
        clientName := "Midi Through" }
    let broken : PortInfo := { info with name := "S\x00d" }
    let d : PortDescriptor := { client := 20, port := 3, readUse := 2 }
    let s : Served Tables := { tables := { kernel := {} }, held := true }
    let starved : Served Tables :=
      { s with tables.script := ⟨[("snd_seq_port_info_malloc", [some (-12)])]⟩ }
    '\x00' ∉ info.name.toList ∧ '\x00' ∈ broken.name.toList ∧
    (d.write info).read =
      { info with
        clientId := 20, portId := 3, readUse := 2, capability := ⟨0x3⟩, clientName := "" } ∧
    (s.answer Tables.library (.command (.setPortInfo 0 broken))).1 = Status.invalid ∧
    s.calls Tables.library (.command (.setPortInfo 0 broken)) =
      [.allocate .portInfo, .free .portInfo] ∧
    (starved.answer Tables.library (.command (.setPortInfo 0 info))).1 = -12 ∧
    starved.calls Tables.library (.command (.setPortInfo 0 info)) = [.allocate .portInfo] := by
  intro info broken d s starved
  have whole : '\x00' ∉ info.name.toList := by decide
  have nul : '\x00' ∈ broken.name.toList := by decide
  have capability : info.capability.truncate = ⟨0x3⟩ := by decide
  have portType : info.portType.truncate = ⟨0⟩ := by decide
  have allocated : ¬ (Tables.library (.allocate .portInfo) s.tables).1 < (0 : Int) := by decide
  obtain ⟨read, refused, calls⟩ := metadata_carried Tables.library s
  obtain ⟨-, -, starving⟩ := metadata_carried Tables.library starved
  obtain ⟨answered, called⟩ :=
    starving (.command (.setPortInfo 0 info)) .portInfo _ rfl
  have needs : carrier? (.command (.setPortInfo 0 broken)) = some (.portInfo, none) := by
    simp only [carrier?, if_pos nul]
  have again := (calls _ .portInfo none needs).2
  refine ⟨whole, nul, ?_, ?_, again, answered (by decide), called⟩
  · rw [(read d info whole).2, capability, portType]
  · rw [(refused 0 broken).1, if_neg allocated, if_pos nul]

end MidiSequencer.Native
