import MidiSequencer.Error
import MidiSequencer.Native.Call
import MidiSequencer.Program

/-! # Serving a connection by native calls

How each call of a connection is carried out with the native library. Descriptors are allocated
before the call that needs them and freed after it on every path; a failed allocation is the answer.
-/
namespace MidiSequencer.Native

/-- The native library is any machine that answers its calls. -/
abbrev Library (σ : Type) := Machine NativeCall NativeCall.Answer σ

namespace Library

variable {σ α : Type} (m : Library σ)

def call (c : NativeCall) : StateM σ c.Answer :=
  fun s => m c s

/-- Runs `body` between the allocation and the release of a descriptor. -/
def withDescriptor (kind : DescriptorKind) (failed : Status → α) (body : StateM σ α) :
    StateM σ α := do
  let status ← m.call (.allocate kind)
  if status < 0 then return failed status
  else
    let a ← body
    m.call (.free kind)
    return a

/-- What a filled descriptor says, unless the status is negative. -/
def filled {δ : Type} (read : δ → α) (answer : Status × δ) : Except Status α :=
  if answer.1 < 0 then .error answer.1 else .ok (read answer.2)

def pollDescriptors : StateM σ (Except Status (List UInt16)) := do
  let events := Streams.duplex.interest
  let count ← m.call (.pollCount events)
  if count < 0 then return .error count
  else
    let (found, reported) ← m.call (.pollDescriptors count.toNat events)
    if found < 0 then return .error found
    else return .ok (reported.take found.toNat)

def eventInput : StateM σ (Except Status Event) := do
  let (status, record) ← m.call .eventInput
  if status < 0 then return .error status
  else match record with
    | none => return .error Status.noSpace
    | some r => return .ok r.decode

/-- A name with a nul inside is refused before the native call. -/
def setPortInfo (port : Int) (info : PortInfo) : StateM σ Status :=
  m.withDescriptor .portInfo id do
    if info.name.toList.contains '\x00' then return Status.invalid
    else m.call (.setPortInfo port (PortDescriptor.write {} info))

def command : Command → StateM σ Status
  | .openSequencer sequencer streams mode => do
    let (status, _) ← m.call (.openHandle sequencer streams.code mode)
    return status
  | .setClientName name => m.call (.setClientName name)
  | .clientId => m.call .clientId
  | .createPort name capability portType =>
    m.call (.createPort name capability.bits portType.bits)
  | .deletePort port => m.call (.deletePort port)
  | .allocQueue none => m.call .allocQueue
  | .allocQueue (some name) => m.call (.allocNamedQueue name)
  | .freeQueue queue => m.call (.freeQueue queue)
  | .setQueueTempo queue tempo resolution =>
    m.withDescriptor .queueTempo id (m.call (.setQueueTempo queue { tempo, resolution }))
  | .controlQueue queue eventType value => m.call (.controlQueue queue eventType.toNat value)
  | .eventOutput record => m.call (.eventOutput record)
  | .eventOutputDirect record => m.call (.eventOutputDirect record)
  | .drainOutput => m.call .drainOutput
  | .dropInput => m.call .dropInput
  | .dropInputBuffer => m.call .dropInputBuffer
  | .dropOutput => m.call .dropOutput
  | .setPortInfo port info => m.setPortInfo port info
  | .subscribe s =>
    m.withDescriptor .subscribe id (m.call (.subscribe (.ofSubscription s)))
  | .unsubscribe s =>
    m.withDescriptor .subscribe id (m.call (.unsubscribe (.ofSubscription s)))

def serve : (c : Call) → StateM σ c.Answer
  | .command c => m.command c
  | .pollDescriptors => m.pollDescriptors
  | .eventInput => m.eventInput
  | .nextClient previous => m.withDescriptor .clientInfo .error do
    return filled ClientDescriptor.read (← m.call (.nextClient { client := previous }))
  | .nextPort client previous => m.withDescriptor .portInfo .error do
    return filled PortDescriptor.read (← m.call (.nextPort { client, port := previous }))
  | .clientInfo client => m.withDescriptor .clientInfo .error do
    return filled ClientDescriptor.read (← m.call (.clientInfo client {}))
  | .portInfo client port => m.withDescriptor .portInfo .error do
    return filled PortDescriptor.read (← m.call (.portInfo client port {}))
  | .release => do
    let _ ← m.call .closeHandle

/-- Serves a call of a connection that holds a native handle or not: opening may deliver one, and
only a handle that is held is closed. -/
def serveHeld (held : Bool) : (c : Call) → StateM σ (c.Answer × Bool)
  | .command (.openSequencer sequencer streams mode) => do
    let (status, delivered) ← m.call (.openHandle sequencer streams.code mode)
    return (status, delivered)
  | .release => do
    if held then m.serve .release
    return ((), false)
  | c => do
    let answer ← m.serve c
    return (answer, held)

end Library

/-- A connection served by a native library in some state. -/
structure Served (σ : Type) where
  tables : σ
  /-- Whether opening delivered a native handle that was not given back. -/
  held : Bool := false

def Served.answer {σ : Type} (m : Library σ) (c : Call) (s : Served σ) : c.Answer × Served σ :=
  let ((answer, held), tables) := (m.serveHeld s.held c).run s.tables
  (answer, { tables, held })

end MidiSequencer.Native
