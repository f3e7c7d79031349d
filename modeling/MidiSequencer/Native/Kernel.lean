import MidiSequencer.Native.Call

/-! # A native sequencer in memory

Tables of clients and ports and the records waiting for input, behind the native calls. Enumerations
go to the smallest number above the previous one, in whatever order the tables are.
-/
namespace MidiSequencer.Native

structure Kernel where
  clientId : Int := 128
  descriptors : Int := 1
  interest : UInt16 := Streams.duplex.interest
  clients : List ClientDescriptor := []
  ports : List PortDescriptor := []
  /-- In place of a record, `none` is an input call that succeeds without one. -/
  input : List (Option Record) := []
  nextPort : Int := 0
  nextQueue : Int := 0
  isOpen : Bool := false
  /-- Descriptors allocated and not yet freed. -/
  live : Int := 0

namespace Kernel

/-- The first of the entries with the smallest number above `previous`. -/
def smallestAbove {α : Type} (number : α → Int) (previous : Int) (l : List α) : Option α :=
  l.foldl (fun best a =>
    if number a ≤ previous then best
    else match best with
      | none => some a
      | some b => if number a < number b then some a else some b) none

/-- Fills a descriptor with an entry, if there is one. -/
def fill {δ : Type} (d : δ) : Option δ → Status × δ
  | some entry => (0, entry)
  | none => (Status.notFound, d)

def setClientName (k : Kernel) (name : String) : Kernel :=
  { k with clients := k.clients.map fun c =>
      if c.client = k.clientId then { c with name := writeName name } else c }

def isOurs (k : Kernel) (port : Int) (p : PortDescriptor) : Bool :=
  p.client == k.clientId && p.port == port

def createPort (k : Kernel) (name : String) (capability type : UInt32) : Status × Kernel :=
  let p : PortDescriptor :=
    { client := k.clientId, port := k.nextPort, name := writeName name, capability, type }
  (k.nextPort, { k with nextPort := k.nextPort + 1, ports := k.ports ++ [p] })

def deletePort (k : Kernel) (port : Int) : Status × Kernel :=
  if k.ports.any (k.isOurs port) then
    (0, { k with ports := k.ports.filter fun p => !k.isOurs port p })
  else (Status.notFound, k)

def allocQueue (k : Kernel) : Status × Kernel :=
  (k.nextQueue, { k with nextQueue := k.nextQueue + 1 })

/-- What a caller may choose is taken over; numbers and use counts stay as they are. -/
def overwrite (p d : PortDescriptor) : PortDescriptor :=
  { d with client := p.client, port := p.port, readUse := p.readUse, writeUse := p.writeUse }

def setPortInfo (k : Kernel) (port : Int) (d : PortDescriptor) : Status × Kernel :=
  if k.ports.any (k.isOurs port) then
    (0, { k with ports := k.ports.map fun p => if k.isOurs port p then overwrite p d else p })
  else (Status.notFound, k)

/-- The status of a successful input call is the number of records left. -/
def takeInput (k : Kernel) : (Status × Option Record) × Kernel :=
  match k.input with
  | [] => ((Status.wouldBlock, none), k)
  | record :: rest => ((rest.length, record), { k with input := rest })

/-- The size of a record in memory. -/
def recordSize : Status := 28

def answer (k : Kernel) : (c : NativeCall) → c.Answer × Kernel
  | .openHandle .. => ((0, true), { k with isOpen := true })
  | .closeHandle => ((0 : Status), { k with isOpen := false })
  | .clientId => (k.clientId, k)
  | .setClientName name => ((0 : Status), k.setClientName name)
  | .pollCount _ => (k.descriptors, k)
  | .pollDescriptors space _ => (((space : Int), List.replicate space k.interest), k)
  | .createPort name capability type => k.createPort name capability type
  | .deletePort port => k.deletePort port
  | .allocQueue => k.allocQueue
  | .allocNamedQueue _ => k.allocQueue
  | .freeQueue _ => ((0 : Status), k)
  | .setQueueTempo .. => ((0 : Status), k)
  | .controlQueue .. => ((0 : Status), k)
  | .eventInput => k.takeInput
  | .eventOutput _ => (recordSize, k)
  | .eventOutputDirect _ => (recordSize, k)
  | .drainOutput => ((0 : Status), k)
  | .dropInput => ((0 : Status), { k with input := [] })
  | .dropInputBuffer => ((0 : Status), { k with input := [] })
  | .dropOutput => ((0 : Status), k)
  | .nextClient d => (fill d (smallestAbove (·.client) d.client k.clients), k)
  | .nextPort d =>
    (fill d (smallestAbove (·.port) d.port (k.ports.filter fun p => p.client == d.client)), k)
  | .clientInfo client d => (fill d (k.clients.find? fun c => c.client == client), k)
  | .portInfo client port d =>
    (fill d (k.ports.find? fun p => p.client == client && p.port == port), k)
  | .setPortInfo port d => k.setPortInfo port d
  | .subscribe _ => ((0 : Status), k)
  | .unsubscribe _ => ((0 : Status), k)
  | .allocate _ => ((0 : Status), { k with live := k.live + 1 })
  | .free _ => ((), { k with live := k.live - 1 })

end Kernel

end MidiSequencer.Native
