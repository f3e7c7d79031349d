import MidiSequencer.Call

/-! # A sequencer in memory

Tables of clients, ports, queues and subscriptions, the events waiting for input, and the events
that were sent. Clients are kept in the order of their numbers, ports in that of client and port
number.
-/
namespace MidiSequencer

structure QueueRecord where
  id : Int
  tempo : UInt32 := 0
  resolution : Int := 0
  /-- How often the queue was controlled. -/
  controls : Nat := 0
  deriving DecidableEq

structure Store where
  clientId : Int
  clients : List ClientInfo := []
  ports : List PortInfo := []
  queues : List QueueRecord := []
  subscriptions : List Subscription := []
  /-- Delivered by input, oldest first. -/
  input : List Event := []
  /-- Accepted by either kind of output, oldest first. -/
  output : List Event := []
  /-- How many calls for input or output still answer that they would block. -/
  blocks : Nat := 0
  ioCalls : Nat := 0
  descriptors : Nat := 1
  interest : UInt16 := Streams.duplex.interest
  droppedInput : Nat := 0
  released : Bool := false
  nextPort : Int := 0
  nextQueue : Int := 0

namespace Store

def clientOrder (a b : ClientInfo) : Bool := a.clientId ≤ b.clientId

def portOrder (a b : PortInfo) : Bool :=
  a.clientId < b.clientId || (a.clientId == b.clientId && a.portId ≤ b.portId)

/-- A new entry goes behind the entries with an equal number. -/
def addClient (s : Store) (c : ClientInfo) : Store :=
  { s with clients := (s.clients ++ [c]).mergeSort clientOrder }

def addPort (s : Store) (p : PortInfo) : Store :=
  { s with ports := (s.ports ++ [p]).mergeSort portOrder }

/-- The system client with its two ports, and our own client. -/
def initial (clientId : Int) : Store :=
  let system : ClientInfo := { clientId := 0, name := "System", clientType := some .kernel }
  let ours : ClientInfo := { clientId := 128, clientType := some .user }
  let timer : PortInfo :=
    { clientId := 0, portId := 0, name := "Timer", capability := .read ||| .write
      midiChannels := 16 }
  let announce : PortInfo :=
    { clientId := 0, portId := 1, name := "Announce", capability := .readPort, midiChannels := 16 }
  { clientId, clients := [system, ours], ports := [timer, announce] }

def isPort (client port : Int) (p : PortInfo) : Bool :=
  p.clientId == client && p.portId == port

/-- Changes the first entry that passes the test, if there is one. -/
def updateFirst {α : Type} (test : α → Bool) (f : α → α) : List α → Option (List α)
  | [] => none
  | a :: rest => if test a then some (f a :: rest) else (updateFirst test f rest).map (a :: ·)

/-- Removes the entries that pass the test, if there are any. -/
def removeAll {α : Type} (test : α → Bool) (l : List α) : Option (List α) :=
  if l.any test then some (l.filter fun a => !test a) else none

/-- Counts a call for input or output; answers whether it would block. -/
def countTransfer (s : Store) : Bool × Store :=
  (s.blocks != 0, { s with ioCalls := s.ioCalls + 1, blocks := s.blocks - 1 })

def setClientName (s : Store) (name : String) : Status × Store :=
  match updateFirst (·.clientId == s.clientId) (fun c => { c with name }) s.clients with
  | some clients => (0, { s with clients })
  | none => (Status.notFound, s)

def createPort (s : Store) (name : String) (capability : PortCapabilities)
    (portType : PortType) : Status × Store :=
  let p : PortInfo :=
    { clientId := s.clientId, portId := s.nextPort, name
      capability := capability.truncate, portType := portType.truncate, midiChannels := 16 }
  (s.nextPort, { s with nextPort := s.nextPort + 1 }.addPort p)

def deletePort (s : Store) (port : Int) : Status × Store :=
  match removeAll (isPort s.clientId port) s.ports with
  | some ports => (0, { s with ports })
  | none => (Status.notFound, s)

def allocQueue (s : Store) : Status × Store :=
  (s.nextQueue,
    { s with nextQueue := s.nextQueue + 1, queues := s.queues ++ [{ id := s.nextQueue }] })

def freeQueue (s : Store) (queue : Int) : Status × Store :=
  match removeAll (·.id == queue) s.queues with
  | some queues => (0, { s with queues })
  | none => (Status.invalid, s)

def updateQueue (s : Store) (queue : Int) (f : QueueRecord → QueueRecord) : Status × Store :=
  match updateFirst (·.id == queue) f s.queues with
  | some queues => (0, { s with queues })
  | none => (Status.invalid, s)

def takeInput (s : Store) : Except Status Event × Store :=
  match s.countTransfer with
  | (true, s) => (.error Status.wouldBlock, s)
  | (false, s) =>
    match s.input with
    | [] => (.error Status.wouldBlock, s)
    | e :: rest => (.ok e, { s with input := rest })

def send (s : Store) (record : Record) : Status × Store :=
  match s.countTransfer with
  | (true, s) => (Status.wouldBlock, s)
  | (false, s) => (0, { s with output := s.output ++ [record.decode] })

def drain (s : Store) : Status × Store :=
  match s.countTransfer with
  | (true, s) => (Status.wouldBlock, s)
  | (false, s) => (0, s)

def discardInput (s : Store) : Status × Store :=
  (0, { s with input := [], droppedInput := s.droppedInput + s.input.length })

/-- The numbers of an entry are its own, whatever the snapshot says. -/
def setPortInfo (s : Store) (port : Int) (info : PortInfo) : Status × Store :=
  let entry := { info with clientId := s.clientId, portId := port, clientName := "" }
  match updateFirst (isPort s.clientId port) (fun _ => entry) s.ports with
  | some ports => (0, { s with ports })
  | none => (Status.notFound, s)

def subscribe (s : Store) (sub : Subscription) : Status × Store :=
  if s.subscriptions.any sub.sameEnds then (Status.busy, s)
  else (0, { s with subscriptions := s.subscriptions ++ [sub] })

def unsubscribe (s : Store) (sub : Subscription) : Status × Store :=
  match removeAll sub.sameEnds s.subscriptions with
  | some subscriptions => (0, { s with subscriptions })
  | none => (Status.notFound, s)

def find {α : Type} (test : α → Bool) (l : List α) : Except Status α :=
  match l.find? test with
  | some a => .ok a
  | none => .error Status.notFound

def command (s : Store) : Command → Status × Store
  | .openSequencer .. => (0, s)
  | .setClientName name => s.setClientName name
  | .clientId => (s.clientId, s)
  | .createPort name capability portType => s.createPort name capability portType
  | .deletePort port => s.deletePort port
  | .allocQueue _ => s.allocQueue
  | .freeQueue queue => s.freeQueue queue
  | .setQueueTempo queue tempo resolution =>
    s.updateQueue queue fun q => { q with tempo, resolution }
  | .controlQueue queue _ _ => s.updateQueue queue fun q => { q with controls := q.controls + 1 }
  | .eventOutput record => s.send record
  | .eventOutputDirect record => s.send record
  | .drainOutput => s.drain
  | .dropInput => s.discardInput
  | .dropInputBuffer => s.discardInput
  | .dropOutput => (0, s)
  | .setPortInfo port info => s.setPortInfo port info
  | .subscribe sub => s.subscribe sub
  | .unsubscribe sub => s.unsubscribe sub

def answer (s : Store) : (c : Call) → c.Answer × Store
  | .command c => s.command c
  | .pollDescriptors => (.ok (List.replicate s.descriptors s.interest), s)
  | .eventInput => s.takeInput
  | .nextClient previous => (find (fun c => previous < c.clientId) s.clients, s)
  | .nextPort client previous =>
    (find (fun p => p.clientId == client && previous < p.portId) s.ports, s)
  | .clientInfo client => (find (·.clientId == client) s.clients, s)
  | .portInfo client port => (find (isPort client port) s.ports, s)
  | .release => ((), { s with released := true })

end Store

end MidiSequencer
