import MidiSequencer.Port
import MidiSequencer.Queue
import MidiSequencer.Waiting

/-! # Sessions

A connection in the hands of a client, with the ports and queues made on it in numbered slots. A
session performs operations given as data, one after the other, and ends by dropping its ports, its
queues and the connection, in this order. Some operations are for blocking clients alone. A session
starts without an error of its own but for a closed connection: that a reactor does not take the
descriptor of a suspending client is left out.
-/
namespace MidiSequencer

structure Session where
  mode : Mode
  connection : Connection
  ports : List (Option Port) := []
  queues : List (Option Queue) := []

/-- A route whose port and queue may be given by slot; numbers given as such win. -/
structure Routing where
  portSlot : Option Nat := none
  port : Option Int := none
  queueSlot : Option Nat := none
  queue : Option Int := none
  dest : Option Address := none

/-- Options of a subscription whose queue may be given by slot. -/
structure Binding where
  options : SubscribeOptions := {}
  queueSlot : Option Nat := none

inductive PortTarget where
  | ref (ref : PortRef)
  | slot (slot : Nat)

inductive PortOperation where
  | isClosed
  | info
  | setInfo (info : PortInfo)
  | connectTo (dest : Address)
  | connectFrom (sender : Address)
  | disconnectTo (dest : Address)
  | disconnectFrom (sender : Address)
  | close
  | drop

inductive QueueOperation where
  | setTempo (tempo : UInt32) (resolution : Int)
  | setDefaultTempo
  | control (eventType : UInt8) (value : Int)
  | start
  | stop
  | resume
  | close
  | drop

inductive Operation where
  | close
  | isClosed
  | clientId
  | setClientName (name : String)
  | ownClientInfo
  | dropInput
  | dropInputBuffer
  | dropOutput
  | createPort (name : String) (capability : PortCapabilities) (portType : PortType)
  | createQueue (name : Option String)
  | port (slot : Nat) (operation : PortOperation)
  | queue (slot : Nat) (operation : QueueOperation)
  | tryInput
  | tryOutput (direct : Bool) (event : Event) (routing : Routing)
  | tryDrain
  | input (timeout : Option Duration)
  | output (direct : Bool) (event : Event) (routing : Routing) (timeout : Option Duration)
  | drain (timeout : Option Duration)
  | poll (interest : Interest) (timeout : Option Duration)
  | nextClient (previous : Previous)
  | nextPort (client : Int) (previous : Previous)
  | clientInfo (client : Int)
  | portInfo (target : PortTarget)
  | setPortInfo (port : Int) (info : PortInfo)
  | clients
  | ports (client : Int)
  | listPorts (filter : PortFilter)
  | listPortsBy (filter : PortFilter) (le : PortInfo → PortInfo → Bool)
  | subscribe (sender dest : Address) (binding : Binding)
  | unsubscribe (sender dest : Address) (binding : Binding)

/-- What an operation answers when it succeeds. -/
inductive Value where
  | unit
  | bool (value : Bool)
  | int (value : Int)
  | status? (status : Option Status)
  | event? (event : Option Event)
  | client? (client : Option ClientInfo)
  | port? (port : Option PortInfo)
  | portCreated (slot : Nat) (port : Port)
  | queueCreated (slot : Nat) (queue : Queue)
  | clients (items : List (Except Error ClientInfo))
  | ports (items : List (Except Error PortInfo))
  | listing (ports : List PortInfo)

inductive Outcome where
  | value (value : Value)
  | error (error : Error)
  | noSuchSlot
  | unsupported

namespace Outcome

def ofExcept {α : Type} (f : α → Value) : Except Error α → Outcome
  | .ok a => value (f a)
  | .error e => error e

end Outcome

namespace Session

def port? (s : Session) (slot : Nat) : Option Port := (s.ports[slot]?).join
def queue? (s : Session) (slot : Nat) : Option Queue := (s.queues[slot]?).join

/-- A suspending client cannot be made of a closed connection. -/
def start (mode : Mode) (c : Connection) : Except Error Session :=
  if mode = .suspending ∧ c.isOpen = false then .error .closed else .ok { mode, connection := c }

/-- The route that a routing stands for, if its slots are filled. -/
def route (s : Session) (r : Routing) : Option Route := do
  let ofPort ← match r.portSlot with
    | none => some {}
    | some slot => (s.port? slot).map fun p => Route.withPort {} p.id
  let route := (r.port.map ofPort.withPort).getD ofPort
  let route ← match r.queueSlot with
    | none => some route
    | some slot => (s.queue? slot).map fun q => route.withQueue q.id
  let route := (r.queue.map route.withQueue).getD route
  return (r.dest.map route.withDest).getD route

def options (s : Session) (b : Binding) : Option SubscribeOptions :=
  match b.queueSlot with
  | none => some b.options
  | some slot => (s.queue? slot).map fun q =>
    { b.options with queue := some (Address.lowByte q.id) }

/-- The outcome of an action that leaves the session as it is. -/
def report {α : Type} (s : Session) (f : α → Value) (a : Action α) :
    Dialogue (Outcome × Session) := do
  return (.ofExcept f (← a.run), s)

def done (s : Session) (a : Action Unit) : Dialogue (Outcome × Session) :=
  s.report (fun _ => .unit) a

/-- An operation that a suspending client does not offer. -/
def onlyBlocking (s : Session) (d : Dialogue (Outcome × Session)) :
    Dialogue (Outcome × Session) :=
  match s.mode with
  | .blocking => d
  | .suspending => return (.unsupported, s)

def withSlot {α : Type} (s : Session) (slot : Option α)
    (f : α → Dialogue (Outcome × Session)) : Dialogue (Outcome × Session) :=
  match slot with
  | some a => f a
  | none => return (.noSuchSlot, s)

def performPort (s : Session) (slot : Nat) (p : Port) :
    PortOperation → Dialogue (Outcome × Session)
  | .isClosed => return (.value (.bool p.isClosed), s)
  | .info => s.report (fun info => .port? (some info)) (p.info s.connection)
  | .setInfo info => s.done (p.setInfo s.connection info)
  | .connectTo dest => s.done (p.connectTo s.connection dest)
  | .connectFrom sender => s.done (p.connectFrom s.connection sender)
  | .disconnectTo dest => s.done (p.disconnectTo s.connection dest)
  | .disconnectFrom sender => s.done (p.disconnectFrom s.connection sender)
  | .close => do
    let (result, p) ← p.close s.connection
    return (.ofExcept (fun _ => .unit) result, { s with ports := s.ports.set slot (some p) })
  | .drop => do
    p.drop s.connection
    return (.value .unit, { s with ports := s.ports.set slot none })

def performQueue (s : Session) (slot : Nat) (q : Queue) :
    QueueOperation → Dialogue (Outcome × Session)
  | .setTempo tempo resolution => s.done (q.setTempo s.connection tempo resolution)
  | .setDefaultTempo => s.done (q.setDefaultTempo s.connection)
  | .control eventType value => s.done (q.control s.connection eventType value)
  | .start => s.done (q.start s.connection)
  | .stop => s.done (q.stop s.connection)
  | .resume => s.done (q.resume s.connection)
  | .close => do
    let (result, q) ← q.close s.connection
    return (.ofExcept (fun _ => .unit) result, { s with queues := s.queues.set slot (some q) })
  | .drop => do
    q.drop s.connection
    return (.value .unit, { s with queues := s.queues.set slot none })

/-- Drops what the filled slots hold, in their order. -/
def dropAll {α : Type} (drop : α → Connection → Dialogue Unit) (c : Connection) :
    List (Option α) → Dialogue Unit
  | [] => return ()
  | none :: rest => dropAll drop c rest
  | some a :: rest => do
    drop a c
    dropAll drop c rest

/-- Drops all ports and queues, in the order of their slots. -/
def clear (s : Session) : Dialogue Session := do
  dropAll Port.drop s.connection s.ports
  dropAll Queue.drop s.connection s.queues
  return { s with ports := [], queues := [] }

/-- A suspending client gives up its ports and queues before it closes the connection. -/
def close (s : Session) : Dialogue Session := do
  let s ← match s.mode with
    | .blocking => pure s
    | .suspending => s.clear
  return { s with connection := ← s.connection.close }

/-- The end of every session: nothing made on the connection outlives it. -/
def finish (s : Session) : Dialogue Session := do
  let s ← s.clear
  return { s with connection := ← s.connection.close }

def createPort (s : Session) (name : String) (capability : PortCapabilities)
    (portType : PortType) : Dialogue (Outcome × Session) := do
  match ← (s.connection.createPort name capability portType).run with
  | .ok p =>
    return (.value (.portCreated s.ports.length p), { s with ports := s.ports ++ [some p] })
  | .error e => return (.error e, s)

def createQueue (s : Session) (name : Option String) : Dialogue (Outcome × Session) := do
  match ← (s.connection.createQueue name).run with
  | .ok q =>
    return (.value (.queueCreated s.queues.length q), { s with queues := s.queues ++ [some q] })
  | .error e => return (.error e, s)

/-- Performs one operation, with a bound on attempts and on the steps of an enumeration. -/
def perform (s : Session) (bound : Nat) : Operation → Dialogue (Outcome × Session)
  | .close => do
    let s ← s.close
    return (.value .unit, s)
  | .isClosed => return (.value (.bool !s.connection.isOpen), s)
  | .clientId => return (.value (.int s.connection.clientId), s)
  | .setClientName name => s.done (s.connection.setClientName name)
  | .ownClientInfo =>
    s.report (fun i => .client? (some i)) (s.connection.clientInfo s.connection.clientId)
  | .dropInput => s.done s.connection.dropInput
  | .dropInputBuffer => s.done s.connection.dropInputBuffer
  | .dropOutput => s.done s.connection.dropOutput
  | .createPort name capability portType => s.createPort name capability portType
  | .createQueue name => s.createQueue name
  | .port slot operation => s.withSlot (s.port? slot) fun p => s.performPort slot p operation
  | .queue slot operation => s.withSlot (s.queue? slot) fun q => s.performQueue slot q operation
  | .tryInput =>
    s.onlyBlocking (s.report (fun e => .event? (some e)) s.connection.tryInput)
  | .tryOutput direct event routing =>
    s.onlyBlocking (s.withSlot (s.route routing) fun route =>
      s.report .int (s.connection.tryOutput direct event route))
  | .tryDrain => s.onlyBlocking (s.report .int s.connection.tryDrain)
  | .input timeout => s.report .event? (s.connection.input s.mode timeout bound)
  | .output direct event routing timeout =>
    s.withSlot (s.route routing) fun route =>
      s.report .status? (s.connection.output s.mode direct event route timeout bound)
  | .drain timeout => s.report .status? (s.connection.drain s.mode timeout bound)
  | .poll interest timeout => s.onlyBlocking (s.report .bool (Waiting.poll interest timeout))
  | .nextClient previous =>
    s.onlyBlocking (s.report .client? (s.connection.nextClient previous))
  | .nextPort client previous =>
    s.onlyBlocking (s.report .port? (s.connection.nextPort client previous))
  | .clientInfo client => s.report (fun i => .client? (some i)) (s.connection.clientInfo client)
  | .portInfo (.ref ref) => s.report (fun i => .port? (some i)) (s.connection.portInfo ref)
  | .portInfo (.slot slot) => s.withSlot (s.port? slot) fun p =>
    s.report (fun i => .port? (some i)) (s.connection.portInfo (.any p.address))
  | .setPortInfo port info => s.onlyBlocking (s.done (s.connection.setPortInfo port info))
  | .clients => do
    return (.value (.clients (← s.connection.clients.items bound {})), s)
  | .ports client => do
    return (.value (.ports (← (s.connection.ports client).items bound {})), s)
  | .listPorts filter => s.report .listing (s.connection.listPorts filter bound)
  | .listPortsBy filter le => s.report .listing (s.connection.listPortsBy filter le bound)
  | .subscribe sender dest binding => s.withSlot (s.options binding) fun options =>
    s.done (s.connection.subscribe sender dest options)
  | .unsubscribe sender dest binding => s.withSlot (s.options binding) fun options =>
    s.done (s.connection.unsubscribe sender dest options)

end Session

end MidiSequencer
