import MidiSequencer.Connection
import MidiSequencer.Filter

/-! # Asking for clients and ports

Single look-ups, and enumerations that go from one entry to the next. An enumeration ends with the
first answer that is no entry: there is no further one, or an error, which it yields.
-/
namespace MidiSequencer

/-- Where an enumeration goes on. A port tells which client it came from. -/
inductive Previous where
  | start
  | id (id : Int)
  | port (client port : Int)
  deriving DecidableEq

namespace Previous

def ofClient (c : ClientInfo) : Previous := id c.clientId
def ofPort (p : PortInfo) : Previous := port p.clientId p.portId

/-- The number to go on from among clients; the enumeration starts behind -1. -/
def inClients : Previous → Except Error Int
  | start => .ok (-1)
  | id n => .ok n
  | port _ _ => .error (.usage .portForClientQuery)

def inPortsOf (client : Int) : Previous → Except Error Int
  | start => .ok (-1)
  | id n => .ok n
  | port owner n =>
    if owner = client then .ok n else .error (.usage (.foreignPort owner client))

end Previous

/-- A port to look up: one of our own by its number, or anybody's by its address. -/
inductive PortRef where
  | own (port : Int)
  | any (address : Address)
  deriving DecidableEq

/-- Client and port number, given the client that is our own. -/
def PortRef.ids (ours : Int) : PortRef → Int × Int
  | own port => (ours, port)
  | any a => (a.client.toNat, a.port.toNat)

namespace Connection

def nextClient (c : Connection) (previous : Previous) : Action (Option ClientInfo) := do
  let q := Call.nextClient (← previous.inClients)
  let answer ← c.call q
  checkNext q answer

def nextPort (c : Connection) (client : Int) (previous : Previous) :
    Action (Option PortInfo) := do
  let q := Call.nextPort client (← previous.inPortsOf client)
  let answer ← c.call q
  checkNext q answer

def clientInfo (c : Connection) (client : Int) : Action ClientInfo := do
  let answer ← c.call (.clientInfo client)
  checkAnswer (.clientInfo client) answer

def portInfo (c : Connection) (port : PortRef) : Action PortInfo := do
  let (client, port) := PortRef.ids c.clientId port
  let answer ← c.call (.portInfo client port)
  checkAnswer (.portInfo client port) answer

def setPortInfo (c : Connection) (port : Int) (info : PortInfo) : Action Unit :=
  c.execute (.setPortInfo port info)

end Connection

/-- A way to ask for the entry after another. -/
structure Enumeration (ι : Type) where
  next : Previous → Action (Option ι)
  previous : ι → Previous

/-- How far an enumeration has come. -/
structure Cursor where
  previous : Previous := .start
  finished : Bool := false
  deriving DecidableEq

namespace Enumeration

variable {ι β : Type}

/-- The next item, an entry or an error, and where to go on. -/
def step (e : Enumeration ι) (cursor : Cursor) : Dialogue (Option (Except Error ι) × Cursor) := do
  if cursor.finished then return (none, cursor)
  match ← (e.next cursor.previous).run with
  | .ok (some a) => return (some (.ok a), { cursor with previous := e.previous a })
  | .ok none => return (none, { cursor with finished := true })
  | .error err => return (some (.error err), { cursor with finished := true })

/-- All items from the cursor on, for at most `steps` of them. -/
def items (e : Enumeration ι) : Nat → Cursor → Dialogue (List (Except Error ι))
  | 0, _ => .unfinished
  | steps + 1, cursor => do
    match ← e.step cursor with
    | (none, _) => return []
    | (some item, cursor) =>
      let rest ← e.items steps cursor
      return item :: rest

/-- Visits the entries in order, up to the first error. -/
def fold (e : Enumeration ι) (visit : β → ι → Action β) : Nat → Cursor → β → Action β
  | 0, _, _ => ExceptT.lift .unfinished
  | steps + 1, cursor, b => do
    match ← ExceptT.lift (e.step cursor) with
    | (none, _) => return b
    | (some (.error err), _) => throw err
    | (some (.ok a), cursor) =>
      let b ← visit b a
      e.fold visit steps cursor b

end Enumeration

namespace Connection

def clients (c : Connection) : Enumeration ClientInfo where
  next := c.nextClient
  previous := .ofClient

def ports (c : Connection) (client : Int) : Enumeration PortInfo where
  next := c.nextPort client
  previous := .ofPort

/-- The accepted ports of one client, added to those found before. -/
def collectPorts (c : Connection) (f : PortFilter) (steps : Nat) (found : List PortInfo)
    (client : ClientInfo) : Action (List PortInfo) :=
  if f.acceptsClient client then
    (c.ports client.clientId).fold (fun found p =>
      return if f.acceptsPort p then found ++ [{ p with clientName := client.name }] else found)
      steps {} found
  else return found

/-- Every accepted port of every accepted client, in the order of the enumeration. -/
def allPorts (c : Connection) (f : PortFilter) (steps : Nat) : Action (List PortInfo) :=
  c.clients.fold (c.collectPorts f steps) steps {} []

def listPorts (c : Connection) (f : PortFilter) (steps : Nat) : Action (List PortInfo) := do
  let found ← c.allPorts f steps
  return if f.sort then found.mergeSort f.inOrder else found

/-- The caller's order takes the place of the default one, whether or not the filter sorts. -/
def listPortsBy (c : Connection) (f : PortFilter) (le : PortInfo → PortInfo → Bool)
    (steps : Nat) : Action (List PortInfo) := do
  let found ← c.allPorts f steps
  return found.mergeSort le

end Connection

end MidiSequencer
