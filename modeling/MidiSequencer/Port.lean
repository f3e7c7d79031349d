import MidiSequencer.Query

/-! # Ports of our own

A port made on a connection. It is deleted when it is closed, the first time and only while the
connection is open; a closed port refuses everything else.
-/
namespace MidiSequencer

structure Port where
  id : Int
  client : Int
  isClosed : Bool := false
  deriving DecidableEq

def Connection.createPort (c : Connection) (name : String) (capability : PortCapabilities)
    (portType : PortType) : Action Port := do
  let name ← checkName name
  let id ← c.command (.createPort name capability portType)
  return { id, client := c.clientId }

namespace Port

def address (p : Port) : Address := Address.ofIds p.client p.id

def checkOpen (p : Port) : Except Error Unit :=
  if p.isClosed then .error .closed else .ok ()

def info (p : Port) (c : Connection) : Action PortInfo := do
  p.checkOpen
  c.portInfo (.any p.address)

def setInfo (p : Port) (c : Connection) (info : PortInfo) : Action Unit := do
  p.checkOpen
  c.setPortInfo p.id info

/-- Events leaving this port go to `dest`. -/
def connectTo (p : Port) (c : Connection) (dest : Address) : Action Unit := do
  p.checkOpen
  c.subscribe p.address dest {}

/-- Events leaving `sender` go to this port. -/
def connectFrom (p : Port) (c : Connection) (sender : Address) : Action Unit := do
  p.checkOpen
  c.subscribe sender p.address {}

def disconnectTo (p : Port) (c : Connection) (dest : Address) : Action Unit := do
  p.checkOpen
  c.unsubscribe p.address dest {}

def disconnectFrom (p : Port) (c : Connection) (sender : Address) : Action Unit := do
  p.checkOpen
  c.unsubscribe sender p.address {}

/-- The port counts as closed afterwards, whatever the sequencer answers. -/
def close (p : Port) (c : Connection) : Dialogue (Except Error Unit × Port) := do
  let closed := { p with isClosed := true }
  if p.isClosed || !c.isOpen then return (.ok (), closed)
  else
    let result ← (c.execute (.deletePort p.id)).run
    return (result, closed)

/-- Closes the port; what comes of it is ignored. -/
def drop (p : Port) (c : Connection) : Dialogue Unit := do
  let _ ← p.close c

end Port

end MidiSequencer
