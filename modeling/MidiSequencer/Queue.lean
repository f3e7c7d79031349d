import MidiSequencer.Connection

/-! # Queues

A queue made on a connection. Like a port it is given back when it is closed, the first time and
only while the connection is open.
-/
namespace MidiSequencer

structure Queue where
  id : Int
  isClosed : Bool := false
  deriving DecidableEq

/-- The queue has a name if one is given. -/
def Connection.createQueue (c : Connection) (name : Option String) : Action Queue := do
  let name ← name.mapM (m := Except Error) checkName
  let status ← c.command (.allocQueue name)
  return { id := status }

namespace Queue

def checkOpen (q : Queue) : Except Error Unit :=
  if q.isClosed then .error .closed else .ok ()

/-- The tempo is in microseconds for a quarter note, the resolution in ticks for one. -/
def setTempo (q : Queue) (c : Connection) (tempo : UInt32) (resolution : Int) : Action Unit := do
  q.checkOpen
  c.execute (.setQueueTempo q.id tempo resolution)

def setDefaultTempo (q : Queue) (c : Connection) : Action Unit :=
  q.setTempo c 500000 96

def control (q : Queue) (c : Connection) (eventType : UInt8) (value : Int) : Action Unit := do
  q.checkOpen
  c.execute (.controlQueue q.id eventType value)

def start (q : Queue) (c : Connection) : Action Unit := q.control c (Kind.queue .start).code 0
def stop (q : Queue) (c : Connection) : Action Unit := q.control c (Kind.queue .stop).code 0
def resume (q : Queue) (c : Connection) : Action Unit := q.control c (Kind.queue .continue).code 0

/-- The queue counts as closed afterwards, whatever the sequencer answers. -/
def close (q : Queue) (c : Connection) : Dialogue (Except Error Unit × Queue) := do
  let closed := { q with isClosed := true }
  if q.isClosed || !c.isOpen then return (.ok (), closed)
  else
    let result ← (c.execute (.freeQueue q.id)).run
    return (result, closed)

/-- Closes the queue; what comes of it is ignored. -/
def drop (q : Queue) (c : Connection) : Dialogue Unit := do
  let _ ← q.close c

end Queue

end MidiSequencer
