import MidiSequencer.Action

/-! # Connections

One connection to the sequencer. Every operation asks first whether the connection is still open,
and a closed one asks nothing of the sequencer again.
-/
namespace MidiSequencer

structure Connection where
  clientId : Int
  isOpen : Bool := true
  deriving DecidableEq

/-- Everything needed to open a connection. -/
structure Config where
  clientName : String := "alsa-seq.rs"
  streams : Streams := .duplex
  mode : Int := 1
  sequencer : String := "default"

namespace Connection

def call (c : Connection) (q : Call) : Action q.Answer :=
  if c.isOpen then Action.perform q else throw .closed

/-- A command whose negative status is an error. -/
def command (c : Connection) (q : Command) : Action Status := do
  let status ← c.call (.command q)
  checkStatus (.command q) status

def execute (c : Connection) (q : Command) : Action Unit := do
  let _ ← c.command q

/-- The one descriptor of a connection reports at least what the streams need. -/
def checkDescriptors (streams : Streams) : List UInt16 → Except Error Unit
  | [got] =>
    if got &&& streams.interest = streams.interest then .ok ()
    else .error (.pollEvents streams.interest got)
  | reported => .error (.pollDescriptors reported.length)

/-- Registers the name with a sequencer that is already open, and checks its descriptor. -/
def register (clientName : String) (streams : Streams) : Action Connection := do
  let name ← checkName clientName
  let status ← Action.perform (.command (.setClientName name))
  let _ ← checkStatus (.command (.setClientName name)) status
  let status ← Action.perform (.command .clientId)
  let clientId ← checkStatus (.command .clientId) status
  let answer ← Action.perform .pollDescriptors
  let reported ← checkAnswer .pollDescriptors answer
  checkDescriptors streams reported
  return { clientId }

/-- Takes over a sequencer that is already open, and releases it again if that fails. -/
def adopt (clientName : String) (streams : Streams) : Action Connection :=
  tryCatch (register clientName streams) fun e => do
    Action.perform .release
    throw e

def establish (config : Config) : Action Connection := do
  let sequencer ← checkName config.sequencer
  let c := Command.openSequencer sequencer config.streams config.mode
  let status ← Action.perform (.command c)
  let _ ← checkStatus (.command c) status
  adopt config.clientName config.streams

/-- The sequencer is released the first time only. -/
def close (c : Connection) : Dialogue Connection := do
  if c.isOpen then
    Dialogue.ask (.call .release)
    return { c with isOpen := false }
  else return c

def setClientName (c : Connection) (name : String) : Action Unit := do
  let name ← checkName name
  c.execute (.setClientName name)

def dropInput (c : Connection) : Action Unit := c.execute .dropInput
def dropInputBuffer (c : Connection) : Action Unit := c.execute .dropInputBuffer
def dropOutput (c : Connection) : Action Unit := c.execute .dropOutput

/-! Single attempts at input and output: that a call would block is an error like any other. -/

def tryInput (c : Connection) : Action Event := do
  let answer ← c.call .eventInput
  checkAnswer .eventInput answer

def tryOutputRecord (c : Connection) (direct : Bool) (record : Record) : Action Status :=
  c.command (if direct then .eventOutputDirect record else .eventOutput record)

def tryOutput (c : Connection) (direct : Bool) (e : Event) (route : Route) : Action Status :=
  c.tryOutputRecord direct (e.encode route)

def tryDrain (c : Connection) : Action Status := c.command .drainOutput

def subscribe (c : Connection) (sender dest : Address) (options : SubscribeOptions) :
    Action Unit :=
  c.execute (.subscribe ⟨sender, dest, options⟩)

def unsubscribe (c : Connection) (sender dest : Address) (options : SubscribeOptions) :
    Action Unit :=
  c.execute (.unsubscribe ⟨sender, dest, options⟩)

end Connection

end MidiSequencer
