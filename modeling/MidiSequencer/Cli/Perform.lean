import MidiSequencer.Cli.Invocation
import MidiSequencer.Cli.Report
import MidiSequencer.Cli.Table
import MidiSequencer.Port

/-! # Performing commands

Each command opens a connection, does its work on it and closes it again, whatever comes of the
work; a port made for the work is dropped before that. Options are checked before anything is
opened.
-/
namespace MidiSequencer.Cli

/-- The report of an action that succeeds with lines to print. -/
def reportLines (failure : Error → Failure) (a : Action (List String)) : Dialogue Report := do
  match ← a.run with
  | .ok lines => return { lines }
  | .error e => return .failed (failure e)

def Invocation.config (i : Invocation) : Config :=
  { clientName := i.clientName, sequencer := i.sequencer }

/-- Works on a connection of its own. -/
def withConnection (config : Config) (work : Connection → Dialogue Report) : Dialogue Report := do
  match ← (Connection.establish config).run with
  | .error e => return .failed (.opening config.sequencer e)
  | .ok c =>
    let report ← work c
    let _ ← c.close
    return report

/-- Works with a port of its own. -/
def withPort (c : Connection) (name : String) (capability : PortCapabilities)
    (work : Port → Dialogue Report) : Dialogue Report := do
  match ← (c.createPort name capability .program).run with
  | .error e => return .failed (.failed e)
  | .ok p =>
    let report ← work p
    p.drop c
    return report

namespace ListOptions

def filter (o : ListOptions) : PortFilter :=
  let base : PortFilter := { input := o.input, output := o.output }
  if o.all then { base with includeSystem := true, onlyConnectable := false, portType := ⟨0⟩ }
  else base

def perform (o : ListOptions) (steps : Nat) (c : Connection) : Dialogue Report :=
  reportLines .failed do
    let ports ← c.listPorts o.filter steps
    return if o.json then [Text.Json.list (ports.map PortInfo.fields)] else ports.map PortInfo.line

end ListOptions

/-- All entries of an enumeration, unless it yields an error. -/
def entries {ι : Type} (e : Enumeration ι) (steps : Nat) : Action (List ι) :=
  e.fold (fun found a => return found ++ [a]) steps {} []

def performClients (json : Bool) (steps : Nat) (c : Connection) : Dialogue Report :=
  reportLines .failed do
    let clients ← entries c.clients steps
    return if json then [Text.Json.list (clients.map ClientInfo.fields)]
      else clients.map ClientInfo.line

namespace DumpOptions

/-- Nanoseconds; a timeout that is given is a finite number and not below zero. A duration has fewer
than 2^64 seconds. -/
def duration (o : DumpOptions) : Except Failure (Option Duration) :=
  match o.timeout with
  | none => .ok none
  | some seconds =>
    match seconds.roundScaled 1000000000 with
    | none => .error (.timeout seconds)
    | some d =>
      if seconds.isNonNegative then
        if seconds.isBelow UInt64.size then .ok (some d) else .error .overlong
      else .error (.timeout seconds)

/-- Connects the sources in their order, up to the first that fails. -/
def connectAll (p : Port) (c : Connection) : List Address → Dialogue (Option Failure)
  | [] => return none
  | sender :: rest => do
    match ← (p.connectFrom c sender).run with
    | .ok () => connectAll p c rest
    | .error e => return some (.listening sender e)

/-- Prints events until none comes in time, behind the lines printed before. -/
def listen (c : Connection) (mode : Mode) (timeout : Option Duration) (attempts : Nat) :
    Nat → List String → Dialogue Report
  | 0, _ => .unfinished
  | steps + 1, lines => do
    match ← (c.input mode timeout attempts).run with
    | .ok none => return { lines := lines.reverse }
    | .ok (some e) => listen c mode timeout attempts steps (e.line :: lines)
    | .error e => return { lines := lines.reverse, failure := some (.failed e) }

def perform (o : DumpOptions) (timeout : Option Duration) (steps : Nat) (c : Connection) :
    Dialogue Report :=
  withPort c "dump" .writePort fun p => do
    match ← connectAll p c o.sources with
    | some f => return .failed f
    | none => listen c o.mode timeout steps steps []

end DumpOptions

namespace SendOptions

def isInRange (o : SendOptions) : Bool :=
  o.channel ≤ 15 && o.note ≤ 127 && o.velocity ≤ 127

/-- How long each end of the note may take: one second. -/
def patience : Duration := 1000000000

/-- Sends one event past the queues; that it cannot be sent in time is a failure. -/
def sendDirect (c : Connection) (e : Event) (route : Route) (late : Failure) (attempts : Nat) :
    Dialogue (Option Failure) := do
  match ← (c.output .blocking true e route (some patience) attempts).run with
  | .ok (some _) => return none
  | .ok none => return some late
  | .error e => return some (.failed e)

def perform (o : SendOptions) (attempts : Nat) (c : Connection) : Dialogue Report :=
  withPort c "send" .readPort fun p => do
    let route := (Route.withPort {} p.id).withDest o.dest
    let on := Event.noteOn o.channel o.note o.velocity
    match ← sendDirect c on route .noteOnTimedOut attempts with
    | some f => return .failed f
    | none =>
      Dialogue.ask (.pause o.duration)
      let off := Event.noteOff o.channel o.note 0
      return { failure := ← sendDirect c off route .noteOffTimedOut attempts }

end SendOptions

/-- Performs a command, with a bound on attempts, events and the steps of an enumeration. -/
def Invocation.perform (i : Invocation) (bound : Nat) : Dialogue Report :=
  match i.task with
  | .list o => withConnection i.config (o.perform bound)
  | .clients json => withConnection i.config (performClients json bound)
  | .dump o =>
    match o.duration with
    | .ok timeout => withConnection i.config (o.perform timeout bound)
    | .error f => return .failed f
  | .send o =>
    if o.isInRange then withConnection i.config (o.perform bound) else return .failed .noteRange
  | .connect sender dest => withConnection i.config fun c =>
    reportLines (.connecting sender dest) do
      c.subscribe sender dest {}
      return []
  | .disconnect sender dest => withConnection i.config fun c =>
    reportLines (.disconnecting sender dest) do
      c.unsubscribe sender dest {}
      return []

end MidiSequencer.Cli
