import MidiSequencer.Cli.Words
import MidiSequencer.Double
import MidiSequencer.Waiting

/-! # What a command line asks for

The options that stand before the command say how to open the sequencer; the command has options and
arguments of its own. Reading is a matter of the words alone, and nothing is opened for it.
-/
namespace MidiSequencer.Cli

structure ListOptions where
  input : Bool := false
  output : Bool := false
  /-- System and closed ports too, and every type. -/
  all : Bool := false
  json : Bool := false
  deriving DecidableEq

structure DumpOptions where
  /-- Connected in this order before listening. -/
  sources : List Address := []
  /-- Seconds. -/
  timeout : Option Double := none
  mode : Mode := .blocking
  deriving DecidableEq

structure SendOptions where
  dest : Address
  channel : UInt8 := 0
  note : UInt8 := 60
  velocity : UInt8 := 100
  /-- Milliseconds between the two ends of the note. -/
  duration : Nat := 250
  deriving DecidableEq

inductive Task where
  | list (options : ListOptions)
  | clients (json : Bool)
  | dump (options : DumpOptions)
  | send (options : SendOptions)
  | connect (sender dest : Address)
  | disconnect (sender dest : Address)
  deriving DecidableEq

structure Invocation where
  clientName : String := "aseq"
  sequencer : String := "default"
  task : Task
  deriving DecidableEq

/-! Values as they are written in words. -/

def readAddress (s : String) : Option Address :=
  match Address.parse s with
  | .ok a => some a
  | .error _ => none

/-- A sign may stand in front of a byte. -/
def readByte (s : String) : Option UInt8 :=
  (Text.readSigned s.toList).bind fun n =>
    if 0 ≤ n ∧ n < 256 then some (UInt8.ofNat n.toNat) else none

def readMilliseconds (s : String) : Option Nat :=
  (Text.readNumber s.toList).bind fun n => if n < UInt64.size then some n else none

def readSeconds (s : String) : Option Double :=
  Double.read s.toList

section

variable {α : Type} (read : String → Option α)

def readValue (name value : String) : Except UsageError α :=
  match read value with
  | some a => .ok a
  | none => .error (.invalidValue name value)

namespace Given

def optional (g : Given) (name : String) : Except UsageError (Option α) :=
  match g.value? name with
  | none => .ok none
  | some value => (readValue read name value).map some

def withDefault (g : Given) (name : String) (default : α) : Except UsageError α := do
  return (← g.optional read name).getD default

def required (g : Given) (name : String) : Except UsageError α := do
  match ← g.optional read name with
  | some a => return a
  | none => throw (.missingArgument name)

def all (g : Given) (name : String) : Except UsageError (List α) :=
  (g.values name).mapM (readValue read name)

def positional (g : Given) (place : Nat) (name : String) : Except UsageError α :=
  match g.positionals[place]? with
  | some value => readValue read name value
  | none => .error (.missingArgument name)

end Given

end

namespace Task

def listGrammar : Grammar where
  options := [("input", .flag), ("output", .flag), ("all", .flag), ("json", .flag)]

def clientsGrammar : Grammar where
  options := [("json", .flag)]

def dumpGrammar : Grammar where
  options := [("from", .values), ("timeout", .value), ("async", .flag)]

def sendGrammar : Grammar where
  options := [("to", .value), ("channel", .value), ("note", .value), ("velocity", .value),
    ("duration", .value)]

def routeGrammar : Grammar where
  positionals := 2

def readList (words : List String) : Except UsageError Task := do
  let g ← listGrammar.readAll words
  return list
    { input := g.has "input", output := g.has "output", all := g.has "all", json := g.has "json" }

def readClients (words : List String) : Except UsageError Task := do
  let g ← clientsGrammar.readAll words
  return clients (g.has "json")

def readDump (words : List String) : Except UsageError Task := do
  let g ← dumpGrammar.readAll words
  let sources ← g.all readAddress "from"
  let timeout ← g.optional readSeconds "timeout"
  return dump { sources, timeout, mode := if g.has "async" then .suspending else .blocking }

def readSend (words : List String) : Except UsageError Task := do
  let g ← sendGrammar.readAll words
  let dest ← g.required readAddress "to"
  let base : SendOptions := { dest }
  let channel ← g.withDefault readByte "channel" base.channel
  let note ← g.withDefault readByte "note" base.note
  let velocity ← g.withDefault readByte "velocity" base.velocity
  let duration ← g.withDefault readMilliseconds "duration" base.duration
  return send { dest, channel, note, velocity, duration }

def readRoute (task : Address → Address → Task) (words : List String) :
    Except UsageError Task := do
  let g ← routeGrammar.readAll words
  let sender ← g.positional readAddress 0 "SENDER"
  let dest ← g.positional readAddress 1 "DEST"
  return task sender dest

/-- The command itself and the words behind it. -/
def read : List String → Except UsageError Task
  | [] => .error .missingCommand
  | "list" :: words => readList words
  | "clients" :: words => readClients words
  | "dump" :: words => readDump words
  | "send" :: words => readSend words
  | "connect" :: words => readRoute connect words
  | "disconnect" :: words => readRoute disconnect words
  | word :: _ => .error (.unknownCommand word)

end Task

namespace Invocation

def grammar : Grammar where
  options := [("client-name", .value), ("sequencer", .value)]

def read (words : List String) : Except UsageError Invocation := do
  let (g, rest) ← grammar.read {} words
  let task ← Task.read rest
  let base : Invocation := { task }
  return {
    clientName := (g.value? "client-name").getD base.clientName
    sequencer := (g.value? "sequencer").getD base.sequencer
    task }

end Invocation

end MidiSequencer.Cli
