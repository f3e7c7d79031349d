import MidiSequencer.Event

/-! # Events described

The text of an event's data: the name of its kind with the fields of its layout in brackets.
-/
namespace MidiSequencer

namespace Describe

/-- Named fields between braces, behind the name of the layout. -/
def fields (layout : String) (items : List (String × String)) : String :=
  layout ++ " \x7b " ++ ", ".intercalate (items.map fun i => i.1 ++ ": " ++ i.2) ++ " \x7d"

def inBrackets (name argument : String) : String :=
  name ++ "(" ++ argument ++ ")"

def byte (b : UInt8) : String := Text.decimal b.toNat
def word (w : UInt32) : String := Text.decimal w.toNat
def integer (i : Int32) : String := Text.signed i.toInt

def address (a : Address) : String :=
  fields "Address" [("client_id", byte a.client), ("port_id", byte a.port)]

def realTime (t : RealTime) : String :=
  fields "RealTime" [("seconds", word t.seconds), ("nanoseconds", word t.nanoseconds)]

def queueParam : QueueParam → String
  | .value v => inBrackets "Value" (integer v)
  | .position tick => inBrackets "Position" (word tick)
  | .time t => inBrackets "Time" (realTime t)
  | .skew v base => fields "Skew" [("value", word v), ("base", word base)]

def eventData (d : EventData) : String :=
  let name := d.kind.name
  match d with
  | .result _ r =>
    inBrackets name (fields "ResultData"
      [("event_type", integer r.eventType), ("result", integer r.result)])
  | .note _ n =>
    inBrackets name (fields "NoteData"
      [("channel", byte n.channel), ("note", byte n.note), ("velocity", byte n.velocity),
        ("off_velocity", byte n.offVelocity), ("duration", word n.duration)])
  | .control _ c =>
    inBrackets name (fields "ControlData"
      [("channel", byte c.channel), ("param", word c.param), ("value", integer c.value)])
  | .queue _ q =>
    inBrackets name (fields "QueueControl"
      [("queue", byte q.queue), ("param", queueParam q.param)])
  | .signal _ => name
  | .endpoint _ a => inBrackets name (address a)
  | .link _ l =>
    inBrackets name (fields "Connection" [("sender", address l.sender), ("dest", address l.dest)])
  | .sysEx bytes => inBrackets name ("[" ++ ", ".intercalate (bytes.map byte) ++ "]")
  | .generic code => inBrackets name (byte code)

end Describe

def EventData.describe (d : EventData) : String :=
  Describe.eventData d

end MidiSequencer
