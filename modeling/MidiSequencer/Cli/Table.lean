import MidiSequencer.Event.Describe
import MidiSequencer.Info
import MidiSequencer.Text.Column
import MidiSequencer.Text.Json

/-! # Lines and records about ports, clients and events

One line for each port, client or event, in columns; and the fields of the snapshots.
-/
namespace MidiSequencer

/-- Cells of a line, two blanks apart. -/
def Text.columns (cells : List String) : String :=
  "  ".intercalate cells

namespace PortInfo

def direction (p : PortInfo) : String :=
  match p.canRead, p.canWrite with
  | true, true => "rw"
  | true, false => "r"
  | false, true => "w"
  | false, false => "-"

def line (p : PortInfo) : String :=
  Text.columns [Text.padLeft 7 ' ' p.address.text, Text.padRight 2 p.direction,
    Text.padRight 32 p.clientName, p.name]

def fields (p : PortInfo) : Text.Fields :=
  [("client_id", .int p.clientId), ("port_id", .int p.portId), ("name", .text p.name),
    ("capability", .text p.capability.text), ("port_type", .text p.portType.text),
    ("midi_channels", .int p.midiChannels), ("midi_voices", .int p.midiVoices),
    ("synth_voices", .int p.synthVoices), ("read_use", .int p.readUse),
    ("write_use", .int p.writeUse), ("port_specified", .bool p.portSpecified),
    ("timestamping", .bool p.timestamping), ("timestamp_real", .bool p.timestampReal),
    ("timestamp_queue", .int p.timestampQueue), ("client_name", .text p.clientName)]

end PortInfo

namespace ClientInfo

def kind (c : ClientInfo) : String :=
  match c.clientType with
  | some .kernel => "kernel"
  | some .user => "user"
  | none => "?"

/-- The card wins over the process. -/
def owner (c : ClientInfo) : String :=
  match c.card, c.pid with
  | some card, _ => "card " ++ Text.signed card
  | none, some pid => "pid " ++ Text.signed pid
  | none, none => ""

def line (c : ClientInfo) : String :=
  Text.columns [Text.padLeft 3 ' ' (Text.signed c.clientId), Text.padRight 6 c.kind,
    Text.padRight 32 c.name, Text.padLeft 2 ' ' (Text.signed c.numPorts) ++ " ports", c.owner]

def number : Option Int → Text.Scalar
  | some n => .int n
  | none => .null

def fields (c : ClientInfo) : Text.Fields :=
  [("client_id", .int c.clientId), ("name", .text c.name),
    ("broadcast_filter", .bool c.broadcastFilter), ("error_bounce", .bool c.errorBounce),
    ("client_type", (c.clientType.map fun t => Text.Scalar.text t.name).getD .null),
    ("num_ports", .int c.numPorts), ("event_lost", .int c.eventLost),
    ("card_id", number c.card), ("pid", number c.pid)]

end ClientInfo

namespace Timestamp

/-- Ticks fill a column of ten; of real time, the nanoseconds have nine digits at least. -/
def text : Timestamp → String
  | tick t => "@" ++ Text.padRight 10 (Text.decimal t.toNat)
  | real t =>
    "@" ++ Text.decimal t.seconds.toNat ++ "." ++
      Text.padLeft 9 '0' (Text.decimal t.nanoseconds.toNat)

end Timestamp

namespace Event

def line (e : Event) : String :=
  let source := Text.padLeft 7 ' ' ((e.source.map Address.text).getD "-")
  Text.columns (source :: (e.time.map Timestamp.text).toList ++ [e.data.describe])

end Event

end MidiSequencer
