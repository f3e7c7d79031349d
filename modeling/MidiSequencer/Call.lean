import MidiSequencer.Event.Codec
import MidiSequencer.Info

/-! # Calls to the sequencer

What a connection asks of the sequencer behind it. A command answers a status; a query answers data
or the status of its failure; releasing the sequencer answers nothing.
-/
namespace MidiSequencer

/-- Which directions a connection is opened for. -/
inductive Streams where
  | output | input | duplex
  deriving DecidableEq

namespace Streams

def pollIn : UInt16 := 1
def pollOut : UInt16 := 4

/-- What the descriptor has to report for the streams. -/
def interest : Streams → UInt16
  | output => pollOut
  | input => pollIn
  | duplex => pollIn ||| pollOut

def code : Streams → Int
  | output => 1
  | input => 2
  | duplex => 3

end Streams

inductive Command where
  | openSequencer (sequencer : String) (streams : Streams) (mode : Int)
  | setClientName (name : String)
  | clientId
  | createPort (name : String) (capability : PortCapabilities) (portType : PortType)
  | deletePort (port : Int)
  | allocQueue (name : Option String)
  | freeQueue (queue : Int)
  | setQueueTempo (queue : Int) (tempo : UInt32) (resolution : Int)
  | controlQueue (queue : Int) (eventType : UInt8) (value : Int)
  | eventOutput (record : Record)
  | eventOutputDirect (record : Record)
  | drainOutput
  | dropInput
  | dropInputBuffer
  | dropOutput
  | setPortInfo (port : Int) (info : PortInfo)
  | subscribe (subscription : Subscription)
  | unsubscribe (subscription : Subscription)
  deriving DecidableEq

inductive Call where
  | command (command : Command)
  | pollDescriptors
  | eventInput
  | nextClient (previous : Int)
  | nextPort (client previous : Int)
  | clientInfo (client : Int)
  | portInfo (client port : Int)
  | release
  deriving DecidableEq

/-- A list of descriptors is given by what each of them reports. -/
@[reducible] def Call.Answer : Call → Type
  | .command _ => Status
  | .pollDescriptors => Except Status (List UInt16)
  | .eventInput => Except Status Event
  | .nextClient _ => Except Status ClientInfo
  | .nextPort _ _ => Except Status PortInfo
  | .clientInfo _ => Except Status ClientInfo
  | .portInfo _ _ => Except Status PortInfo
  | .release => Unit

namespace Command

def name : Command → String
  | openSequencer .. => "open"
  | setClientName _ => "set_client_name"
  | clientId => "client_id"
  | createPort .. => "create_simple_port"
  | deletePort _ => "delete_simple_port"
  | allocQueue _ => "alloc_queue"
  | freeQueue _ => "free_queue"
  | setQueueTempo .. => "set_queue_tempo"
  | controlQueue .. => "control_queue"
  | eventOutput _ => "event_output"
  | eventOutputDirect _ => "event_output_direct"
  | drainOutput => "drain_output"
  | dropInput => "drop_input"
  | dropInputBuffer => "drop_input_buffer"
  | dropOutput => "drop_output"
  | setPortInfo .. => "set_port_info"
  | subscribe _ => "subscribe_port"
  | unsubscribe _ => "unsubscribe_port"

end Command

namespace Call

def name : Call → String
  | command c => c.name
  | pollDescriptors => "poll_descriptors"
  | eventInput => "event_input"
  | nextClient _ => "query_next_client"
  | nextPort _ _ => "query_next_port"
  | clientInfo _ => "get_client_info"
  | portInfo _ _ => "get_port_info"
  | release => "close"

/-- What an error calls the call. -/
def label : Call → String
  | clientInfo _ => "snd_seq_get_any_client_info"
  | portInfo _ _ => "snd_seq_get_any_port_info"
  | c => "snd_seq_" ++ c.name

/-- The answer of a call that failed with a status, or that was made to answer it. -/
def forced : (c : Call) → Status → c.Answer
  | command _, s => s
  | pollDescriptors, s => .error s
  | eventInput, s => .error s
  | nextClient _, s => .error s
  | nextPort _ _, s => .error s
  | clientInfo _, s => .error s
  | portInfo _ _, s => .error s
  | release, _ => ()

end Call

/-- Nanoseconds since the clock started. -/
abbrev Instant := Nat

/-- Nanoseconds. -/
abbrev Duration := Nat

/-- One direction of the descriptor. -/
inductive Interest where
  | read | write
  deriving DecidableEq

inductive PollOutcome where
  | ready
  | notReady
  | interrupted
  | failed (number : Int)
  deriving DecidableEq

/-- What a client asks of its surroundings: the sequencer, the clock, a blocking wait of so many
milliseconds, a suspending wait until an instant, and a pause. -/
inductive Request where
  | call (call : Call)
  | now
  | poll (interest : Interest) (milliseconds : Int)
  | suspend (interest : Interest) (limit : Option Instant)
  | clearReady (interest : Interest)
  | pause (milliseconds : Nat)

/-- A suspending wait answers whether the descriptor became ready. -/
@[reducible] def Request.Answer : Request → Type
  | .call c => c.Answer
  | .now => Instant
  | .poll _ _ => PollOutcome
  | .suspend _ _ => Bool
  | .clearReady _ => Unit
  | .pause _ => Unit

end MidiSequencer
