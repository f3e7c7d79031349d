import MidiSequencer.Call
import MidiSequencer.Native.Descriptor

/-! # Native calls

The functions of the native library that serve a connection. A descriptor that a function fills is
handed over and comes back with the status.
-/
namespace MidiSequencer.Native

inductive DescriptorKind where
  | clientInfo | portInfo | queueTempo | subscribe
  deriving DecidableEq

def DescriptorKind.name : DescriptorKind → String
  | clientInfo => "client_info"
  | portInfo => "port_info"
  | queueTempo => "queue_tempo"
  | subscribe => "port_subscribe"

inductive NativeCall where
  | openHandle (name : String) (streams mode : Int)
  | closeHandle
  | clientId
  | setClientName (name : String)
  | pollCount (events : UInt16)
  | pollDescriptors (space : Nat) (events : UInt16)
  | createPort (name : String) (capability type : UInt32)
  | deletePort (port : Int)
  | allocQueue
  | allocNamedQueue (name : String)
  | freeQueue (queue : Int)
  | setQueueTempo (queue : Int) (tempo : TempoDescriptor)
  | controlQueue (queue type value : Int)
  | eventInput
  | eventOutput (record : Record)
  | eventOutputDirect (record : Record)
  | drainOutput
  | dropInput
  | dropInputBuffer
  | dropOutput
  | nextClient (info : ClientDescriptor)
  | nextPort (info : PortDescriptor)
  | clientInfo (client : Int) (info : ClientDescriptor)
  | portInfo (client port : Int) (info : PortDescriptor)
  | setPortInfo (port : Int) (info : PortDescriptor)
  | subscribe (subscription : SubscribeDescriptor)
  | unsubscribe (subscription : SubscribeDescriptor)
  | allocate (kind : DescriptorKind)
  | free (kind : DescriptorKind)
  deriving DecidableEq

/-- Opening answers whether it delivered a handle, input which record it delivered, if any. -/
@[reducible] def NativeCall.Answer : NativeCall → Type
  | .openHandle _ _ _ => Status × Bool
  | .pollDescriptors _ _ => Status × List UInt16
  | .eventInput => Status × Option Record
  | .nextClient _ => Status × ClientDescriptor
  | .nextPort _ => Status × PortDescriptor
  | .clientInfo _ _ => Status × ClientDescriptor
  | .portInfo _ _ _ => Status × PortDescriptor
  | .free _ => Unit
  | _ => Status

namespace NativeCall

def name : NativeCall → String
  | openHandle .. => "snd_seq_open"
  | closeHandle => "snd_seq_close"
  | clientId => "snd_seq_client_id"
  | setClientName _ => "snd_seq_set_client_name"
  | pollCount _ => "snd_seq_poll_descriptors_count"
  | pollDescriptors .. => "snd_seq_poll_descriptors"
  | createPort .. => "snd_seq_create_simple_port"
  | deletePort _ => "snd_seq_delete_simple_port"
  | allocQueue => "snd_seq_alloc_queue"
  | allocNamedQueue _ => "snd_seq_alloc_named_queue"
  | freeQueue _ => "snd_seq_free_queue"
  | setQueueTempo .. => "snd_seq_set_queue_tempo"
  | controlQueue .. => "snd_seq_control_queue"
  | eventInput => "snd_seq_event_input"
  | eventOutput _ => "snd_seq_event_output"
  | eventOutputDirect _ => "snd_seq_event_output_direct"
  | drainOutput => "snd_seq_drain_output"
  | dropInput => "snd_seq_drop_input"
  | dropInputBuffer => "snd_seq_drop_input_buffer"
  | dropOutput => "snd_seq_drop_output"
  | nextClient _ => "snd_seq_query_next_client"
  | nextPort _ => "snd_seq_query_next_port"
  | clientInfo .. => "snd_seq_get_any_client_info"
  | portInfo .. => "snd_seq_get_any_port_info"
  | setPortInfo .. => "snd_seq_set_port_info"
  | subscribe _ => "snd_seq_subscribe_port"
  | unsubscribe _ => "snd_seq_unsubscribe_port"
  | allocate kind => "snd_seq_" ++ kind.name ++ "_malloc"
  | free kind => "snd_seq_" ++ kind.name ++ "_free"

/-- The answer of a call that was made to answer a status and did nothing else. -/
def forced : (c : NativeCall) → Status → c.Answer
  | openHandle .., s => (s, false)
  | pollDescriptors space _, s => (s, List.replicate space 0)
  | eventInput, s => (s, none)
  | nextClient d, s => (s, d)
  | nextPort d, s => (s, d)
  | clientInfo _ d, s => (s, d)
  | portInfo _ _ d, s => (s, d)
  | free _, _ => ()
  | closeHandle, s => s
  | clientId, s => s
  | setClientName _, s => s
  | pollCount _, s => s
  | createPort .., s => s
  | deletePort _, s => s
  | allocQueue, s => s
  | allocNamedQueue _, s => s
  | freeQueue _, s => s
  | setQueueTempo .., s => s
  | controlQueue .., s => s
  | eventOutput _, s => s
  | eventOutputDirect _, s => s
  | drainOutput, s => s
  | dropInput, s => s
  | dropInputBuffer, s => s
  | dropOutput, s => s
  | setPortInfo .., s => s
  | subscribe _, s => s
  | unsubscribe _, s => s
  | allocate _, s => s

end NativeCall

end MidiSequencer.Native
