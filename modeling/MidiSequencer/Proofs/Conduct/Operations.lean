import MidiSequencer.Proofs.Conduct.Rules
import MidiSequencer.Session

/-! # Conduct of operations

Every operation of a session heeds rules of its own. They name the calls that it can make, what it
answers on a closed connection, and how it reports a call that failed. -/
namespace MidiSequencer

namespace PortOperation

def callNames : PortOperation → List String
  | .isClosed => []
  | .info => ["get_port_info"]
  | .setInfo _ => ["set_port_info"]
  | .connectTo _ => ["subscribe_port"]
  | .connectFrom _ => ["subscribe_port"]
  | .disconnectTo _ => ["unsubscribe_port"]
  | .disconnectFrom _ => ["unsubscribe_port"]
  | .close => ["delete_simple_port"]
  | .drop => ["delete_simple_port"]

def isGetter : PortOperation → Bool
  | .isClosed => true
  | _ => false

def isEnding : PortOperation → Bool
  | .close => true
  | .drop => true
  | _ => false

def drops : PortOperation → Bool
  | .drop => true
  | _ => false

end PortOperation

namespace QueueOperation

def callNames : QueueOperation → List String
  | .setTempo .. => ["set_queue_tempo"]
  | .setDefaultTempo => ["set_queue_tempo"]
  | .control .. => ["control_queue"]
  | .start => ["control_queue"]
  | .stop => ["control_queue"]
  | .resume => ["control_queue"]
  | .close => ["free_queue"]
  | .drop => ["free_queue"]

def isEnding : QueueOperation → Bool
  | .close => true
  | .drop => true
  | _ => false

def drops : QueueOperation → Bool
  | .drop => true
  | _ => false

end QueueOperation

namespace Operation

def callNames : Operation → List String
  | .close => ["delete_simple_port", "free_queue", "close"]
  | .isClosed => []
  | .clientId => []
  | .setClientName _ => ["set_client_name"]
  | .ownClientInfo => ["get_client_info"]
  | .dropInput => ["drop_input"]
  | .dropInputBuffer => ["drop_input_buffer"]
  | .dropOutput => ["drop_output"]
  | .createPort .. => ["create_simple_port"]
  | .createQueue _ => ["alloc_queue"]
  | .port _ operation => operation.callNames
  | .queue _ operation => operation.callNames
  | .tryInput => ["event_input"]
  | .tryOutput .. => ["event_output", "event_output_direct"]
  | .tryDrain => ["drain_output"]
  | .input _ => ["event_input"]
  | .output .. => ["event_output", "event_output_direct"]
  | .drain _ => ["drain_output"]
  | .poll .. => []
  | .nextClient _ => ["query_next_client"]
  | .nextPort .. => ["query_next_port"]
  | .clientInfo _ => ["get_client_info"]
  | .portInfo _ => ["get_port_info"]
  | .setPortInfo .. => ["set_port_info"]
  | .clients => ["query_next_client"]
  | .ports _ => ["query_next_port"]
  | .listPorts _ => ["query_next_client", "query_next_port"]
  | .listPortsBy .. => ["query_next_client", "query_next_port"]
  | .subscribe .. => ["subscribe_port"]
  | .unsubscribe .. => ["unsubscribe_port"]

def waits : Operation → Bool
  | .input _ => true
  | .output .. => true
  | .drain _ => true
  | _ => false

/-- Ignores what comes of giving an object back. -/
def drops : Operation → Bool
  | .close => true
  | .port _ operation => operation.drops
  | .queue _ operation => operation.drops
  | _ => false

def isGetter : Operation → Bool
  | .isClosed => true
  | .clientId => true
  | .poll .. => true
  | .port _ operation => operation.isGetter
  | _ => false

def isEnding : Operation → Bool
  | .close => true
  | .port _ operation => operation.isEnding
  | .queue _ operation => operation.isEnding
  | _ => false

/-- Reads an enumeration to its end, errors included. -/
def reads : Operation → Bool
  | .clients => true
  | .ports _ => true
  | _ => false

end Operation

namespace Outcome

/-- An error that is no status of a call; an enumeration yields nothing else. -/
def Refuses : Outcome → Prop
  | .error e => e.status? = none
  | .value (.clients items) => ∃ e, items = [.error e] ∧ e.status? = none
  | .value (.ports items) => ∃ e, items = [.error e] ∧ e.status? = none
  | _ => False

/-- The error, which an enumeration yields as its last item. -/
def Reports (e : Error) : Outcome → Prop
  | .error e' => e' = e
  | .value (.clients items) => items.getLast? = some (.error e)
  | .value (.ports items) => items.getLast? = some (.error e)
  | _ => False

end Outcome

def Operation.Refused (operation : Operation) (o : Outcome) : Prop :=
  if operation.isEnding then o = .value .unit
  else if operation.isGetter then True
  else o.Refuses

namespace Session

/-- The client has the operation, and the slots that it names are filled. -/
def offers (s : Session) : Operation → Bool
  | .port slot _ => (s.port? slot).isSome
  | .queue slot _ => (s.queue? slot).isSome
  | .tryInput => s.mode = .blocking
  | .tryOutput _ _ routing => s.mode = .blocking && (s.route routing).isSome
  | .tryDrain => s.mode = .blocking
  | .output _ _ routing _ => (s.route routing).isSome
  | .poll .. => s.mode = .blocking
  | .nextClient _ => s.mode = .blocking
  | .nextPort .. => s.mode = .blocking
  | .portInfo (.slot slot) => (s.port? slot).isSome
  | .setPortInfo .. => s.mode = .blocking
  | .subscribe _ _ binding => (s.options binding).isSome
  | .unsubscribe _ _ binding => (s.options binding).isSome
  | _ => true

def rules (s : Session) (operation : Operation) : Rules where
  isOpen := s.connection.isOpen
  names := operation.callNames
  waits := operation.waits
  drops := operation.drops

/-- Two steps suffice to read an enumeration on a closed connection, and one for everything else. -/
def duty (s : Session) (bound : Nat) (operation : Operation) : Duty (Outcome × Session) where
  refused
    | none => bound < 2
    | some x => s.offers operation = true → operation.Refused x.1
  reported e
    | none => operation.reads = true
    | some x => x.1.Reports e

end Session

theorem Operation.isTransfer_of_waits {operation : Operation} (hw : operation.waits = true)
    (c : Call) (hc : c.name ∈ operation.callNames) : c.isTransfer = true := by
  have names : c.name ∈ ["event_input", "event_output", "event_output_direct", "drain_output"] := by
    cases operation with
    | input timeout => exact List.mem_append_left _ hc
    | output direct event routing timeout =>
      exact .tail _ (List.mem_append_left ["drain_output"] hc)
    | drain timeout => exact .tail _ (.tail _ (.tail _ hc))
    | _ => cases hw
  cases c with
  | command q => cases q <;> first | rfl | simp [Call.name, Command.name] at names
  | eventInput => rfl
  | _ => simp [Call.name] at names

theorem Operation.isReturn_of_drops {operation : Operation} (hd : operation.drops = true)
    (c : Call) (hc : c.name ∈ operation.callNames) : c.isReturn = true ∨ c = .release := by
  have names : c.name ∈ ["delete_simple_port", "free_queue", "close"] := by
    cases operation with
    | close => exact hc
    | port slot o =>
      cases o with
      | drop => exact List.mem_append_left ["free_queue", "close"] hc
      | _ => cases hd
    | queue slot o =>
      cases o with
      | drop => exact .tail _ (List.mem_append_left ["close"] hc)
      | _ => cases hd
    | _ => cases hd
  cases c with
  | command q => cases q <;> first | exact .inl rfl | simp [Call.name, Command.name] at names
  | release => exact .inr rfl
  | _ => simp [Call.name] at names

/-- Only calls that give something back or release the sequencer are made, and what comes of them is
ignored. -/
structure Rules.Ignores (R : Rules) : Prop where
  drops : R.drops = true
  returns : ∀ c : Call, c.name ∈ R.names → c.isReturn = true ∨ c = .release

end MidiSequencer
