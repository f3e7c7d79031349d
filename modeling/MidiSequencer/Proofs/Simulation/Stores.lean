import MidiSequencer.Simulation.Store

/-! # What the store leaves alone

Most calls change neither a table of clients or ports nor what has been sent. -/
namespace MidiSequencer

def Command.registers : Command → Bool
  | .setClientName _ => true
  | .createPort .. => true
  | .deletePort _ => true
  | .setPortInfo .. => true
  | _ => false

def Command.record? : Command → Option Record
  | .eventOutput record => some record
  | .eventOutputDirect record => some record
  | _ => none

namespace Store

/-- The tables of clients and ports and what has been sent are the same. -/
structure Leaves (s t : Store) : Prop where
  clients : t.clients = s.clients
  ports : t.ports = s.ports
  output : t.output = s.output

variable {s t : Store}

theorem leaves_of_countTransfer {blocked : Bool} (h : s.countTransfer = (blocked, t)) :
    s.Leaves t := by
  cases h
  exact ⟨rfl, rfl, rfl⟩

variable (s)

theorem takeInput_leaves : s.Leaves s.takeInput.2 := by
  unfold takeInput
  split
  · next t ht => exact leaves_of_countTransfer ht
  · next t ht =>
    have counted : s.Leaves t := leaves_of_countTransfer ht
    split
    · exact counted
    · exact ⟨counted.clients, counted.ports, counted.output⟩

theorem drain_leaves : s.Leaves s.drain.2 := by
  unfold drain
  split
  · next t ht => exact leaves_of_countTransfer ht
  · next t ht => exact leaves_of_countTransfer ht

theorem freeQueue_leaves (queue : Int) : s.Leaves (s.freeQueue queue).2 := by
  unfold freeQueue
  split <;> exact ⟨rfl, rfl, rfl⟩

theorem updateQueue_leaves (queue : Int) (f : QueueRecord → QueueRecord) :
    s.Leaves (s.updateQueue queue f).2 := by
  unfold updateQueue
  split <;> exact ⟨rfl, rfl, rfl⟩

theorem subscribe_leaves (sub : Subscription) : s.Leaves (s.subscribe sub).2 := by
  unfold subscribe
  split <;> exact ⟨rfl, rfl, rfl⟩

theorem unsubscribe_leaves (sub : Subscription) : s.Leaves (s.unsubscribe sub).2 := by
  unfold unsubscribe
  split <;> exact ⟨rfl, rfl, rfl⟩

theorem command_leaves {q : Command} (hr : q.registers = false) (hq : q.record? = none) :
    s.Leaves (s.command q).2 := by
  cases q with
  | setClientName name => cases hr
  | createPort name capability portType => cases hr
  | deletePort port => cases hr
  | setPortInfo port info => cases hr
  | eventOutput record => cases hq
  | eventOutputDirect record => cases hq
  | drainOutput => exact s.drain_leaves
  | freeQueue queue => exact s.freeQueue_leaves queue
  | setQueueTempo queue tempo resolution => exact s.updateQueue_leaves queue _
  | controlQueue queue eventType value => exact s.updateQueue_leaves queue _
  | subscribe sub => exact s.subscribe_leaves sub
  | unsubscribe sub => exact s.unsubscribe_leaves sub
  | _ => exact ⟨rfl, rfl, rfl⟩

theorem output_of_registers {q : Command} (hr : q.registers = true) :
    (s.command q).2.output = s.output := by
  cases q with
  | setClientName name =>
    simp only [command, setClientName]
    split <;> rfl
  | createPort name capability portType => rfl
  | deletePort port =>
    simp only [command, deletePort]
    split <;> rfl
  | setPortInfo port info =>
    simp only [command, setPortInfo]
    split <;> rfl
  | _ => cases hr

theorem send_output (record : Record) : (s.send record).2.output =
    s.output ++ if 0 ≤ (s.send record).1 then [record.decode] else [] := by
  unfold send
  split
  · next t ht => simp [(leaves_of_countTransfer ht).output, Status.wouldBlock]
  · next t ht => simp [(leaves_of_countTransfer ht).output]

theorem send_tables (record : Record) :
    (s.send record).2.clients = s.clients ∧ (s.send record).2.ports = s.ports := by
  unfold send
  split
  · next t ht =>
    have counted : s.Leaves t := leaves_of_countTransfer ht
    exact ⟨counted.clients, counted.ports⟩
  · next t ht =>
    have counted : s.Leaves t := leaves_of_countTransfer ht
    exact ⟨counted.clients, counted.ports⟩

theorem foldl_leaves {α β : Type} {f : Store → α → Store} {g : Store → β}
    (hf : ∀ s a, g (f s a) = g s) (l : List α) : g (l.foldl f s) = g s := by
  induction l generalizing s with
  | nil => rfl
  | cons a l ih => rw [List.foldl_cons, ih, hf]

end Store

end MidiSequencer
