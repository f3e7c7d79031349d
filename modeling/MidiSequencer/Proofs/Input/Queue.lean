import MidiSequencer.Proofs.Simulation.Scripts
import MidiSequencer.Proofs.Simulation.Stores
import MidiSequencer.Proofs.Transfers

/-! # The queue for input

What happens to the events that wait for input in a sequencer in memory: a call for input takes the
first one, others come in behind, and only two calls discard what waits. -/
namespace MidiSequencer

namespace Call

def taken? : Program.Exchange Call Call.Answer → Option Event
  | ⟨.eventInput, answer⟩ => answer.toOption
  | _ => none

/-- The events that the calls of a history took, oldest first. -/
def taken (h : History) : List Event :=
  h.filterMap taken?

@[simp] theorem taken_append (h t : History) : taken (h ++ t) = taken h ++ taken t :=
  List.filterMap_append

theorem taken?_forced (c : Call) (status : Status) : taken? ⟨c, c.forced status⟩ = none := by
  cases c <;> rfl

theorem name_of_taken? {x : Program.Exchange Call Call.Answer} {e : Event}
    (h : taken? x = some e) : x.question.name ∈ ["event_input"] := by
  obtain ⟨c, answer⟩ := x
  cases c with
  | eventInput => exact .head _
  | _ => cases h

def isDiscard : Call → Bool
  | .command .dropInput => true
  | .command .dropInputBuffer => true
  | _ => false

theorem name_of_isDiscard {c : Call} (hc : c.isDiscard = true) :
    c.name ∈ ["drop_input", "drop_input_buffer"] := by
  cases c with
  | command q =>
    cases q with
    | dropInput => exact .head _
    | dropInputBuffer => exact .tail _ (.head _)
    | _ => cases hc
  | _ => cases hc

end Call

namespace Store

/-- `t` has the queue for input that `s` has behind some events, and nothing was discarded. -/
structure Takes (s t : Store) (events : List Event) : Prop where
  input : s.input = events ++ t.input
  dropped : t.droppedInput = s.droppedInput

variable {s t u : Store}

theorem Takes.refl : s.Takes s [] := ⟨rfl, rfl⟩

theorem Takes.trans {first later : List Event} (hs : s.Takes t first) (ht : t.Takes u later) :
    s.Takes u (first ++ later) where
  input := by rw [hs.input, ht.input, List.append_assoc]
  dropped := ht.dropped.trans hs.dropped

theorem takes_of_countTransfer {blocked : Bool} (h : s.countTransfer = (blocked, t)) :
    s.Takes t [] := by
  cases h
  exact ⟨rfl, rfl⟩

variable (s)

def withArrivals (events : List Event) : Store :=
  { s with input := s.input ++ events }

@[simp] theorem withArrivals_nil : s.withArrivals [] = s := by
  simp [withArrivals]

theorem withArrivals_append (events events' : List Event) :
    s.withArrivals (events ++ events') = (s.withArrivals events).withArrivals events' := by
  simp [withArrivals]

variable {s} in
theorem Takes.withArrivals {taken : List Event} (h : s.Takes t taken) (events : List Event) :
    (s.withArrivals events).Takes (t.withArrivals events) taken where
  input := by rw [Store.withArrivals, h.input, List.append_assoc, Store.withArrivals]
  dropped := h.dropped

theorem takeInput_takes :
    s.Takes s.takeInput.2 (Call.taken [⟨.eventInput, s.takeInput.1⟩]) := by
  unfold takeInput
  split
  · next t ht => exact takes_of_countTransfer ht
  · next t ht =>
    have counted := takes_of_countTransfer ht
    split
    · exact counted
    · next e rest filled => exact ⟨counted.input.trans filled, counted.dropped⟩

theorem send_takes (record : Record) : s.Takes (s.send record).2 [] := by
  unfold send
  split
  · next t ht => exact takes_of_countTransfer ht
  · next t ht =>
    have counted := takes_of_countTransfer ht
    exact ⟨counted.input, counted.dropped⟩

theorem drain_takes : s.Takes s.drain.2 [] := by
  unfold drain
  split
  · next t ht => exact takes_of_countTransfer ht
  · next t ht => exact takes_of_countTransfer ht

theorem updateQueue_takes (queue : Int) (f : QueueRecord → QueueRecord) :
    s.Takes (s.updateQueue queue f).2 [] := by
  unfold updateQueue
  split <;> exact ⟨rfl, rfl⟩

theorem command_takes {q : Command} (hq : (Call.command q).isDiscard = false) :
    s.Takes (s.command q).2 [] := by
  cases q with
  | dropInput => cases hq
  | dropInputBuffer => cases hq
  | setClientName name =>
    simp only [command, setClientName]
    split <;> exact ⟨rfl, rfl⟩
  | deletePort port =>
    simp only [command, deletePort]
    split <;> exact ⟨rfl, rfl⟩
  | freeQueue queue =>
    simp only [command, freeQueue]
    split <;> exact ⟨rfl, rfl⟩
  | setQueueTempo queue tempo resolution => exact s.updateQueue_takes queue _
  | controlQueue queue eventType value => exact s.updateQueue_takes queue _
  | eventOutput record => exact s.send_takes record
  | eventOutputDirect record => exact s.send_takes record
  | drainOutput => exact s.drain_takes
  | setPortInfo port info =>
    simp only [command, setPortInfo]
    split <;> exact ⟨rfl, rfl⟩
  | subscribe sub =>
    simp only [command, subscribe]
    split <;> exact ⟨rfl, rfl⟩
  | unsubscribe sub =>
    simp only [command, unsubscribe]
    split <;> exact ⟨rfl, rfl⟩
  | _ => exact ⟨rfl, rfl⟩

theorem answer_takes {c : Call} (hc : c.isDiscard = false) :
    s.Takes (s.answer c).2 (Call.taken [⟨c, (s.answer c).1⟩]) := by
  cases c with
  | command q => exact s.command_takes hc
  | eventInput => exact s.takeInput_takes
  | _ => exact ⟨rfl, rfl⟩

end Store

namespace Rehearsal

def Change.arrivals : Change → List Event
  | .pushInput events => events
  | _ => []

def arrivals (incidents : List (Incident Change)) : List Event :=
  incidents.flatMap fun
    | .wake => []
    | .change x => x.arrivals

theorem arrivals_append (incidents incidents' : List (Incident Change)) :
    arrivals (incidents ++ incidents') = arrivals incidents ++ arrivals incidents' :=
  List.flatMap_append

variable (r : Rehearsal)

theorem change_takes (x : Change) :
    (r.store.withArrivals x.arrivals).Takes (r.change x).store [] := by
  cases x with
  | pushInput events => exact .refl
  | setup clients ports =>
    have added {β : Type} (g : Store → β) (hc : ∀ s c, g (Store.addClient s c) = g s)
        (hp : ∀ s p, g (Store.addPort s p) = g s) :
        g (r.change (.setup clients ports)).store = g r.store :=
      (Store.foldl_leaves _ hp ports).trans (Store.foldl_leaves _ hc clients)
    rw [show Change.arrivals (.setup clients ports) = [] from rfl, Store.withArrivals_nil]
    exact ⟨(added Store.input (fun _ _ => rfl) fun _ _ => rfl).symm,
      added Store.droppedInput (fun _ _ => rfl) fun _ _ => rfl⟩
  | _ => exact ⟨List.append_nil _, rfl⟩

theorem answer_takes {c : Call} (hc : c.isDiscard = false) :
    r.store.Takes (r.answer c).2.store (Call.taken [⟨c, (r.answer c).1⟩]) := by
  obtain ⟨answers, -⟩ := Rehearsal.answers r.script.forces_true c
  cases answers with
  | forced status allowed answered kept =>
    have nothing : Call.taken [⟨c, c.forced status⟩] = [] := by
      simp [Call.taken, Call.taken?_forced]
    rw [answered, kept, nothing]
    exact .refl
  | worked answered kept =>
    rw [answered, kept]
    exact r.store.answer_takes hc

end Rehearsal

namespace Scene

open Rehearsal

/-- The store as it is when everything that is awaited has come in. -/
def settled (s : Scene Rehearsal Change) : Store :=
  s.sequencer.store.withArrivals (arrivals s.awaited)

variable (s : Scene Rehearsal Change)

theorem settled_eq (hs : s.awaited = []) : s.settled = s.sequencer.store := by
  simp [settled, hs, arrivals]

theorem occur_takes (i : Incident Change) :
    (s.sequencer.store.withArrivals (arrivals [i])).Takes (s.occur simulator i).sequencer.store
      [] := by
  cases i with
  | wake => exact ⟨List.append_nil _, rfl⟩
  | change x =>
    rw [show arrivals [.change x] = x.arrivals from List.append_nil _]
    exact s.sequencer.change_takes x

theorem foldl_occur_takes (incidents : List (Incident Change)) :
    (s.sequencer.store.withArrivals (arrivals incidents)).Takes
      (incidents.foldl (Scene.occur simulator) s).sequencer.store [] := by
  induction incidents generalizing s with
  | nil => exact ⟨List.append_nil _, rfl⟩
  | cons i incidents ih =>
    have first := (s.occur_takes i).withArrivals (arrivals incidents)
    rw [← Store.withArrivals_append, ← arrivals_append] at first
    exact first.trans (ih _)

theorem occurAwaited_takes : (s.occurAwaited simulator).awaited = [] ∧
    s.settled.Takes (s.occurAwaited simulator).sequencer.store [] := by
  unfold Scene.occurAwaited
  split
  · next empty =>
    have none_awaited : s.awaited = [] := List.isEmpty_iff.1 empty
    rw [s.settled_eq none_awaited]
    exact ⟨none_awaited, .refl⟩
  · have takes := foldl_occur_takes { s with line := s.line.look, awaited := [] } s.awaited
    refine ⟨?_, takes⟩
    rw [Scene.foldl_occur_awaited]

theorem yield_takes (interest : Interest) :
    s.settled.Takes (s.yield simulator interest).settled [] := by
  unfold Scene.yield
  split
  · exact .refl
  · obtain ⟨awaited, takes⟩ := s.occurAwaited_takes
    rwa [settled_eq _ awaited]

/-- Whatever is asked takes what a call answers; what others do in between is expected before. -/
theorem answer_takes {q : Request} (hq : ∀ c, q = .call c → c.isDiscard = false) :
    s.settled.Takes (Scene.answer simulator q s).2.settled
      (Call.taken (Dialogue.calls [⟨q, (Scene.answer simulator q s).1⟩])) := by
  cases q with
  | call c =>
    have takes := (s.sequencer.answer_takes (hq c rfl)).withArrivals (arrivals s.awaited)
    cases c <;> exact takes
  | suspend interest limit => exact s.yield_takes interest
  | _ =>
    unfold settled
    rw [Scene.sequencer_answer simulator s rfl, Scene.awaited_answer simulator s rfl]
    exact .refl

theorem answer_awaited (hs : s.awaited = []) (q : Request) :
    (Scene.answer simulator q s).2.awaited = [] := by
  cases q with
  | call c => cases c <;> exact hs
  | suspend interest limit =>
    show (s.yield simulator interest).awaited = []
    unfold Scene.yield
    split
    · exact hs
    · exact s.occurAwaited_takes.1
  | _ => rw [Scene.awaited_answer simulator s rfl, hs]

end Scene

/-- A run that discards nothing takes what its calls answer; by induction on the program. -/
theorem Dialogue.run_takes {α : Type} (p : Dialogue α) (s : Scene Rehearsal Rehearsal.Change) :
    ∃ h, Program.Traces p h (p.run (Scene.answer Rehearsal.simulator) s).1 ∧
      ((∀ x ∈ Dialogue.calls h, x.question.isDiscard = false) →
        s.settled.Takes (p.run (Scene.answer Rehearsal.simulator) s).2.settled
          (Call.taken (Dialogue.calls h))) := by
  induction p generalizing s with
  | done a => exact ⟨[], .done a, fun _ => .refl⟩
  | ask q next ih =>
    obtain ⟨h, ht, takes⟩ := ih (Scene.answer Rehearsal.simulator q s).1
      (Scene.answer Rehearsal.simulator q s).2
    refine ⟨⟨q, (Scene.answer Rehearsal.simulator q s).1⟩ :: h, .ask ht, fun gentle => ?_⟩
    rw [← List.singleton_append, Dialogue.calls_append] at gentle ⊢
    rw [Call.taken_append]
    refine Store.Takes.trans (s.answer_takes ?_) (takes fun x hx => ?_)
    · rintro c rfl
      exact gentle ⟨c, _⟩ (List.mem_append_left _ List.mem_cons_self)
    · exact gentle x (List.mem_append_right _ hx)
  | unfinished => exact ⟨[], .unfinished, fun _ => .refl⟩

theorem Dialogue.run_awaited {α : Type} (p : Dialogue α) {s : Scene Rehearsal Rehearsal.Change}
    (hs : s.awaited = []) : (p.run (Scene.answer Rehearsal.simulator) s).2.awaited = [] := by
  induction p generalizing s with
  | done a => exact hs
  | ask q next ih => exact ih _ (s.answer_awaited hs q)
  | unfinished => exact hs

end MidiSequencer
