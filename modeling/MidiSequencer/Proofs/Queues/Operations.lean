import MidiSequencer.Proofs.Closing.Objects
import MidiSequencer.Proofs.Queues.Records

/-! # Operations on queues

What an operation does to the queues of the sequencer follows from its outcome and from the queues
that the session holds. The session knows of every open queue that it was made and not freed. -/
namespace MidiSequencer

open Program (Traces)

namespace QueueOperation

def command? (id : Int) : QueueOperation → Option Command
  | .setTempo tempo resolution => some (.setQueueTempo id tempo resolution)
  | .setDefaultTempo => some (.setQueueTempo id 500000 96)
  | .control eventType value => some (.controlQueue id eventType value)
  | .start => some (.controlQueue id (Kind.queue .start).code 0)
  | .stop => some (.controlQueue id (Kind.queue .stop).code 0)
  | .resume => some (.controlQueue id (Kind.queue .continue).code 0)
  | .close => none
  | .drop => none

def queueChange? (id : Int) : QueueOperation → Option QueueChange
  | .setTempo tempo resolution => some (.timed id tempo resolution)
  | .setDefaultTempo => some (.timed id 500000 96)
  | .control .. => some (.controlled id)
  | .start => some (.controlled id)
  | .stop => some (.controlled id)
  | .resume => some (.controlled id)
  | .close => none
  | .drop => none

theorem command?_isSome {o : QueueOperation} (ho : o.isEnding = false) (id : Int) :
    ∃ q, o.command? id = some q := by
  cases o <;> first | exact ⟨_, rfl⟩ | cases ho

theorem queueChange?_command {o : QueueOperation} {id : Int} {q : Command}
    (hq : o.command? id = some q) (status : Status) :
    Call.queueChange? ⟨.command q, status⟩ = if 0 ≤ status then o.queueChange? id else none := by
  cases o <;> cases hq <;> rfl

end QueueOperation

namespace Session

variable {s : Session} {bound : Nat} {operation : Operation} {h : Dialogue.History}
  {result : Option (Outcome × Session)}

theorem perform_queue {slot : Nat} {q : Queue} (held : s.queue? slot = some q)
    (o : QueueOperation) : s.perform bound (.queue slot o) = s.performQueue slot q o := by
  simp only [perform, held]
  rfl

theorem performQueue_open {slot : Nat} {q : Queue} {o : QueueOperation} {c : Command}
    (isOpen : q.isClosed = false) (hc : o.command? q.id = some c) :
    s.performQueue slot q o = s.done (s.connection.execute c) := by
  have checked : q.checkOpen = .ok () := if_neg (by simp [isOpen])
  cases o with
  | close => cases hc
  | drop => cases hc
  | setTempo tempo resolution =>
    cases hc
    simp only [performQueue, Queue.setTempo, checked]
    rfl
  | setDefaultTempo =>
    cases hc
    simp only [performQueue, Queue.setDefaultTempo, Queue.setTempo, checked]
    rfl
  | control eventType value =>
    cases hc
    simp only [performQueue, Queue.control, checked]
    rfl
  | start =>
    cases hc
    simp only [performQueue, Queue.start, Queue.control, checked]
    rfl
  | stop =>
    cases hc
    simp only [performQueue, Queue.stop, Queue.control, checked]
    rfl
  | resume =>
    cases hc
    simp only [performQueue, Queue.resume, Queue.control, checked]
    rfl

def frees (s : Session) (places : List (Option Queue)) : List QueueChange :=
  if s.connection.isOpen then
    places.filterMap fun place => (place.filter fun q => !q.isClosed).map fun q => .freed q.id
  else []

/-- What an operation on the queue in a slot does to it, given its outcome. -/
def slotChanges (s : Session) (slot : Nat) (o : QueueOperation) (outcome : Option Outcome) :
    List QueueChange :=
  if o.isEnding then s.frees [s.queue? slot]
  else match outcome with
    | some (.value _) => ((s.queue? slot).bind fun q => o.queueChange? q.id).toList
    | _ => []

def queueChanges (s : Session) : Operation → Option Outcome → List QueueChange
  | .createQueue _, some (.value (.queueCreated _ q)) => [.made q.id]
  | .queue slot o, outcome => s.slotChanges slot o outcome
  | .close, _ =>
    match s.mode with
    | .blocking => []
    | .suspending => s.frees s.queues
  | _, _ => []

/-! What is given up. -/

def freed? : Deed → Option QueueChange
  | .returns .queue id => some (.freed id)
  | _ => none

theorem queueChanges_of_deeds {c : Call.History}
    (hc : ∀ x ∈ c, x.question.name ∈ ["delete_simple_port", "free_queue", "close"]) :
    Call.queueChanges c = (Call.deeds c).filterMap freed? := by
  unfold Call.queueChanges Call.deeds
  rw [List.filterMap_map]
  refine List.filterMap_congr fun x hx => ?_
  have name := hc x hx
  obtain ⟨c, answer⟩ := x
  cases c with
  | command q =>
    cases q <;> first | rfl | simp [Call.name, Command.name] at name
  | release => rfl
  | _ => simp [Call.name] at name

theorem frees_of_returning (s : Session) (q : Queue) :
    (s.connection.returning .queue q.held).filterMap freed? = s.frees [some q] := by
  unfold Connection.returning frees
  cases hc : s.connection.isOpen <;> cases hq : q.isClosed <;> simp [Queue.held, hq, freed?]

theorem frees_of_clearing (s : Session) (hc : s.connection.isOpen = true) :
    s.holdings.clearing.filterMap freed? = s.frees s.queues := by
  unfold Holdings.clearing frees
  rw [if_pos hc, List.filterMap_append, List.filterMap_map, List.filterMap_map]
  have ports : (s.holdings.shelf .port).dues.filterMap (freed? ∘ .returns .port) = [] :=
    List.filterMap_eq_nil_iff.2 fun _ _ => rfl
  rw [ports, List.nil_append]
  show (Shelf.dues (s.queues.map (·.map Queue.held))).filterMap _ = _
  unfold Shelf.dues
  rw [List.filterMap_map, List.filterMap_filterMap]
  refine List.filterMap_congr fun place _ => ?_
  cases place with
  | none => rfl
  | some q => cases hq : q.isClosed <;> simp [Queue.held, hq, freed?, Option.filter]

theorem frees_of_closing (s : Session) (mode : Mode) :
    (s.holdings.closing mode).filterMap freed? =
      match mode with
      | .blocking => []
      | .suspending => s.frees s.queues := by
  cases hc : s.connection.isOpen with
  | false =>
    have nothing : s.frees s.queues = [] := if_neg (by simp [hc])
    rw [s.holdings.closing_of_closed hc, nothing]
    cases mode <;> rfl
  | true =>
    cases mode with
    | blocking =>
      rw [s.holdings.closing_blocking hc]
      rfl
    | suspending =>
      rw [s.holdings.closing_suspending hc, List.filterMap_append, s.frees_of_clearing hc]
      exact List.append_nil _

/-! What each operation does to the queues. -/

theorem queueChanges_createQueue {name : Option String}
    (ht : Traces (s.createQueue name) h result) :
    Call.queueChanges (Dialogue.calls h) =
      s.queueChanges (.createQueue name) (result.map Prod.fst) := by
  have ordered : Action.Orders (.allocQueue name) (fun id => ({ id } : Queue))
      (s.connection.createQueue name) := by
    refine Action.orders_checked fun x hx => ?_
    have same : x = name := by
      cases name with
      | none => exact (Except.ok.inj hx).symm
      | some n =>
        change (checkName n).map some = .ok x at hx
        unfold checkName at hx
        split at hx
        · cases hx
        · exact (Except.ok.inj hx).symm
    subst same
    exact (Action.orders_command s.connection _).return _
  obtain ⟨h₁, r, h₂, rfl, ht₁, ht₂⟩ := Program.traces_bind_of_ends ordered.ends ht
  rcases ordered h₁ _ ht₁ with ⟨e, he, fails⟩ | ⟨id, positive, hr, one⟩
  · cases he
    obtain ⟨rfl, rfl⟩ := Program.traces_done_iff.1 ht₂
    rw [List.append_nil]
    refine List.filterMap_eq_nil_iff.2 fun x hx => ?_
    obtain ⟨status, rfl, negative⟩ := fails x hx
    exact if_neg (Int.not_le.2 negative)
  · cases hr
    obtain ⟨rfl, rfl⟩ := Program.traces_done_iff.1 ht₂
    rw [List.append_nil, one, Call.queueChanges_singleton]
    exact congrArg Option.toList (if_pos positive)

theorem queueChanges_queue {slot : Nat} {o : QueueOperation}
    (ht : Traces (s.perform bound (.queue slot o)) h result) :
    Call.queueChanges (Dialogue.calls h) =
      s.slotChanges slot o (result.map Prod.fst) := by
  cases held : s.queue? slot with
  | none =>
    have performed : s.perform bound (.queue slot o) = .done (.noSuchSlot, s) := by
      simp only [perform, held]
      rfl
    rw [performed] at ht
    obtain ⟨rfl, rfl⟩ := Program.traces_done_iff.1 ht
    have nothing : s.frees [none] = [] := by
      unfold frees
      split <;> rfl
    unfold slotChanges
    rw [held, nothing]
    split <;> rfl
  | some q =>
    have named := (s.perform_heeds bound (.queue slot o)).names ht
    rw [perform_queue held] at ht
    have ends (does : Dialogue.Does (s.performQueue slot q o)
        (s.connection.returning .queue q.held) fun _ => True) (ho : o = .close ∨ o = .drop) :
        Call.queueChanges (Dialogue.calls h) = s.frees [s.queue? slot] := by
      obtain ⟨deeds, -⟩ := does h _ ht
      rw [queueChanges_of_deeds, deeds, frees_of_returning, held]
      intro x hx
      have name : x.question.name ∈ (Operation.queue slot o).callNames := named x hx
      rcases ho with rfl | rfl <;> exact List.mem_singleton.1 name ▸ .tail _ (.head _)
    cases ho : o.isEnding with
    | true =>
      cases o with
      | close =>
        exact ends (Dialogue.does_return (q.does_close s.connection) fun _ _ => trivial) (.inl rfl)
      | drop =>
        exact ends (Dialogue.does_return (q.does_drop s.connection) fun _ _ => trivial) (.inr rfl)
      | _ => cases ho
    | false =>
      unfold slotChanges
      rw [ho, if_neg Bool.false_ne_true, held, Option.bind_some]
      cases closed : q.isClosed with
      | true =>
        rw [performQueue_closed (.inl closed) ho] at ht
        obtain ⟨rfl, rfl⟩ := Program.traces_done_iff.1 ht
        rfl
      | false =>
        obtain ⟨c, hc⟩ := QueueOperation.command?_isSome ho q.id
        rw [performQueue_open closed hc] at ht
        rcases traces_execute ht with ⟨-, calls, rfl⟩ | ⟨-, status, calls, rfl⟩
        · rw [calls]
          rfl
        · rw [calls, Call.queueChanges_singleton, QueueOperation.queueChange?_command hc]
          unfold Outcome.ofStatus
          by_cases failed : status < 0
          · rw [if_neg (Int.not_le.2 failed), if_pos failed]
            rfl
          · rw [if_pos (Int.not_lt.1 failed), if_neg failed]
            rfl

theorem perform_queueChanges (ht : Traces (s.perform bound operation) h result) :
    Call.queueChanges (Dialogue.calls h) = s.queueChanges operation (result.map Prod.fst) := by
  have named := (s.perform_heeds bound operation).names ht
  have other (hn : ∀ name ∈ ["alloc_queue", "free_queue", "set_queue_tempo", "control_queue"],
      name ∉ operation.callNames) : Call.queueChanges (Dialogue.calls h) = [] :=
    moved_of_names (fun x change hx => Call.name_of_queueChange? hx) named hn
  cases operation with
  | createQueue name => exact queueChanges_createQueue ht
  | queue slot o => exact queueChanges_queue ht
  | close =>
    change Traces (s.close >>= fun s' => Program.done (.value .unit, s')) h result at ht
    obtain ⟨h₁, s', h₂, rfl, ht₁, ht₂⟩ := Program.traces_bind_of_ends s.does_close.ends ht
    obtain ⟨rfl, rfl⟩ := Program.traces_done_iff.1 ht₂
    obtain ⟨deeds, -⟩ := s.does_close h₁ _ ht₁
    rw [List.append_nil] at named ⊢
    rw [queueChanges_of_deeds named, deeds, frees_of_closing]
    rfl
  | port slot o =>
    refine other ?_
    cases o <;> simp [Operation.callNames, PortOperation.callNames]
  | _ => exact other (by simp [Operation.callNames])

theorem finish_queueChanges {o : Option Session} (ht : Traces s.finish h o) :
    Call.queueChanges (Dialogue.calls h) = s.frees s.queues := by
  obtain ⟨deeds, -⟩ := s.does_finish h o ht
  rw [queueChanges_of_deeds (finish_names ht), deeds, frees_of_closing]

end Session

end MidiSequencer
