import MidiSequencer.Proofs.Opening.Names
import MidiSequencer.Proofs.Queues.Operations

/-! # Queues of a run

Over every run where nothing is forced the record of a queue follows from the operations on this
queue alone. It is there from the making of the queue until the queue is closed or dropped, and its
number is not used again. -/
namespace MidiSequencer

open Program (Traces)
open Rehearsal QueueChange

/-! Queues are made and freed by deeds. -/

namespace Call

theorem made_iff (x : Program.Exchange Call Call.Answer) (id : Int) :
    queueChange? x = some (.made id) ↔ Deed.ofCall x.question x.answer = .makes .queue id := by
  obtain ⟨c, answer⟩ := x
  cases c with
  | command q =>
    cases q with
    | allocQueue name =>
      change Int at answer
      by_cases failed : answer < 0
      · simp [queueChange?, Deed.ofCall, failed, Int.not_le.2 failed]
      · simp [queueChange?, Deed.ofCall, failed, Int.not_lt.1 failed]
    | _ => simp [queueChange?, Deed.ofCall, ite_eq_iff]
  | _ => simp [queueChange?, Deed.ofCall]

theorem freed_iff (x : Program.Exchange Call Call.Answer) (id : Int) :
    queueChange? x = some (.freed id) ↔ Deed.ofCall x.question x.answer = .returns .queue id := by
  obtain ⟨c, answer⟩ := x
  cases c with
  | command q => cases q <;> simp [queueChange?, Deed.ofCall, ite_eq_iff]
  | _ => simp [queueChange?, Deed.ofCall]

variable {c : History} {id : Int}

theorem made_mem_iff : .made id ∈ queueChanges c ↔ .makes .queue id ∈ deeds c := by
  simp only [queueChanges, deeds, List.mem_filterMap, List.mem_map, made_iff]

theorem freed_mem_iff : .freed id ∈ queueChanges c ↔ .returns .queue id ∈ deeds c := by
  simp only [queueChanges, deeds, List.mem_filterMap, List.mem_map, freed_iff]

end Call

/-! What a session knows of its queues. -/

/-- The queues on a shelf are different ones that were made, and the open ones were not freed. -/
structure Shelf.Owns (shelf : Shelf) (changes : List QueueChange) : Prop where
  made {k : Nat} {x : Held} : shelf[k]? = some (some x) → .made x.id ∈ changes
  kept {k : Nat} {x : Held} : shelf[k]? = some (some x) → x.isClosed = false →
    .freed x.id ∉ changes
  distinct {i j : Nat} {x y : Held} : shelf[i]? = some (some x) → shelf[j]? = some (some y) →
    x.id = y.id → i = j

namespace Shelf.Owns

variable {shelf : Shelf} {changes new : List QueueChange}

theorem grow (h : shelf.Owns changes) (none_freed : ∀ id, .freed id ∉ new) :
    shelf.Owns (changes ++ new) where
  made held := List.mem_append_left _ (h.made held)
  kept held isOpen freed := by
    rcases List.mem_append.1 freed with old | fresh
    · exact h.kept held isOpen old
    · exact none_freed _ fresh
  distinct := h.distinct

theorem make (h : shelf.Owns changes) {id : Int} (fresh : .made id ∉ changes)
    (unfreed : .freed id ∉ changes) (made : .made id ∈ new) (none_freed : ∀ id, .freed id ∉ new) :
    Shelf.Owns (shelf ++ [some ⟨id, false⟩]) (changes ++ new) := by
  have place {k : Nat} {x : Held} (held : (shelf ++ [some ⟨id, false⟩])[k]? = some (some x)) :
      shelf[k]? = some (some x) ∨ (k = shelf.length ∧ x = ⟨id, false⟩) := by
    rcases Nat.lt_trichotomy k shelf.length with inside | last | past
    · rw [List.getElem?_append_left inside] at held
      exact .inl held
    · rw [last, List.getElem?_concat_length, Option.some.injEq, Option.some.injEq] at held
      exact .inr ⟨last, held.symm⟩
    · rw [List.getElem?_eq_none (by simp; omega)] at held
      cases held
  have other {k : Nat} {x : Held} (held : shelf[k]? = some (some x)) : x.id ≠ id :=
    fun same => fresh (same ▸ h.made held)
  constructor
  · intro k x held
    rcases place held with old | ⟨-, rfl⟩
    · exact List.mem_append_left _ (h.made old)
    · exact List.mem_append_right _ made
  · intro k x held isOpen freed
    rcases List.mem_append.1 freed with before | now
    · rcases place held with old | ⟨-, rfl⟩
      · exact h.kept old isOpen before
      · exact unfreed before
    · exact none_freed _ now
  · intro i j x y hi hj same
    rcases place hi with hi | ⟨rfl, rfl⟩ <;> rcases place hj with hj | ⟨rfl, rfl⟩
    · exact h.distinct hi hj same
    · exact absurd same (other hi)
    · exact absurd same.symm (other hj)
    · rfl

theorem finish (h : shelf.Owns changes) {k : Nat} {x : Held} {place : Option Held}
    (held : shelf[k]? = some (some x))
    (left : place = none ∨ place = some { x with isClosed := true })
    (freed : ∀ id, .freed id ∈ new → id = x.id) :
    Shelf.Owns (shelf.set k place) (changes ++ new) := by
  have still {j : Nat} {y : Held} (h : (shelf.set k place)[j]? = some (some y)) :
      ∃ y', shelf[j]? = some (some y') ∧ y'.id = y.id ∧ (y.isClosed = false → y = y' ∧ j ≠ k) := by
    by_cases here : j = k
    · rw [here, List.getElem?_set_self (List.getElem?_eq_some_iff.1 held).1] at h
      rcases left with rfl | rfl
      · cases h
      · cases h
        exact ⟨x, here ▸ held, rfl, nofun⟩
    · rw [List.getElem?_set_ne (Ne.symm here)] at h
      exact ⟨y, h, rfl, fun _ => ⟨rfl, here⟩⟩
  constructor
  · intro j y hy
    obtain ⟨y', old, id, -⟩ := still hy
    exact List.mem_append_left _ (id ▸ h.made old)
  · intro j y hy isOpen gone
    obtain ⟨y', old, -, same⟩ := still hy
    obtain ⟨rfl, elsewhere⟩ := same isOpen
    rcases List.mem_append.1 gone with before | now
    · exact h.kept old isOpen before
    · exact elsewhere (h.distinct old held (freed _ now))
  · intro i j y z hy hz same
    obtain ⟨_, hy, id, -⟩ := still hy
    obtain ⟨_, hz, id', -⟩ := still hz
    exact h.distinct hy hz (id.trans (same.trans id'.symm))

theorem dues (h : shelf.Owns changes) {id : Int} (due : id ∈ shelf.dues) : .made id ∈ changes := by
  obtain ⟨place, member, told⟩ := List.mem_filterMap.1 due
  obtain ⟨x, rfl, open_⟩ := Option.bind_eq_some_iff.1 told
  obtain ⟨k, held⟩ := List.mem_iff_getElem?.1 member
  cases closed : x.isClosed with
  | true => simp [closed] at open_
  | false =>
    have same : x.id = id := by simpa [closed] using open_
    exact same ▸ h.made held

end Shelf.Owns

namespace Holdings

variable {H H' : Holdings} {mode : Mode} {operation : Operation} {deeds : List Deed}
  {outcome : Option Outcome} {changes new : List QueueChange}

theorem made_of_closing (ho : H.isOpen = true → (H.shelf .queue).Owns changes) {id : Int}
    (h : .returns .queue id ∈ H.closing mode) : .made id ∈ changes := by
  unfold closing at h
  split at h
  · next isOpen =>
    cases mode with
    | blocking => simp at h
    | suspending =>
      have due : id ∈ (H.shelf .queue).dues := by simpa [clearing] using h
      exact (ho isOpen).dues due
  · cases h

theorem made_of_turn (ho : H.isOpen = true → (H.shelf .queue).Owns changes)
    (turn : Turn mode operation H deeds outcome H') {id : Int} (h : .returns .queue id ∈ deeds) :
    .made id ∈ changes := by
  cases turn with
  | idle others closed made inert => cases others _ h
  | make r n isOpen made others inert => simp at h
  | finish r k x place ends open_ held left done made =>
    split at h
    · next isOpen =>
      rw [Bool.and_eq_true] at isOpen
      cases List.mem_singleton.1 h
      exact (ho isOpen.1).made held
    · cases h
  | close isClose closed => exact made_of_closing ho h

theorem owns_of_turn (ho : H.isOpen = true → (H.shelf .queue).Owns changes)
    (turn : Turn mode operation H deeds outcome H')
    (hm : ∀ id, .made id ∈ new ↔ .makes .queue id ∈ deeds)
    (hf : ∀ id, .freed id ∈ new ↔ .returns .queue id ∈ deeds)
    (fresh : ∀ id, .made id ∈ new → .made id ∉ changes ∧ .freed id ∉ changes) :
    H'.isOpen = true → (H'.shelf .queue).Owns (changes ++ new) := by
  cases turn with
  | idle others closed made inert =>
    intro isOpen
    refine (ho isOpen).grow fun id freed => ?_
    cases others _ ((hf id).1 freed)
  | make r n isOpen made others inert =>
    intro _
    have none_freed (id : Int) : .freed id ∉ new := by simp [hf]
    cases r with
    | port => exact (ho isOpen).grow none_freed
    | queue =>
      have there : .made n ∈ new := (hm n).2 (.head _)
      exact (ho isOpen).make (fresh n there).1 (fresh n there).2 there none_freed
  | finish r k x place ends open_ held left done made =>
    intro isOpen
    have before := ho isOpen
    have given (id : Int) (freed : .freed id ∈ new) : r = .queue ∧ id = x.id := by
      have returned := (hf id).1 freed
      split at returned
      · cases List.mem_singleton.1 returned
        exact ⟨rfl, rfl⟩
      · cases returned
    cases r with
    | port => exact before.grow fun id freed => by cases (given id freed).1
    | queue => exact before.finish held left fun id freed => (given id freed).2
  | close isClose closed =>
    intro isOpen
    rw [closed] at isOpen
    cases isOpen

end Holdings

def Step.queueChanges {χ : Type} (step : Step χ) (s : Session) (outcome : Option Outcome) :
    List QueueChange :=
  match step with
  | .perform operation => s.queueChanges operation outcome
  | .performDuring operation _ =>
    match s.mode with
    | .blocking => []
    | .suspending => s.queueChanges operation outcome
  | .happen _ => []

namespace Step

variable {χ : Type} {step : Step χ} {s : Session} {outcome : Option Outcome}

theorem queueChanges_of_performs {operation : Operation} (h : step.Performs s operation) :
    step.queueChanges s outcome = s.queueChanges operation outcome := by
  cases step with
  | perform o =>
    cases h
    rfl
  | performDuring o incidents =>
    obtain ⟨mode, rfl⟩ := h
    simp only [queueChanges, mode]
  | happen i => cases h

theorem queueChanges_of_idle (h : ∀ operation, ¬ step.Performs s operation) :
    step.queueChanges s outcome = [] := by
  cases step with
  | perform o => exact absurd rfl (h o)
  | performDuring o incidents =>
    unfold queueChanges
    cases hm : s.mode with
    | blocking => rfl
    | suspending => exact absurd ⟨hm, rfl⟩ (h o)
  | happen i => rfl

end Step

namespace Play

def queueChanges {σ χ : Type} (m : Simulator σ χ) (bound : Nat) (p : Play σ χ) :
    List (Step χ) → List QueueChange
  | [] => []
  | step :: steps => step.queueChanges p.session (p.step m bound step).1 ++
      (p.step m bound step).2.queueChanges m bound steps

/-- The records come of the changes, and the session knows which queues it holds. -/
structure Counts (changes : List QueueChange) (p : Play Rehearsal Change) : Prop where
  script : p.scene.sequencer.script.Forces fun _ _ => False
  awaited : p.scene.Within Change.Unforced
  records : p.scene.sequencer.store.Records changes
  owns : p.session.connection.isOpen = true → (p.session.holdings.shelf .queue).Owns changes

variable {changes : List QueueChange}

theorem Counts.step_passes {p : Play Rehearsal Change} (hp : p.Counts changes) (bound : Nat)
    {step : Step Change} (hs : step.Within Change.Unforced) :
    let r := p.step simulator bound step
    ∃ calls, simulator.Passes Change.Unforced p.scene.sequencer calls r.2.scene.sequencer ∧
      Call.queueChanges calls = step.queueChanges p.session r.1 ∧
      (∀ id, .freed id ∈ Call.queueChanges calls → .made id ∈ changes) ∧
      ((∀ id, .made id ∈ Call.queueChanges calls → .made id ∉ changes ∧ .freed id ∉ changes) →
        r.2.session.connection.isOpen = true →
        (r.2.session.holdings.shelf .queue).Owns (changes ++ Call.queueChanges calls)) := by
  obtain ⟨does, -⟩ := step_does simulator bound hp.awaited hs
  cases does with
  | performs operation h result asked ht outcome session passes =>
    obtain ⟨turn, -⟩ := p.session.perform_takes bound operation h result ht
    refine ⟨_, passes, ?_, fun id freed => ?_, fun fresh => ?_⟩
    · rw [Step.queueChanges_of_performs asked, outcome]
      exact Session.perform_queueChanges ht
    · exact Holdings.made_of_turn hp.owns turn (Call.freed_mem_iff.1 freed)
    · rw [session]
      exact Holdings.owns_of_turn hp.owns turn (fun _ => Call.made_mem_iff)
        (fun _ => Call.freed_mem_iff) fresh
  | idles asked outcome session passes =>
    have nothing (id : Int) : .freed id ∉ Call.queueChanges [] := List.not_mem_nil
    refine ⟨[], passes, (Step.queueChanges_of_idle asked).symm,
      fun id freed => absurd freed (nothing id), fun _ isOpen => ?_⟩
    rw [session] at isOpen ⊢
    exact (hp.owns isOpen).grow nothing

theorem Counts.throughout {p : Play Rehearsal Change} (hp : p.Counts changes)
    {calls : Call.History} {t : Rehearsal}
    (passes : simulator.Passes Change.Unforced p.scene.sequencer calls t)
    (known : ∀ id, .freed id ∈ Call.queueChanges calls → .made id ∈ changes) :
    simulator.Throughout Change.Unforced p.scene.sequencer calls t fun before u =>
      u.store.Records (changes ++ Call.queueChanges before) where
  passes := passes
  moments before u first reached := by
    refine (passes_records reached hp.script hp.records fun id freed => ?_).1
    exact hp.records.known (known id ((first.filterMap _).subset freed))

theorem Counts.step {p : Play Rehearsal Change} (hp : p.Counts changes) (bound : Nat)
    {step : Step Change} (hs : step.Within Change.Unforced) :
    (p.step simulator bound step).2.Counts
      (changes ++ step.queueChanges p.session (p.step simulator bound step).1) := by
  obtain ⟨-, awaited⟩ := step_does simulator bound hp.awaited hs
  obtain ⟨calls, passes, said, known, owns⟩ := hp.step_passes bound hs
  obtain ⟨records, -, later⟩ := passes_records passes hp.script hp.records fun id freed =>
    hp.records.known (known id freed)
  have fresh (id : Int) (made : .made id ∈ Call.queueChanges calls) :
      .made id ∉ changes ∧ .freed id ∉ changes := by
    have above := Int.not_lt.2 (later id made)
    exact ⟨fun old => above (hp.records.known old), fun old => above (hp.records.known old)⟩
  rw [← said]
  exact ⟨passes_forces passes hp.script, awaited, records, owns fresh⟩

theorem Counts.run {p : Play Rehearsal Change} (hp : p.Counts changes) (bound : Nat)
    {steps : List (Step Change)} (hs : ∀ step ∈ steps, step.Within Change.Unforced) :
    (p.run simulator bound steps).2.Counts (changes ++ p.queueChanges simulator bound steps) := by
  induction steps generalizing p changes with
  | nil =>
    rw [queueChanges, List.append_nil]
    exact hp
  | cons step steps ih =>
    obtain ⟨first, later⟩ := List.forall_mem_cons.1 hs
    have next := ih (hp.step bound first) later
    rw [List.append_assoc] at next
    exact next

/-- What holds at any point of a run in which the queues were changed so. -/
structure QueuesKept (changes : List QueueChange) (bound : Nat) (p : Play Rehearsal Change) :
    Prop where
  /-- No two queues have ever had the same number, and each record is what the changes say. -/
  now : p.scene.sequencer.store.Records changes
  /-- The record of a queue is as if there had never been another. -/
  alone (id : Int) : p.scene.sequencer.store.queue? id = record? id (own id changes)
  moments {step : Step Change} : step.Within Change.Unforced →
    let r := p.step simulator bound step
    ∃ calls, Call.queueChanges calls = step.queueChanges p.session r.1 ∧
      simulator.Throughout Change.Unforced p.scene.sequencer calls r.2.scene.sequencer
        fun before u => u.store.Records (changes ++ Call.queueChanges before)
  ended : ∃ calls, Call.queueChanges calls = p.session.frees p.session.queues ∧
    simulator.Throughout Change.Unforced p.scene.sequencer calls (p.finish simulator).sequencer
      fun before u => u.store.Records (changes ++ Call.queueChanges before)
  /-- While the connection is open, so long as a queue is open it has its record. -/
  present {slot : Nat} {q : Queue} : p.session.queue? slot = some q →
    p.session.connection.isOpen = true → q.isClosed = false →
    p.scene.sequencer.store.queue? q.id = some (summary q.id changes)
  absent {step : Step Change} {slot : Nat} {q : Queue} {o : QueueOperation} :
    step.Within Change.Unforced → step.Performs p.session (.queue slot o) → o.isEnding = true →
    p.session.queue? slot = some q → p.session.connection.isOpen = true → q.isClosed = false →
    (p.step simulator bound step).2.scene.sequencer.store.queue? q.id = none
  distinct {i j : Nat} {q q' : Queue} : p.session.connection.isOpen = true →
    p.session.queue? i = some q → p.session.queue? j = some q' → q.id = q'.id → i = j
  /-- A closed queue refuses every operation without a call. -/
  closed {step : Step Change} {slot : Nat} {q : Queue} {o : QueueOperation} :
    step.Within Change.Unforced → step.Performs p.session (.queue slot o) →
    p.session.queue? slot = some q → q.isClosed = true →
    let r := p.step simulator bound step
    r.1 = some (if o.isEnding then .value .unit else .error .closed) ∧
      simulator.Throughout Change.Unforced p.scene.sequencer [] r.2.scene.sequencer
        fun _ u => u.store.queues = p.scene.sequencer.store.queues

theorem Counts.kept {p : Play Rehearsal Change} (hp : p.Counts changes) (bound : Nat) :
    p.QueuesKept changes bound where
  now := hp.records
  alone id := by rw [hp.records.record, record?_own]
  moments hs := by
    obtain ⟨calls, passes, said, known, -⟩ := hp.step_passes bound hs
    exact ⟨calls, said, hp.throughout passes known⟩
  ended := by
    obtain ⟨h, o, ht, passes⟩ := finish_passes simulator hp.awaited
    refine ⟨_, Session.finish_queueChanges ht, hp.throughout passes fun id freed => ?_⟩
    obtain ⟨deeds, -⟩ := p.session.does_finish h o ht
    rw [Call.freed_mem_iff, deeds] at freed
    exact Holdings.made_of_closing hp.owns freed
  present {slot q} held isOpen open_ := by
    have owns := hp.owns isOpen
    have there := Session.held_queue held
    rw [hp.records.record]
    refine if_pos ⟨?_, ?_⟩
    · exact (mem_own rfl).2 (owns.made there)
    · exact fun freed => owns.kept there open_ (List.mem_of_mem_filter freed)
  absent {step slot q o} hs asked ending held isOpen open_ := by
    have next := (hp.step bound hs).records
    rw [Step.queueChanges_of_performs asked] at next
    have freed : p.session.slotChanges slot o (p.step simulator bound step).1 = [.freed q.id] := by
      unfold Session.slotChanges Session.frees
      simp [ending, held, isOpen, open_, Option.filter]
    change Store.Records (changes ++ p.session.slotChanges slot o _) _ at next
    rw [freed] at next
    rw [next.record, record?_freed]
  distinct isOpen hi hj same :=
    (hp.owns isOpen).distinct (Session.held_queue hi) (Session.held_queue hj) same
  closed {step slot q o} hs asked held closed := by
    obtain ⟨h, result, ht, outcome, session, passes⟩ :=
      step_performs simulator bound hp.awaited hs asked
    rw [Session.perform_queue held] at ht
    have nothing : Dialogue.calls h = [] ∧ result.map Prod.fst =
        some (if o.isEnding then .value .unit else .error .closed) := by
      cases ending : o.isEnding with
      | true =>
        obtain ⟨s', performed⟩ := Session.performQueue_ending (.inl closed) ending
        rw [performed] at ht
        obtain ⟨rfl, rfl⟩ := Program.traces_done_iff.1 ht
        exact ⟨rfl, rfl⟩
      | false =>
        rw [Session.performQueue_closed (.inl closed) ending] at ht
        obtain ⟨rfl, rfl⟩ := Program.traces_done_iff.1 ht
        exact ⟨rfl, rfl⟩
    rw [nothing.1] at passes
    refine ⟨outcome.trans nothing.2, passes, fun before u first reached => ?_⟩
    rw [List.prefix_nil.1 first] at reached
    exact passes_queues reached

end Play

theorem Plan.begins_empty {χ : Type} {plan : Plan χ} {h : Dialogue.History} {session : Session}
    (ht : Traces plan.begin.run h (some (.ok session))) : session.queues = [] := by
  unfold begin at ht
  rw [ExceptT.run_bind] at ht
  obtain ⟨h₁, x, h₂, -, -, ht⟩ := Program.traces_bind_of_ends plan.opening.ends ht
  cases x with
  | error e => cases (Program.traces_done_iff.1 ht).2
  | ok c =>
    obtain ⟨-, hs⟩ := Program.traces_done_iff.1 ht
    unfold Session.start at hs
    split at hs
    · cases hs
    · cases hs
      rfl

theorem Plan.start_counts {plan : Plan Change} {s : Scene Rehearsal Change}
    {p : Play Rehearsal Change} (script : s.sequencer.script.Forces fun _ _ => False)
    (awaited : s.Within Change.Unforced) (nothing : s.sequencer.store.queues = [])
    (nonneg : 0 ≤ s.sequencer.store.nextQueue) (hp : plan.start simulator s = .ok p) :
    p.Counts [] := by
  obtain ⟨h, ht, passes, within⟩ := Dialogue.run_passes simulator plan.begin.run awaited
  have silent : Call.queueChanges (Dialogue.calls h) = [] :=
    Session.moved_of_names (fun x change hx => Call.name_of_queueChange? hx) (Plan.begin_names ht)
      (by simp [Opening.callNames])
  have records := (passes_records passes script (Store.records_nil nothing nonneg) (by
    rw [silent]
    exact fun id freed => absurd freed List.not_mem_nil)).1
  rw [silent] at records
  unfold Plan.start at hp
  rcases hr : plan.begin.run.run (Scene.answer simulator) s with ⟨_ | e | session, scene⟩
  · rw [hr] at hp
    cases hp
  · rw [hr] at hp
    cases hp
  · rw [hr] at hp ht passes within records
    cases hp
    have empty (k : Nat) (x : Held) : (session.holdings.shelf .queue)[k]? ≠ some (some x) := by
      change (session.queues.map _)[k]? ≠ _
      simp [Plan.begins_empty ht]
    exact ⟨passes_forces passes script, within, records, fun _ =>
      ⟨fun held => absurd held (empty _ _), fun held => absurd held (empty _ _),
        fun held => absurd held (empty _ _)⟩⟩

/-- Over every run where nothing is forced queues do not interfere. -/
theorem queues_kept (bound : Nat) {plan : Plan Change} {s : Scene Rehearsal Change}
    {p : Play Rehearsal Change} (script : s.sequencer.script.Forces fun _ _ => False)
    (awaited : s.Within Change.Unforced) (nothing : s.sequencer.store.queues = [])
    (nonneg : 0 ≤ s.sequencer.store.nextQueue) (hp : plan.start simulator s = .ok p)
    (hq : ∀ step ∈ plan.steps, step.Within Change.Unforced) :
    (p.run simulator bound plan.steps).2.QueuesKept
      (p.queueChanges simulator bound plan.steps) bound :=
  ((Plan.start_counts script awaited nothing nonneg hp).run bound hq).kept bound

/-- One queue is closed and then refuses a tempo, while the other keeps its own. -/
theorem queues_kept_beside :
    let plan : Plan Change :=
      { opening := .adopt "me" .duplex false
        mode := .blocking
        steps := [.perform (.createQueue none), .perform (.createQueue none),
          .perform (.queue 1 .setDefaultTempo), .perform (.queue 0 .start),
          .perform (.queue 1 .start), .perform (.queue 0 .close),
          .perform (.queue 0 (.setTempo 1 1))] }
    let s : Scene Rehearsal Change := { sequencer := { store := Store.initial 128 } }
    ∃ p : Play Rehearsal Change, s.sequencer.script.Forces (fun _ _ => False) ∧
      s.Within Change.Unforced ∧ s.sequencer.store.queues = [] ∧ 0 ≤ s.sequencer.store.nextQueue ∧
      plan.start simulator s = .ok p ∧ (∀ step ∈ plan.steps, step.Within Change.Unforced) ∧
      let q := (p.run simulator 1 plan.steps).2
      let changes := p.queueChanges simulator 1 plan.steps
      changes = [.made 0, .made 1, .timed 1 500000 96, .controlled 0, .controlled 1, .freed 0] ∧
      q.QueuesKept changes 1 ∧ q.scene.sequencer.store.queue? 0 = none ∧
      q.scene.sequencer.store.queue? 1 =
        some { id := 1, tempo := 500000, resolution := 96, controls := 1 } := by
  intro plan s
  have script : s.sequencer.script.Forces fun _ _ => False := by simp [s, Script.Forces]
  have awaited : s.Within Change.Unforced := fun i member => by cases member
  have nonneg : 0 ≤ s.sequencer.store.nextQueue := Int.le_refl _
  have unforced : ∀ step ∈ plan.steps, step.Within Change.Unforced := by simp [plan, Step.Within]
  have changed : (plan.start simulator s).toOption.map
      (fun p => p.queueChanges simulator 1 plan.steps) =
      some [.made 0, .made 1, .timed 1 500000 96, .controlled 0, .controlled 1, .freed 0] := by
    simp only [plan, s]
    rfl
  cases started : plan.start simulator s with
  | error t =>
    rw [started] at changed
    cases changed
  | ok p =>
    rw [started] at changed
    have changes : p.queueChanges simulator 1 plan.steps = _ := Option.some.inj changed
    have kept := queues_kept 1 script awaited rfl nonneg started unforced
    have records := kept.now
    rw [changes] at records
    refine ⟨p, script, awaited, rfl, nonneg, rfl, unforced, changes, kept, ?_, ?_⟩
    · rw [records.record]
      decide
    · rw [records.record]
      decide

end MidiSequencer
