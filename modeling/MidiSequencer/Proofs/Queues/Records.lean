import MidiSequencer.Proofs.Simulation.Moments

/-! # Records of queues

What the calls of a client mean for the queues that a sequencer in memory keeps. The record of a
queue follows from the changes of this queue alone, in their order; those of other queues do not
count. -/
namespace MidiSequencer

inductive QueueChange where
  | made (id : Int)
  | timed (id : Int) (tempo : UInt32) (resolution : Int)
  | controlled (id : Int)
  | freed (id : Int)
  deriving DecidableEq

namespace QueueChange

def about : QueueChange → Int
  | made id => id
  | timed id _ _ => id
  | controlled id => id
  | freed id => id

def made? : QueueChange → Option Int
  | made id => some id
  | _ => none

def timing? : QueueChange → Option (UInt32 × Int)
  | timed _ tempo resolution => some (tempo, resolution)
  | _ => none

def isControl : QueueChange → Bool
  | controlled _ => true
  | _ => false

variable (id : Int)

def own (changes : List QueueChange) : List QueueChange :=
  changes.filter (·.about == id)

/-- Tempo and resolution are those that were set last, and the controls are counted. -/
def summary (changes : List QueueChange) : QueueRecord :=
  let timing := (((own id changes).filterMap timing?).getLast?).getD (0, 0)
  { id, tempo := timing.1, resolution := timing.2, controls := (own id changes).countP isControl }

/-- The record of a queue, which is there until it is freed. -/
def record? (changes : List QueueChange) : Option QueueRecord :=
  if .made id ∈ own id changes ∧ .freed id ∉ own id changes then some (summary id changes) else none

variable {id} {changes : List QueueChange}

theorem mem_own {c : QueueChange} (h : c.about = id) : c ∈ own id changes ↔ c ∈ changes := by
  simp [own, h]

theorem record?_own : record? id (own id changes) = record? id changes := by
  have same : own id (own id changes) = own id changes := by
    unfold own
    rw [List.filter_filter]
    exact List.filter_congr fun c _ => Bool.and_self _
  unfold record? summary
  rw [same]

theorem own_concat (c : QueueChange) :
    own id (changes ++ [c]) = own id changes ++ if c.about = id then [c] else [] := by
  unfold own
  rw [List.filter_append]
  by_cases h : c.about = id <;> simp [h]

theorem record?_other {c : QueueChange} (h : c.about ≠ id) :
    record? id (changes ++ [c]) = record? id changes := by
  unfold record? summary
  rw [own_concat, if_neg h, List.append_nil]

theorem own_eq_nil (fresh : ∀ c ∈ changes, c.about ≠ id) : own id changes = [] := by
  refine List.filter_eq_nil_iff.2 fun c member => ?_
  simpa using fresh c member

theorem record?_unknown (fresh : ∀ c ∈ changes, c.about ≠ id) : record? id changes = none := by
  unfold record?
  rw [own_eq_nil fresh]
  exact if_neg fun h => List.not_mem_nil h.1

theorem record?_made (fresh : ∀ c ∈ changes, c.about ≠ id) :
    record? id (changes ++ [made id]) = some { id } := by
  have only : own id (changes ++ [made id]) = [made id] := by
    rw [own_concat, own_eq_nil fresh]
    exact if_pos rfl
  unfold record? summary
  rw [only]
  simp [timing?, isControl]

theorem record?_changed {c : QueueChange} {q : QueueRecord} (about : c.about = id)
    (kept : c ≠ .freed id) (there : record? id changes = some q) :
    record? id (changes ++ [c]) = some (summary id (changes ++ [c])) := by
  have present : .made id ∈ own id changes ∧ .freed id ∉ own id changes := by
    by_contra absent
    unfold record? at there
    rw [if_neg absent] at there
    cases there
  refine if_pos ?_
  rw [own_concat, if_pos about]
  refine ⟨List.mem_append_left _ present.1, ?_⟩
  simpa [present.2] using Ne.symm kept

theorem summary_of_record? {q : QueueRecord} (there : record? id changes = some q) :
    q = summary id changes := by
  unfold record? at there
  split at there
  · exact (Option.some.inj there).symm
  · cases there

theorem record?_timed {q : QueueRecord} (there : record? id changes = some q) (tempo : UInt32)
    (resolution : Int) : record? id (changes ++ [timed id tempo resolution]) =
      some { q with tempo, resolution } := by
  have about : (timed id tempo resolution).about = id := rfl
  rw [record?_changed about (by simp) there, summary_of_record? there]
  unfold summary
  rw [own_concat, if_pos about]
  simp [timing?, isControl]

theorem record?_controlled {q : QueueRecord} (there : record? id changes = some q) :
    record? id (changes ++ [controlled id]) = some { q with controls := q.controls + 1 } := by
  have about : (controlled id).about = id := rfl
  rw [record?_changed about (by simp) there, summary_of_record? there]
  unfold summary
  rw [own_concat, if_pos about]
  simp [timing?, isControl]

theorem record?_freed : record? id (changes ++ [freed id]) = none := by
  refine if_neg fun h => h.2 ?_
  rw [own_concat]
  exact List.mem_append_right _ (by simp [about])

end QueueChange

namespace Call

/-- What a call does to a queue. One that frees a queue says that there is no such queue, whatever
it answers. -/
def queueChange? : Program.Exchange Call Call.Answer → Option QueueChange
  | ⟨.command (.allocQueue _), id⟩ => if 0 ≤ id then some (.made id) else none
  | ⟨.command (.setQueueTempo id tempo resolution), status⟩ =>
    if 0 ≤ status then some (.timed id tempo resolution) else none
  | ⟨.command (.controlQueue id _ _), status⟩ => if 0 ≤ status then some (.controlled id) else none
  | ⟨.command (.freeQueue id), _⟩ => some (.freed id)
  | _ => none

def queueChanges (h : History) : List QueueChange :=
  h.filterMap queueChange?

@[simp] theorem queueChanges_append (h t : History) :
    queueChanges (h ++ t) = queueChanges h ++ queueChanges t :=
  List.filterMap_append

theorem name_of_queueChange? {x : Program.Exchange Call Call.Answer} {change : QueueChange}
    (h : queueChange? x = some change) :
    x.question.name ∈ ["alloc_queue", "free_queue", "set_queue_tempo", "control_queue"] := by
  obtain ⟨c, answer⟩ := x
  cases c with
  | command q =>
    cases q with
    | allocQueue name => exact .head _
    | freeQueue id => exact .tail _ (.head _)
    | setQueueTempo id tempo resolution => exact .tail _ (.tail _ (.head _))
    | controlQueue id eventType value => exact .tail _ (.tail _ (.tail _ (.head _)))
    | _ => cases h
  | _ => cases h

theorem queueChanges_singleton (x : Program.Exchange Call Call.Answer) :
    queueChanges [x] = (queueChange? x).toList := by
  unfold queueChanges
  cases hx : queueChange? x <;> simp [hx]

end Call

def Command.queues : Command → Bool
  | .allocQueue _ => true
  | .freeQueue _ => true
  | .setQueueTempo .. => true
  | .controlQueue .. => true
  | _ => false

theorem Call.queueChange?_of_queues {q : Command} (hq : q.queues = false) (status : Status) :
    queueChange? ⟨.command q, status⟩ = none := by
  cases q <;> first | rfl | cases hq

namespace Store

open QueueChange

variable (s : Store)

def queue? (id : Int) : Option QueueRecord :=
  s.queues.find? (·.id == id)

def SameQueues (s t : Store) : Prop :=
  t.queues = s.queues ∧ t.nextQueue = s.nextQueue

theorem takeInput_sameQueues : s.SameQueues s.takeInput.2 := by
  simp only [takeInput, countTransfer]
  cases s.blocks != 0 with
  | true => exact ⟨rfl, rfl⟩
  | false => cases s.input <;> exact ⟨rfl, rfl⟩

theorem command_sameQueues {q : Command} (hq : q.queues = false) :
    s.SameQueues (s.command q).2 := by
  cases q with
  | allocQueue name => cases hq
  | freeQueue queue => cases hq
  | setQueueTempo queue tempo resolution => cases hq
  | controlQueue queue eventType value => cases hq
  | setClientName name =>
    simp only [command, setClientName]
    split <;> exact ⟨rfl, rfl⟩
  | deletePort port =>
    simp only [command, deletePort]
    split <;> exact ⟨rfl, rfl⟩
  | setPortInfo port info =>
    simp only [command, setPortInfo]
    split <;> exact ⟨rfl, rfl⟩
  | subscribe sub =>
    simp only [command, subscribe]
    split <;> exact ⟨rfl, rfl⟩
  | unsubscribe sub =>
    simp only [command, unsubscribe]
    split <;> exact ⟨rfl, rfl⟩
  | eventOutput record =>
    simp only [command, send, countTransfer]
    cases s.blocks != 0 <;> exact ⟨rfl, rfl⟩
  | eventOutputDirect record =>
    simp only [command, send, countTransfer]
    cases s.blocks != 0 <;> exact ⟨rfl, rfl⟩
  | drainOutput =>
    simp only [command, drain, countTransfer]
    cases s.blocks != 0 <;> exact ⟨rfl, rfl⟩
  | _ => exact ⟨rfl, rfl⟩

theorem updateQueue_cases (id : Int) (f : QueueRecord → QueueRecord) :
    (∃ queues, updateFirst (·.id == id) f s.queues = some queues ∧
      s.updateQueue id f = (0, { s with queues })) ∨
    (s.queue? id = none ∧ s.updateQueue id f = (Status.invalid, s)) := by
  unfold updateQueue
  split
  · next queues h => exact .inl ⟨queues, h, rfl⟩
  · next h => exact .inr ⟨updateFirst_eq_none_iff.1 h, rfl⟩

theorem freeQueue_cases (id : Int) :
    (∃ queues, removeAll (·.id == id) s.queues = some queues ∧
      s.freeQueue id = (0, { s with queues })) ∨
    (s.queue? id = none ∧ s.freeQueue id = (Status.invalid, s)) := by
  unfold freeQueue
  split
  · next queues h => exact .inl ⟨queues, h, rfl⟩
  · next h => exact .inr ⟨removeAll_eq_none_iff.1 h, rfl⟩

theorem nextQueue_answer (c : Call) : s.nextQueue ≤ (s.answer c).2.nextQueue := by
  cases c with
  | command q =>
    show s.nextQueue ≤ (s.command q).2.nextQueue
    cases hq : q.queues with
    | false => exact Int.le_of_eq (s.command_sameQueues hq).2.symm
    | true =>
      cases q with
      | allocQueue name => exact Int.le_of_lt (Int.lt_succ _)
      | freeQueue id =>
        rcases s.freeQueue_cases id with ⟨queues, -, worked⟩ | ⟨-, failed⟩
        · simp only [command, worked, Int.le_refl]
        · simp only [command, failed, Int.le_refl]
      | setQueueTempo id tempo resolution =>
        rcases s.updateQueue_cases id fun q => { q with tempo, resolution } with
          ⟨queues, -, worked⟩ | ⟨-, failed⟩
        · simp only [command, worked, Int.le_refl]
        · simp only [command, failed, Int.le_refl]
      | controlQueue id eventType value =>
        rcases s.updateQueue_cases id fun q => { q with controls := q.controls + 1 } with
          ⟨queues, -, worked⟩ | ⟨-, failed⟩
        · simp only [command, worked, Int.le_refl]
        · simp only [command, failed, Int.le_refl]
      | _ => cases hq
  | eventInput => exact Int.le_of_eq s.takeInput_sameQueues.2.symm
  | _ => exact Int.le_refl _

theorem made_answer {c : Call} {id : Int}
    (h : Call.queueChange? ⟨c, (s.answer c).1⟩ = some (.made id)) : id = s.nextQueue := by
  cases c with
  | command q =>
    cases q with
    | allocQueue name =>
      change (if 0 ≤ s.nextQueue then some (QueueChange.made s.nextQueue) else none) = _ at h
      split at h
      · cases h
        rfl
      · cases h
    | setQueueTempo queue tempo resolution =>
      simp [Call.queueChange?] at h
    | controlQueue queue eventType value =>
      simp [Call.queueChange?] at h
    | _ => cases h
  | _ => cases h

/-- The records that come of the changes since there was no queue. Numbers only ascend, so no queue
has one that another has had. -/
structure Records (changes : List QueueChange) (s : Store) : Prop where
  record (id : Int) : s.queue? id = record? id changes
  distinct : (s.queues.map QueueRecord.id).Nodup
  nonneg : 0 ≤ s.nextQueue
  known {c : QueueChange} : c ∈ changes → c.about < s.nextQueue
  ascending : (changes.filterMap made?).Pairwise (· < ·)

variable {s} {t : Store} {changes : List QueueChange}

theorem records_nil (nothing : s.queues = []) (nonneg : 0 ≤ s.nextQueue) : s.Records [] where
  record id := by
    rw [queue?, nothing]
    rfl
  distinct := by
    rw [nothing]
    exact List.nodup_nil
  nonneg := nonneg
  known h := by cases h
  ascending := .nil

namespace Records

theorem same (h : s.Records changes) (hs : s.SameQueues t) : t.Records changes where
  record id := by
    rw [queue?, hs.1]
    exact h.record id
  distinct := hs.1 ▸ h.distinct
  nonneg := hs.2 ▸ h.nonneg
  known hc := hs.2 ▸ h.known hc
  ascending := h.ascending

theorem fresh (h : s.Records changes) : ∀ c ∈ changes, c.about ≠ s.nextQueue :=
  fun _ hc => Int.ne_of_lt (h.known hc)

theorem alloc (h : s.Records changes) :
    s.allocQueue.2.Records (changes ++ [.made s.nextQueue]) where
  record id := by
    have missing : s.queue? s.nextQueue = none := (h.record _).trans (record?_unknown h.fresh)
    let q : QueueRecord := { id := s.nextQueue }
    show (s.queues ++ [q]).find? (fun x => x.id == id) = _
    rw [List.find?_append]
    by_cases here : id = s.nextQueue
    · subst here
      rw [record?_made h.fresh, show s.queues.find? _ = none from missing]
      simp [q]
    · rw [record?_other (fun same => here same.symm), ← h.record id, queue?]
      simp [q, Ne.symm here]
  distinct := by
    have missing : s.queue? s.nextQueue = none := (h.record _).trans (record?_unknown h.fresh)
    let q : QueueRecord := { id := s.nextQueue }
    show ((s.queues ++ [q]).map QueueRecord.id).Nodup
    rw [List.map_append]
    refine List.nodup_append_comm.1 (List.nodup_cons.2 ⟨fun there => ?_, h.distinct⟩)
    obtain ⟨old, member, same⟩ := List.mem_map.1 there
    exact List.find?_eq_none.1 missing old member (beq_iff_eq.2 same)
  nonneg := Int.le_add_one h.nonneg
  known hc := by
    rcases List.mem_append.1 hc with old | new
    · exact Int.lt_trans (h.known old) (Int.lt_succ _)
    · rw [List.mem_singleton.1 new]
      exact Int.lt_succ _
  ascending := by
    rw [List.filterMap_append]
    refine List.pairwise_append.2 ⟨h.ascending, List.pairwise_singleton _ _, ?_⟩
    intro id member id' new
    obtain rfl := List.mem_singleton.1 new
    obtain ⟨c, hc, told⟩ := List.mem_filterMap.1 member
    have below := h.known hc
    cases c <;> cases told
    exact below

theorem update (h : s.Records changes) {id : Int} {f : QueueRecord → QueueRecord}
    {c : QueueChange} {queues : List QueueRecord} (about : c.about = id) (made : c.made? = none)
    (keeps : ∀ q, (f q).id = q.id)
    (updated : updateFirst (·.id == id) f s.queues = some queues)
    (changed : ∀ q, record? id changes = some q → record? id (changes ++ [c]) = some (f q)) :
    Records (changes ++ [c]) { s with queues } where
  record id' := by
    show queues.find? (·.id == id') = _
    by_cases here : id' = id
    · subst here
      have there : ∃ q, s.queue? id' = some q := by
        refine Option.ne_none_iff_exists'.1 fun missing => ?_
        rw [updateFirst_eq_none_iff.2 missing] at updated
        cases updated
      obtain ⟨q, hq⟩ := there
      rw [find?_updateFirst (fun q hq => by rwa [keeps]) updated, changed q (h.record id' ▸ hq)]
      exact congrArg (Option.map f) hq
    · rw [record?_other (fun same => here (same.symm.trans about)), ← h.record id']
      refine find?_updateFirst_other (fun q hq => ?_) updated
      have same : q.id = id := eq_of_beq hq
      simp [keeps, same, Ne.symm here]
  distinct := by
    have ids : queues.map QueueRecord.id = s.queues.map QueueRecord.id :=
      map_updateFirst (fun q _ => keeps q) updated
    exact ids ▸ h.distinct
  nonneg := h.nonneg
  known hc := by
    rcases List.mem_append.1 hc with old | new
    · exact h.known old
    · rw [List.mem_singleton.1 new, about]
      have there : record? id changes ≠ none := by
        rw [← h.record, queue?, Ne, ← updateFirst_eq_none_iff, updated]
        exact Option.some_ne_none _
      by_contra far
      refine there (record?_unknown fun c hc same => far ?_)
      exact same ▸ h.known hc
  ascending := by
    rw [List.filterMap_append]
    simpa [made] using h.ascending

theorem free (h : s.Records changes) {id : Int} (below : id < s.nextQueue) :
    (s.freeQueue id).2.Records (changes ++ [.freed id]) := by
  have other {id' : Int} (here : id' ≠ id) :
      record? id' (changes ++ [.freed id]) = s.queue? id' := by
    rw [record?_other (fun same => here same.symm), h.record]
  have known {c : QueueChange} (hc : c ∈ changes ++ [QueueChange.freed id]) :
      c.about < s.nextQueue := by
    rcases List.mem_append.1 hc with old | new
    · exact h.known old
    · rw [List.mem_singleton.1 new]
      exact below
  have ascending : ((changes ++ [QueueChange.freed id]).filterMap made?).Pairwise (· < ·) := by
    have made : (changes ++ [QueueChange.freed id]).filterMap made? = changes.filterMap made? := by
      rw [List.filterMap_append]
      exact List.append_nil _
    rw [made]
    exact h.ascending
  rcases s.freeQueue_cases id with ⟨queues, removed, worked⟩ | ⟨missing, failed⟩
  · rw [worked]
    refine ⟨fun id' => ?_, ?_, h.nonneg, known, ascending⟩
    · show queues.find? (·.id == id') = _
      by_cases here : id' = id
      · subst here
        rw [record?_freed, find?_removeAll removed]
      · rw [other here]
        refine find?_removeAll_other (fun q hq => ?_) removed
        have same : q.id = id := eq_of_beq hq
        simp [same, Ne.symm here]
    · obtain ⟨rfl, -⟩ := removeAll_eq removed
      exact h.distinct.sublist (List.filter_sublist.map _)
  · rw [failed]
    refine ⟨fun id' => ?_, h.distinct, h.nonneg, known, ascending⟩
    by_cases here : id' = id
    · subst here
      rw [record?_freed, missing]
    · exact (other here).symm

theorem updateQueue (h : s.Records changes) (id : Int) (f : QueueRecord → QueueRecord)
    {q : Command} {c : QueueChange} (about : c.about = id) (made : c.made? = none)
    (keeps : ∀ q, (f q).id = q.id) (does : s.command q = s.updateQueue id f)
    (told : ∀ status : Status, Call.queueChange? ⟨.command q, status⟩ =
      if 0 ≤ status then some c else none)
    (changed : ∀ q, record? id changes = some q → record? id (changes ++ [c]) = some (f q)) :
    (s.command q).2.Records
      (changes ++ Call.queueChanges [⟨.command q, (s.command q).1⟩]) := by
  rw [Call.queueChanges_singleton, told, does]
  rcases s.updateQueue_cases id f with ⟨queues, updated, worked⟩ | ⟨-, failed⟩
  · rw [worked]
    exact h.update about made keeps updated changed
  · have negative : ¬ (0 : Status) ≤ Status.invalid := by decide
    rw [failed, if_neg negative]
    simpa using h

theorem command (h : s.Records changes) (q : Command)
    (known : ∀ id, q = .freeQueue id → id < s.nextQueue) :
    (s.command q).2.Records
      (changes ++ Call.queueChanges [⟨.command q, (s.command q).1⟩]) := by
  cases hq : q.queues with
  | false =>
    rw [Call.queueChanges_singleton, Call.queueChange?_of_queues hq]
    simpa using h.same (s.command_sameQueues hq)
  | true =>
    cases q with
    | allocQueue name =>
      have one : Call.queueChange? ⟨.command (.allocQueue name), s.nextQueue⟩ =
          some (.made s.nextQueue) := if_pos h.nonneg
      show s.allocQueue.2.Records
        (changes ++ Call.queueChanges [⟨.command (.allocQueue name), s.nextQueue⟩])
      rw [Call.queueChanges_singleton, one]
      exact h.alloc
    | freeQueue id => exact h.free (known id rfl)
    | setQueueTempo id tempo resolution =>
      let f : QueueRecord → QueueRecord := fun q => { q with tempo, resolution }
      have does : s.command (.setQueueTempo id tempo resolution) = s.updateQueue id f := rfl
      exact h.updateQueue id f rfl rfl (fun _ => rfl) does (fun _ => rfl)
        fun _ there => record?_timed there tempo resolution
    | controlQueue id eventType value =>
      let f : QueueRecord → QueueRecord := fun q => { q with controls := q.controls + 1 }
      have does : s.command (.controlQueue id eventType value) = s.updateQueue id f := rfl
      exact h.updateQueue id f rfl rfl (fun _ => rfl) does (fun _ => rfl)
        fun _ there => record?_controlled there
    | _ => cases hq

theorem answer (h : s.Records changes) (c : Call)
    (known : ∀ id, c = .command (.freeQueue id) → id < s.nextQueue) :
    (s.answer c).2.Records (changes ++ Call.queueChanges [⟨c, (s.answer c).1⟩]) := by
  cases c with
  | command q => exact h.command q fun id same => known id (congrArg Call.command same)
  | eventInput =>
    rw [Call.queueChanges_singleton]
    exact (List.append_nil changes).symm ▸ h.same s.takeInput_sameQueues
  | _ =>
    rw [Call.queueChanges_singleton]
    exact (List.append_nil changes).symm ▸ h.same ⟨rfl, rfl⟩

end Records

end Store

namespace Rehearsal

variable {r t : Rehearsal} {h : Call.History} {changes : List QueueChange}

/-- At every moment the records are what the calls so far have made of them. By induction on the
passage; only queues that are known are freed. -/
theorem passes_records (p : simulator.Passes Change.Unforced r h t)
    (script : r.script.Forces fun _ _ => False) (hr : r.store.Records changes)
    (known : ∀ id, .freed id ∈ Call.queueChanges h → id < r.store.nextQueue) :
    t.store.Records (changes ++ Call.queueChanges h) ∧ r.store.nextQueue ≤ t.store.nextQueue ∧
      ∀ id, .made id ∈ Call.queueChanges h → r.store.nextQueue ≤ id := by
  induction p with
  | refl =>
    exact ⟨by simpa [Call.queueChanges] using hr, Int.le_refl _, fun id made => by cases made⟩
  | @call h t c before ih =>
    rw [Call.queueChanges_append] at known ⊢
    obtain ⟨records, later, fresh⟩ := ih fun id there => known id (List.mem_append_left _ there)
    obtain ⟨answered, store, -⟩ := answer_unforced (passes_forces before script) c
    have freed : ∀ id, c = .command (.freeQueue id) → id < t.store.nextQueue := by
      rintro id rfl
      refine Int.lt_of_lt_of_le (known id (List.mem_append_right _ ?_)) later
      exact List.mem_singleton.2 rfl
    have next := records.answer c freed
    show (t.answer c).2.store.Records (changes ++ (_ ++ Call.queueChanges [⟨c, (t.answer c).1⟩])) ∧
      r.store.nextQueue ≤ (t.answer c).2.store.nextQueue ∧ ∀ id, .made id ∈
        Call.queueChanges h ++ Call.queueChanges [⟨c, (t.answer c).1⟩] → r.store.nextQueue ≤ id
    rw [answered, store, ← List.append_assoc]
    refine ⟨next, Int.le_trans later (t.store.nextQueue_answer c), fun id made => ?_⟩
    rcases List.mem_append.1 made with old | new
    · exact fresh id old
    · rw [Call.queueChanges_singleton, Option.mem_toList] at new
      exact Store.made_answer t.store new ▸ later
  | @change h t x allowed before ih =>
    obtain ⟨records, later, fresh⟩ := ih known
    obtain ⟨-, queues, nextQueue⟩ := change_tables x t
    exact ⟨records.same ⟨queues, nextQueue⟩, Int.le_trans later (Int.le_of_eq nextQueue.symm),
      fresh⟩

theorem passes_queues (p : simulator.Passes Change.Unforced r [] t) :
    t.store.queues = r.store.queues := by
  generalize hh : ([] : Call.History) = h at p
  induction p with
  | refl => rfl
  | call c before ih => simp at hh
  | change x allowed before ih => exact (change_tables x _).2.1.trans (ih hh)

end Rehearsal

end MidiSequencer
