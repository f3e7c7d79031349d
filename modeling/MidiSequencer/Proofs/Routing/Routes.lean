import Mathlib.Data.List.Nodup
import MidiSequencer.Proofs.Simulation.Moments

/-! # Routes as a set

The subscriptions that a sequencer in memory keeps are told apart by their ends. What a change does
to them depends on the ends alone, so changes of different routes do not meet. -/
namespace MidiSequencer

def Subscription.ends (sub : Subscription) : Address × Address := (sub.sender, sub.dest)

theorem Subscription.sameEnds_eq (a b : Subscription) :
    a.sameEnds b = decide (b.ends = a.ends) := by
  rw [sameEnds, Bool.eq_iff_iff]
  simp only [ends, Bool.and_eq_true, beq_iff_eq, decide_eq_true_eq, Prod.mk.injEq]
  rw [eq_comm, eq_comm (a := a.dest)]

inductive RouteChange where
  | connect (sub : Subscription)
  | disconnect (sub : Subscription)
  deriving DecidableEq

namespace RouteChange

def ends : RouteChange → Address × Address
  | connect sub => sub.ends
  | disconnect sub => sub.ends

def command : RouteChange → Command
  | connect sub => .subscribe sub
  | disconnect sub => .unsubscribe sub

def status (routes : List Subscription) : RouteChange → Status
  | connect sub => if sub.ends ∈ routes.map Subscription.ends then Status.busy else 0
  | disconnect sub => if sub.ends ∈ routes.map Subscription.ends then 0 else Status.notFound

def apply (routes : List Subscription) : RouteChange → List Subscription
  | connect sub =>
    if sub.ends ∈ routes.map Subscription.ends then routes else routes ++ [sub]
  | disconnect sub => routes.filter fun r => r.ends ≠ sub.ends

def applyAll (routes : List Subscription) (changes : List RouteChange) : List Subscription :=
  changes.foldl apply routes

variable {routes : List Subscription} {change : RouteChange} {changes : List RouteChange}

theorem apply_connect (sub : Subscription) : (connect sub).apply routes =
    if sub.ends ∈ routes.map Subscription.ends then routes else routes ++ [sub] := rfl

theorem apply_disconnect (sub : Subscription) :
    (disconnect sub).apply routes = routes.filter fun r => r.ends ≠ sub.ends := rfl

theorem filter_absent {e : Address × Address} (absent : e ∉ routes.map Subscription.ends) :
    (routes.filter fun r => r.ends ≠ e) = routes := by
  refine List.filter_eq_self.2 fun r member => ?_
  rw [decide_eq_true_eq]
  exact fun same => absent (same ▸ List.mem_map_of_mem member)

theorem apply_nodup (h : (routes.map Subscription.ends).Nodup) (change : RouteChange) :
    ((change.apply routes).map Subscription.ends).Nodup := by
  cases change with
  | connect sub =>
    rw [apply_connect]
    split
    · exact h
    · next fresh =>
      rw [List.map_append]
      exact List.nodup_append.2 ⟨h, List.nodup_singleton _, by
        rintro e member _ one rfl
        exact fresh (List.mem_singleton.1 one ▸ member)⟩
  | disconnect sub => exact h.sublist (List.filter_sublist.map _)

theorem applyAll_nodup (h : (routes.map Subscription.ends).Nodup) (changes : List RouteChange) :
    ((applyAll routes changes).map Subscription.ends).Nodup := by
  induction changes generalizing routes with
  | nil => exact h
  | cons change changes ih => exact ih (apply_nodup h change)

theorem apply_of_failed (failed : change.status routes < 0) : change.apply routes = routes := by
  cases change with
  | connect sub =>
    by_cases there : sub.ends ∈ routes.map Subscription.ends
    · exact if_pos there
    · have worked : (connect sub).status routes = 0 := if_neg there
      rw [worked] at failed
      cases failed
  | disconnect sub =>
    by_cases there : sub.ends ∈ routes.map Subscription.ends
    · have worked : (disconnect sub).status routes = 0 := if_pos there
      rw [worked] at failed
      cases failed
    · exact filter_absent there

theorem applyAll_eq_self (h : ∀ change ∈ changes, change.apply routes = routes) :
    applyAll routes changes = routes := by
  induction changes with
  | nil => rfl
  | cons change changes ih =>
    obtain ⟨first, later⟩ := List.forall_mem_cons.1 h
    show applyAll (change.apply routes) changes = routes
    rw [first, ih later]

theorem disconnect_one (h : (routes.map Subscription.ends).Nodup) (sub : Subscription)
    (there : sub.ends ∈ routes.map Subscription.ends) :
    ∃ front r back, routes = front ++ r :: back ∧ r.ends = sub.ends ∧
      (disconnect sub).apply routes = front ++ back := by
  obtain ⟨r, member, same⟩ := List.mem_map.1 there
  obtain ⟨front, back, rfl⟩ := List.append_of_mem member
  refine ⟨front, r, back, rfl, same, ?_⟩
  rw [List.map_append, List.map_cons, List.nodup_middle] at h
  obtain ⟨other, -⟩ := List.nodup_cons.1 h
  have kept : (front ++ back).filter (fun x => x.ends ≠ sub.ends) = front ++ back := by
    apply filter_absent
    rw [List.map_append, ← same]
    exact other
  rw [List.filter_append] at kept
  rw [apply_disconnect, List.filter_append, List.filter_cons_of_neg (by simp [same]), kept]

theorem apply_without {e : Address × Address} (other : change.ends ≠ e) :
    (change.apply routes).filter (fun r => r.ends ≠ e) =
      change.apply (routes.filter fun r => r.ends ≠ e) := by
  cases change with
  | connect sub =>
    have seen : sub.ends ∈ (routes.filter fun r => r.ends ≠ e).map Subscription.ends ↔
        sub.ends ∈ routes.map Subscription.ends := by
      constructor
      · exact fun there => (List.filter_sublist.map _).subset there
      · intro there
        obtain ⟨r, member, same⟩ := List.mem_map.1 there
        refine List.mem_map.2 ⟨r, List.mem_filter.2 ⟨member, ?_⟩, same⟩
        rw [decide_eq_true_eq, same]
        exact other
    rw [apply_connect, apply_connect]
    simp only [seen]
    split
    · rfl
    · have kept : [sub].filter (fun r => r.ends ≠ e) = [sub] := List.filter_cons_of_pos
        (decide_eq_true other)
      rw [List.filter_append, kept]
  | disconnect sub =>
    rw [apply_disconnect, apply_disconnect, List.filter_filter, List.filter_filter]
    exact List.filter_congr fun r _ => Bool.and_comm _ _

theorem applyAll_without {e : Address × Address} (others : ∀ c ∈ changes, c.ends ≠ e) :
    (applyAll routes changes).filter (fun r => r.ends ≠ e) =
      applyAll (routes.filter fun r => r.ends ≠ e) changes := by
  induction changes generalizing routes with
  | nil => rfl
  | cons change changes ih =>
    obtain ⟨first, later⟩ := List.forall_mem_cons.1 others
    show (applyAll (change.apply routes) changes).filter _ = applyAll (change.apply _) changes
    rw [ih later, apply_without first]

theorem mem_applyAll {e : Address × Address} (others : ∀ c ∈ changes, c.ends ≠ e) :
    e ∈ (applyAll routes changes).map Subscription.ends ↔ e ∈ routes.map Subscription.ends := by
  induction changes generalizing routes with
  | nil => rfl
  | cons change changes ih =>
    obtain ⟨first, later⟩ := List.forall_mem_cons.1 others
    refine Iff.trans (ih later) ?_
    cases change with
    | connect sub =>
      rw [apply_connect]
      split
      · rfl
      · rw [List.map_append, List.mem_append, List.map_singleton, List.mem_singleton]
        exact or_iff_left fun same => first same.symm
    | disconnect sub =>
      simp only [apply, List.mem_map, List.mem_filter, decide_eq_true_eq]
      refine exists_congr fun r => ⟨fun ⟨h, same⟩ => ⟨h.1, same⟩, fun ⟨h, same⟩ => ⟨⟨h, ?_⟩, same⟩⟩
      rw [same]
      exact fun equal => first equal.symm

/-- To make a route and give it up behind changes of others is not to have made it. -/
theorem detour {made ended : Subscription} (same : ended.ends = made.ends)
    (fresh : made.ends ∉ routes.map Subscription.ends)
    (others : ∀ c ∈ changes, c.ends ≠ made.ends) :
    (disconnect ended).apply (applyAll ((connect made).apply routes) changes) =
      applyAll routes changes := by
  have added : (connect made).apply routes = routes ++ [made] := if_neg fresh
  rw [apply_disconnect, same, applyAll_without others, added, List.filter_append,
    filter_absent fresh, List.filter_cons_of_neg (by simp), List.filter_nil, List.append_nil]

end RouteChange

/-! What calls make of the routes. -/

namespace Call

def routeChange? : Call → Option RouteChange
  | .command (.subscribe sub) => some (.connect sub)
  | .command (.unsubscribe sub) => some (.disconnect sub)
  | _ => none

/-- The changes of routes that are asked for, whatever is answered. -/
def routeChanges (h : History) : List RouteChange :=
  h.filterMap fun x => routeChange? x.question

theorem name_of_routeChange? {c : Call} {change : RouteChange} (h : c.routeChange? = some change) :
    c.name ∈ ["subscribe_port", "unsubscribe_port"] := by
  cases c with
  | command q =>
    cases q with
    | subscribe sub => exact .head _
    | unsubscribe sub => exact .tail _ (.head _)
    | _ => cases h
  | _ => cases h

end Call

namespace Store

open RouteChange

variable (s : Store)

theorem command_routeChange (change : RouteChange) : s.command change.command =
    (change.status s.subscriptions,
      { s with subscriptions := change.apply s.subscriptions }) := by
  have any (sub : Subscription) : s.subscriptions.any sub.sameEnds = true ↔
      sub.ends ∈ s.subscriptions.map Subscription.ends := by
    simp [Subscription.sameEnds_eq]
  cases change with
  | connect sub =>
    show s.subscribe sub = _
    by_cases there : sub.ends ∈ s.subscriptions.map Subscription.ends
    · rw [subscribe, if_pos ((any sub).2 there), apply_connect, if_pos there]
      exact congrArg (·, s) (if_pos there).symm
    · rw [subscribe, if_neg fun h => there ((any sub).1 h), apply_connect, if_neg there]
      exact congrArg (·, _) (if_neg there).symm
  | disconnect sub =>
    have kept : (s.subscriptions.filter fun a => !sub.sameEnds a) =
        (disconnect sub).apply s.subscriptions :=
      List.filter_congr fun r _ => by simp [Subscription.sameEnds_eq]
    show s.unsubscribe sub = _
    by_cases there : sub.ends ∈ s.subscriptions.map Subscription.ends
    · have removed : removeAll sub.sameEnds s.subscriptions =
          some ((disconnect sub).apply s.subscriptions) := by
        rw [removeAll, if_pos ((any sub).2 there), kept]
      have worked : (disconnect sub).status s.subscriptions = 0 := if_pos there
      rw [unsubscribe, removed, worked]
    · have nothing : removeAll sub.sameEnds s.subscriptions = none :=
        if_neg fun h => there ((any sub).1 h)
      have failed : (disconnect sub).status s.subscriptions = Status.notFound := if_neg there
      rw [unsubscribe, nothing, failed, apply_disconnect, filter_absent there]

theorem takeInput_subscriptions : s.takeInput.2.subscriptions = s.subscriptions := by
  simp only [takeInput, countTransfer]
  cases s.blocks != 0 with
  | true => rfl
  | false => cases s.input <;> rfl

theorem command_subscriptions {q : Command} (hq : Call.routeChange? (.command q) = none) :
    (s.command q).2.subscriptions = s.subscriptions := by
  cases q with
  | subscribe sub => cases hq
  | unsubscribe sub => cases hq
  | setClientName name =>
    simp only [command, setClientName]
    split <;> rfl
  | deletePort port =>
    simp only [command, deletePort]
    split <;> rfl
  | freeQueue queue =>
    simp only [command, freeQueue]
    split <;> rfl
  | setQueueTempo queue tempo resolution =>
    simp only [command, updateQueue]
    split <;> rfl
  | controlQueue queue eventType value =>
    simp only [command, updateQueue]
    split <;> rfl
  | setPortInfo port info =>
    simp only [command, setPortInfo]
    split <;> rfl
  | eventOutput record =>
    simp only [command, send, countTransfer]
    cases s.blocks != 0 <;> rfl
  | eventOutputDirect record =>
    simp only [command, send, countTransfer]
    cases s.blocks != 0 <;> rfl
  | drainOutput =>
    simp only [command, drain, countTransfer]
    cases s.blocks != 0 <;> rfl
  | _ => rfl

theorem answer_subscriptions (c : Call) : (s.answer c).2.subscriptions =
    applyAll s.subscriptions c.routeChange?.toList := by
  cases hc : c.routeChange? with
  | some change =>
    have asked : c = .command change.command := by
      cases c with
      | command q =>
        cases q with
        | subscribe sub =>
          cases hc
          rfl
        | unsubscribe sub =>
          cases hc
          rfl
        | _ => cases hc
      | _ => cases hc
    subst asked
    exact congrArg (fun x => x.2.subscriptions) (s.command_routeChange change)
  | none =>
    cases c with
    | command q => exact s.command_subscriptions hc
    | eventInput => exact s.takeInput_subscriptions
    | _ => rfl

end Store

namespace Rehearsal

variable {r t : Rehearsal} {h : Call.History}

/-- The routes are what the calls so far have made of them. By induction on the passage. -/
theorem passes_subscriptions (p : simulator.Passes Change.Unforced r h t)
    (hr : r.script.Forces fun _ _ => False) : t.store.subscriptions =
      RouteChange.applyAll r.store.subscriptions (Call.routeChanges h) := by
  induction p with
  | refl => rfl
  | @call h t c before ih =>
    obtain ⟨answers, -⟩ := answers (passes_forces before hr) c
    have later : Call.routeChanges (h ++ [⟨c, (simulator.answer c t).1⟩]) =
        Call.routeChanges h ++ c.routeChange?.toList := by
      unfold Call.routeChanges
      rw [List.filterMap_append]
      cases hc : c.routeChange? <;> simp [hc]
    have changed : (t.answer c).2.store.subscriptions =
        RouteChange.applyAll t.store.subscriptions c.routeChange?.toList := by
      cases answers with
      | forced status allowed answered store => exact allowed.elim
      | worked answered store => rw [store, Store.answer_subscriptions]
    rw [later, RouteChange.applyAll, List.foldl_append]
    exact changed.trans (ih ▸ rfl)
  | change x allowed before ih => exact (change_tables x _).1.trans ih

end Rehearsal

end MidiSequencer
