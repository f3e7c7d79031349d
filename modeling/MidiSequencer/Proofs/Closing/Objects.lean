import MidiSequencer.Proofs.Conduct.Operations
import MidiSequencer.Proofs.Resources.Turns

/-! # Closed ports and queues

A port or a queue that was closed answers that it is closed, whatever else happens in its session.
The other objects and the connection work on as if it had not been closed. -/
namespace MidiSequencer

def Operation.isOn : Resource → Nat → Operation → Bool
  | .port, k, .port slot _ => slot == k
  | .queue, k, .queue slot _ => slot == k
  | _, _, _ => false

def Resource.closing : Resource → Nat → Operation
  | .port, k => .port k .close
  | .queue, k => .queue k .close

/-- The same session, in which the object in a slot is closed. -/
def Session.retire (s : Session) : Resource → Nat → Session
  | .port, k =>
    { s with ports := s.ports.modify k fun place => place.map fun p => { p with isClosed := true } }
  | .queue, k =>
    { s with
      queues := s.queues.modify k fun place => place.map fun q => { q with isClosed := true } }

/-- What the slot holds is closed, if it still holds something, or else the connection is. -/
def Holdings.Retired (H : Holdings) (r : Resource) (k : Nat) : Prop :=
  H.isOpen = false ∨
    ∃ place, (H.shelf r)[k]? = some place ∧ ∀ x, place = some x → x.isClosed = true

/-! A closed connection stays closed, and a retired slot stays retired. -/

section

variable {mode : Mode} {operation : Operation} {H H' : Holdings} {deeds : List Deed}
  {outcome : Option Outcome}

theorem Turn.closed (turn : Turn mode operation H deeds outcome H') (hc : H.isOpen = false) :
    H'.isOpen = false := by
  cases turn with
  | idle others silent made inert => exact hc
  | make r id isOpen made others inert =>
    rw [hc] at isOpen
    cases isOpen
  | finish r k x place ends open_ held left done made => exact hc
  | close isClose closed => exact closed

theorem Turn.grows (turn : Turn mode operation H deeds outcome H')
    (hc : operation.isClose = false) (r : Resource) :
    (H.shelf r).length ≤ (H'.shelf r).length := by
  cases turn with
  | idle others silent made inert => exact Nat.le_refl _
  | make r' id isOpen made others inert =>
    by_cases hr : r = r'
    · simp [Holdings.put, hr]
    · simp [Holdings.put, hr]
  | finish r' k x place ends open_ held left done made =>
    by_cases hr : r = r'
    · simp [Holdings.put, hr]
    · simp [Holdings.put, hr]
  | close isClose closed =>
    rw [hc] at isClose
    cases isClose

theorem Turn.retired (turn : Turn mode operation H deeds outcome H') {r : Resource} {k : Nat}
    (h : H.Retired r k) : H'.Retired r k := by
  cases turn with
  | idle others closed made inert => exact h
  | make r' id isOpen made others inert =>
    rcases h with hc | ⟨place, hk, closed⟩
    · rw [hc] at isOpen
      cases isOpen
    · refine .inr ⟨place, ?_, closed⟩
      have bound : k < (H.shelf r).length := (List.getElem?_eq_some_iff.1 hk).1
      by_cases hr : r = r'
      · subst hr
        simpa [Holdings.put, List.getElem?_append_left bound] using hk
      · simpa [Holdings.put, hr] using hk
  | finish r' k' x place ends open_ held left done made =>
    rcases h with hc | ⟨before, hk, closed⟩
    · exact .inl hc
    · by_cases hr : r = r' ∧ k = k'
      · obtain ⟨rfl, rfl⟩ := hr
        have bound : k < (H.shelf r).length := (List.getElem?_eq_some_iff.1 hk).1
        refine .inr ⟨place, by simp [Holdings.put, bound], ?_⟩
        intro y hy
        rcases left with rfl | rfl
        · cases hy
        · cases hy
          rfl
      · refine .inr ⟨before, ?_, closed⟩
        by_cases hs : r = r'
        · subst hs
          have other : k' ≠ k := fun hn => hr ⟨rfl, hn.symm⟩
          simpa [Holdings.put, List.getElem?_set_ne other] using hk
        · simpa [Holdings.put, hs] using hk
  | close isClose closed => exact .inl closed

end

namespace Session

variable {s : Session} {bound : Nat} {h : Dialogue.History} {result : Option (Outcome × Session)}

theorem retired_after {operation : Operation}
    (ht : Program.Traces (s.perform bound operation) h result) {r : Resource} {k : Nat}
    (hr : s.holdings.Retired r k) : (s.after result).holdings.Retired r k :=
  (s.perform_takes bound operation h result ht).1.retired hr

theorem closed_after {operation : Operation}
    (ht : Program.Traces (s.perform bound operation) h result)
    (hc : s.connection.isOpen = false) : (s.after result).connection.isOpen = false :=
  (s.perform_takes bound operation h result ht).1.closed hc

/-! Methods of a closed object, or on a closed connection. -/

theorem execute_of_closed {c : Connection} (hc : c.isOpen = false) (q : Command) :
    (c.execute q).run = .done (.error .closed) := by
  unfold Connection.execute Connection.command Connection.call
  rw [hc]
  rfl

theorem portInfo_of_closed {c : Connection} (hc : c.isOpen = false) (port : PortRef) :
    (c.portInfo port).run = .done (.error .closed) := by
  unfold Connection.portInfo Connection.call
  rw [hc]
  rfl

theorem run_checked_closed {α : Type} {isClosed : Bool} {c : Connection} {a : Action α}
    (h : isClosed = true ∨ c.isOpen = false)
    (ha : c.isOpen = false → a.run = .done (.error .closed)) :
    ((liftM (if isClosed then .error .closed else .ok () : Except Error Unit) : Action Unit) >>=
      fun _ => a).run = .done (.error .closed) := by
  by_cases hx : isClosed = true
  · rw [if_pos hx]
    rfl
  · have hc : c.isOpen = false := h.resolve_left hx
    rw [if_neg hx]
    exact ha hc

theorem performPort_closed {slot : Nat} {p : Port} {o : PortOperation}
    (hp : p.isClosed = true ∨ s.connection.isOpen = false) (hg : o.isGetter = false)
    (he : o.isEnding = false) : s.performPort slot p o = .done (.error .closed, s) := by
  have report {α : Type} {f : α → Value} {a : Action α}
      (ha : s.connection.isOpen = false → a.run = .done (.error .closed)) :
      s.report f (liftM p.checkOpen >>= fun _ => a) = .done (.error .closed, s) := by
    have checked := run_checked_closed hp ha
    unfold Session.report Port.checkOpen
    rw [checked]
    rfl
  cases o with
  | isClosed => cases hg
  | info => exact report fun hc => portInfo_of_closed hc _
  | close => cases he
  | drop => cases he
  | _ => exact report fun hc => execute_of_closed hc _

theorem performQueue_closed {slot : Nat} {q : Queue} {o : QueueOperation}
    (hq : q.isClosed = true ∨ s.connection.isOpen = false) (he : o.isEnding = false) :
    s.performQueue slot q o = .done (.error .closed, s) := by
  have report {a : Action Unit}
      (ha : s.connection.isOpen = false → a.run = .done (.error .closed)) :
      s.done (liftM q.checkOpen >>= fun _ => a) = .done (.error .closed, s) := by
    have checked := run_checked_closed hq ha
    unfold Session.done Session.report Queue.checkOpen
    rw [checked]
    rfl
  cases o with
  | close => cases he
  | drop => cases he
  | _ => exact report fun hc => execute_of_closed hc _

theorem performPort_ending {slot : Nat} {p : Port} {o : PortOperation}
    (hp : p.isClosed = true ∨ s.connection.isOpen = false) (he : o.isEnding = true) :
    ∃ s', s.performPort slot p o = .done (.value .unit, s') := by
  have close : p.close s.connection = .done (.ok (), { p with isClosed := true }) := by
    unfold Port.close
    rw [if_pos (by simpa using hp)]
    rfl
  cases o with
  | close =>
    refine ⟨{ s with ports := s.ports.set slot (some { p with isClosed := true }) }, ?_⟩
    unfold performPort
    rw [close]
    rfl
  | drop =>
    refine ⟨{ s with ports := s.ports.set slot none }, ?_⟩
    unfold performPort Port.drop
    rw [close]
    rfl
  | _ => cases he

theorem performQueue_ending {slot : Nat} {q : Queue} {o : QueueOperation}
    (hq : q.isClosed = true ∨ s.connection.isOpen = false) (he : o.isEnding = true) :
    ∃ s', s.performQueue slot q o = .done (.value .unit, s') := by
  have close : q.close s.connection = .done (.ok (), { q with isClosed := true }) := by
    unfold Queue.close
    rw [if_pos (by simpa using hq)]
    rfl
  cases o with
  | close =>
    refine ⟨{ s with queues := s.queues.set slot (some { q with isClosed := true }) }, ?_⟩
    unfold performQueue
    rw [close]
    rfl
  | drop =>
    refine ⟨{ s with queues := s.queues.set slot none }, ?_⟩
    unfold performQueue Queue.drop
    rw [close]
    rfl
  | _ => cases he

theorem port_of_retired {k : Nat} {p : Port} (hr : s.holdings.Retired .port k)
    (hp : s.port? k = some p) : p.isClosed = true ∨ s.connection.isOpen = false := by
  rcases hr with hc | ⟨place, hk, closed⟩
  · exact .inr hc
  · have held := held_port hp
    rw [hk] at held
    exact .inl (closed p.held (Option.some.inj held))

theorem queue_of_retired {k : Nat} {q : Queue} (hr : s.holdings.Retired .queue k)
    (hq : s.queue? k = some q) : q.isClosed = true ∨ s.connection.isOpen = false := by
  rcases hr with hc | ⟨place, hk, closed⟩
  · exact .inr hc
  · have held := held_queue hq
    rw [hk] at held
    exact .inl (closed q.held (Option.some.inj held))

/-- Every method on a retired slot that still holds something asks nothing: closing and dropping
succeed, and everything but a getter answers that the object is closed. -/
theorem perform_retired {r : Resource} {k : Nat} {operation : Operation}
    (hr : s.holdings.Retired r k) (on : operation.isOn r k = true)
    (offered : s.offers operation = true) (hg : operation.isGetter = false) :
    (operation.isEnding = false ∧ s.perform bound operation = .done (.error .closed, s)) ∨
    (operation.isEnding = true ∧
      ∃ s', s.perform bound operation = .done (.value .unit, s')) := by
  cases r with
  | port =>
    cases operation with
    | port slot o =>
      obtain rfl : slot = k := by simpa [Operation.isOn] using on
      obtain ⟨p, hp⟩ := Option.isSome_iff_exists.1 offered
      have closed := port_of_retired hr hp
      have at_slot : s.perform bound (.port slot o) = s.performPort slot p o := by
        simp [perform, hp, withSlot]
      rw [at_slot]
      cases he : (Operation.port slot o).isEnding with
      | false => exact .inl ⟨rfl, performPort_closed closed hg he⟩
      | true => exact .inr ⟨rfl, performPort_ending closed he⟩
    | _ => cases on
  | queue =>
    cases operation with
    | queue slot o =>
      obtain rfl : slot = k := by simpa [Operation.isOn] using on
      obtain ⟨q, hq⟩ := Option.isSome_iff_exists.1 offered
      have closed := queue_of_retired hr hq
      have at_slot : s.perform bound (.queue slot o) = s.performQueue slot q o := by
        simp [perform, hq, withSlot]
      rw [at_slot]
      cases he : (Operation.queue slot o).isEnding with
      | false => exact .inl ⟨rfl, performQueue_closed closed he⟩
      | true => exact .inr ⟨rfl, performQueue_ending closed he⟩
    | _ => cases on

end Session

end MidiSequencer
