import MidiSequencer.Proofs.Closing.Frame
import MidiSequencer.Proofs.Conduct.Sessions
import MidiSequencer.Proofs.Passages
import MidiSequencer.Simulation.Rehearsal

/-! # Closed is final

Once the connection is closed nothing is called again, whatever a session goes on to do, and
everything but closing, dropping and the getters is refused. Once a port or a queue is closed it
answers so, and everything else goes on as if it were not. -/
namespace MidiSequencer

variable {σ χ : Type}

namespace Session

variable {s : Session} {bound : Nat} {h : Dialogue.History} {result : Option (Outcome × Session)}

theorem traces_perform_close (ht : Program.Traces (s.perform bound .close) h result) :
    ∃ s', result = some (.value .unit, s') ∧ s'.connection.isOpen = false := by
  have closes := Dialogue.does_return (f := fun s' => (Outcome.value .unit, s'))
    (S := fun x => x.1 = .value .unit ∧ x.2.connection.isOpen = false) s.does_close
    fun _ hs => ⟨rfl, hs.2⟩
  obtain ⟨-, ⟨o, s'⟩, rfl, rfl, closed⟩ := closes h result ht
  exact ⟨s', rfl, closed⟩

theorem perform_closed {operation : Operation} (hc : s.connection.isOpen = false)
    (ht : Program.Traces (s.perform bound operation) h result) :
    Dialogue.calls h = [] ∧ (s.duty bound operation).refused result :=
  (s.perform_heeds bound operation).closed hc ht

theorem finish_closed (hc : s.connection.isOpen = false) {o : Option Session}
    (ht : Program.Traces s.finish h o) : Dialogue.calls h = [] := by
  have hi : (s.rules .close).Ignores := s.rules_ignores rfl
  have heeds := heeds_finish rfl hi (.head _) (.tail _ (.head _)) (.tail _ (.tail _ (.head _)))
  exact (heeds.closed hc ht).1

theorem retire_port {k : Nat} {p : Port} (hp : s.port? k = some p) : s.retire .port k =
    { s with ports := s.ports.set k (some { p with isClosed := true }) } := by
  have place : s.ports[k]? = some (some p) := by
    simpa only [port?, Option.join_eq_some_iff] using hp
  simp only [retire, modify_eq_set place, Option.map_some]

theorem retire_queue {k : Nat} {q : Queue} (hq : s.queue? k = some q) : s.retire .queue k =
    { s with queues := s.queues.set k (some { q with isClosed := true }) } := by
  have place : s.queues[k]? = some (some q) := by
    simpa only [queue?, Option.join_eq_some_iff] using hq
  simp only [retire, modify_eq_set place, Option.map_some]

theorem traces_closing {r : Resource} {k : Nat} (offered : s.offers (r.closing k) = true)
    (ht : Program.Traces (s.perform bound (r.closing k)) h result) :
    ∃ o, result = some (o, s.retire r k) := by
  cases r with
  | port =>
    obtain ⟨p, hp⟩ := Option.isSome_iff_exists.1 offered
    have closes := Dialogue.does_return
      (f := fun x => (Outcome.ofExcept (fun _ => .unit) x.1,
        ({ s with ports := s.ports.set k (some x.2) } : Session)))
      (S := fun x => x.2 = s.retire .port k) (p.does_close s.connection) fun x hx => by
        rw [retire_port hp, hx]
    have performs : s.perform bound (Resource.port.closing k) = s.performPort k p .close := by
      simp [perform, Resource.closing, hp, withSlot]
    rw [performs] at ht
    obtain ⟨-, ⟨o, s'⟩, rfl, rfl⟩ := closes h result ht
    exact ⟨o, rfl⟩
  | queue =>
    obtain ⟨q, hq⟩ := Option.isSome_iff_exists.1 offered
    have closes := Dialogue.does_return
      (f := fun x => (Outcome.ofExcept (fun _ => .unit) x.1,
        ({ s with queues := s.queues.set k (some x.2) } : Session)))
      (S := fun x => x.2 = s.retire .queue k) (q.does_close s.connection) fun x hx => by
        rw [retire_queue hq, hx]
    have performs : s.perform bound (Resource.queue.closing k) = s.performQueue k q .close := by
      simp [perform, Resource.closing, hq, withSlot]
    rw [performs] at ht
    obtain ⟨-, ⟨o, s'⟩, rfl, rfl⟩ := closes h result ht
    exact ⟨o, rfl⟩

theorem retired_of_offers {r : Resource} {k : Nat} (offered : s.offers (r.closing k) = true) :
    (s.retire r k).holdings.Retired r k := by
  refine .inr ?_
  cases r with
  | port =>
    obtain ⟨p, hp⟩ := Option.isSome_iff_exists.1 offered
    have held := held_port hp
    have bound : k < s.ports.length := by
      simpa [holdings] using (List.getElem?_eq_some_iff.1 held).1
    rw [retire_port hp]
    exact ⟨some ⟨p.id, true⟩, by simp [holdings, bound, Port.held], fun x hx => by cases hx; rfl⟩
  | queue =>
    obtain ⟨q, hq⟩ := Option.isSome_iff_exists.1 offered
    have held := held_queue hq
    have bound : k < s.queues.length := by
      simpa [holdings] using (List.getElem?_eq_some_iff.1 held).1
    rw [retire_queue hq]
    exact ⟨some ⟨q.id, true⟩, by simp [holdings, bound, Queue.held], fun x hx => by cases hx; rfl⟩

end Session

namespace Play

variable (m : Simulator σ χ) (bound : Nat) {C : χ → Prop}

theorem run_closed {steps : List (Step χ)} (hs : ∀ step ∈ steps, step.Within C) {p : Play σ χ}
    (hp : p.scene.Within C) (hc : p.session.connection.isOpen = false) :
    (p.run m bound steps).2.session.connection.isOpen = false ∧
      m.Passes C p.scene.sequencer [] (p.run m bound steps).2.scene.sequencer ∧
      (p.run m bound steps).2.scene.Within C := by
  induction steps generalizing p with
  | nil => exact ⟨hc, .refl _, hp⟩
  | cons step steps ih =>
    obtain ⟨first, later⟩ := List.forall_mem_cons.1 hs
    obtain ⟨does, within⟩ := step_does m bound hp first
    have next : (p.step m bound step).2.session.connection.isOpen = false ∧
        m.Passes C p.scene.sequencer [] (p.step m bound step).2.scene.sequencer := by
      cases does with
      | performs operation h result asked ht ho session passes =>
        rw [session]
        rw [(Session.perform_closed hc ht).1] at passes
        exact ⟨Session.closed_after ht hc, passes⟩
      | idles asked ho session passes =>
        rw [session]
        exact ⟨hc, passes⟩
    obtain ⟨closed, passes, rest⟩ := ih later within next.1
    exact ⟨closed, next.2.trans passes, rest⟩

theorem finish_closed {p : Play σ χ} (hp : p.scene.Within C)
    (hc : p.session.connection.isOpen = false) :
    m.Passes C p.scene.sequencer [] (p.finish m).sequencer := by
  obtain ⟨h, o, ht, passes⟩ := finish_passes m hp
  rw [Session.finish_closed hc ht] at passes
  exact passes

theorem run_retired {r : Resource} {k : Nat} (steps : List (Step χ)) {p : Play σ χ}
    (hr : p.session.holdings.Retired r k) :
    (p.run m bound steps).2.session.holdings.Retired r k := by
  induction steps generalizing p with
  | nil => exact hr
  | cons step steps ih =>
    have next : (p.step m bound step).2.session.holdings.Retired r k := by
      obtain ⟨does, -⟩ := step_does m bound p.scene.within_true step.within_true
      cases does with
      | performs operation h result asked ht ho session passes =>
        rw [session]
        exact Session.retired_after ht hr
      | idles asked ho session passes =>
        rw [session]
        exact hr
    exact ih next

def retire (p : Play σ χ) (r : Resource) (k : Nat) : Play σ χ :=
  { p with session := p.session.retire r k }

theorem perform_retire {r : Resource} {k : Nat} {p : Play σ χ}
    (hk : k < (p.session.holdings.shelf r).length) {operation : Operation}
    (hc : operation.isClose = false) (other : operation.isOn r k = false) :
    (p.retire r k).perform m bound operation =
      ((p.perform m bound operation).1, (p.perform m bound operation).2.retire r k) := by
  rw [perform_eq, perform_eq]
  have performs := Session.perform_retire bound hk hc other
  simp only [retire, performs, Session.thenRetire, Program.run_bind]
  rcases (p.session.perform bound operation).run (Scene.answer m) p.scene with ⟨_ | ⟨o, s⟩, scene⟩
  · rfl
  · rfl

/-- Steps that are not about the object, nor close the connection. -/
def Leaves (r : Resource) (k : Nat) (steps : List (Step χ)) : Prop :=
  ∀ step ∈ steps, ∀ operation, step.operation? = some operation →
    operation.isClose = false ∧ operation.isOn r k = false

theorem step_retire {r : Resource} {k : Nat} {p : Play σ χ}
    (hk : k < (p.session.holdings.shelf r).length) {step : Step χ}
    (hs : ∀ operation, step.operation? = some operation →
      operation.isClose = false ∧ operation.isOn r k = false) :
    (p.retire r k).step m bound step =
      ((p.step m bound step).1, (p.step m bound step).2.retire r k) := by
  cases step with
  | perform operation =>
    obtain ⟨hc, other⟩ := hs operation rfl
    exact perform_retire m bound hk hc other
  | performDuring operation incidents =>
    obtain ⟨hc, other⟩ := hs operation rfl
    have performs := perform_retire m bound
      (p := { p with scene.awaited := p.scene.awaited ++ incidents }) hk hc other
    have mode : (p.session.retire r k).mode = p.session.mode := p.session.retire_mode r k
    cases hm : p.session.mode with
    | blocking => simp only [step, retire, mode, hm]
    | suspending =>
      simp only [step, retire, mode, hm] at performs ⊢
      rw [performs]
  | happen i => rfl

/-- Slots do not vanish but by closing the connection. -/
theorem length_shelf_step {r : Resource} {k : Nat} {p : Play σ χ}
    (hk : k < (p.session.holdings.shelf r).length) {step : Step χ}
    (hs : ∀ operation, step.operation? = some operation → operation.isClose = false) :
    k < ((p.step m bound step).2.session.holdings.shelf r).length := by
  obtain ⟨does, -⟩ := step_does m bound p.scene.within_true step.within_true
  cases does with
  | performs operation h result asked ht ho session passes =>
    rw [session]
    have hc : operation.isClose = false := hs operation asked.operation?
    exact Nat.lt_of_lt_of_le hk ((p.session.perform_takes bound operation h result ht).1.grows hc r)
  | idles asked ho session passes =>
    rw [session]
    exact hk

theorem run_retire {r : Resource} {k : Nat} {steps : List (Step χ)} {p : Play σ χ}
    (hk : k < (p.session.holdings.shelf r).length) (hs : Leaves r k steps) :
    (p.retire r k).run m bound steps =
      ((p.run m bound steps).1, (p.run m bound steps).2.retire r k) := by
  induction steps generalizing p with
  | nil => rfl
  | cons step steps ih =>
    obtain ⟨first, later⟩ := List.forall_mem_cons.1 hs
    have next := length_shelf_step m bound hk fun operation ho => (first operation ho).1
    simp only [run, step_retire m bound hk first, ih next later]

end Play

def Enumeration.RefusesStep {ι : Type} (e : Enumeration ι) (cursor : Cursor) : Prop :=
  ∀ h o, Program.Traces (e.step cursor) h o → Dialogue.calls h = [] ∧
    ∃ err cursor', o = some (some (.error err), cursor') ∧ cursor'.finished = true

theorem Enumeration.refusesStep {ι : Type} {e : Enumeration ι} {R : Rules}
    (he : e.Heeds R) (hc : R.isOpen = false) {cursor : Cursor} (hf : cursor.finished = false) :
    e.RefusesStep cursor := by
  intro h o ht
  have heeds := Enumeration.heeds_step he hf
  obtain ⟨silent, err, cursor', ho, finished, -⟩ := heeds.closed hc ht
  exact ⟨silent, err, cursor', ho, finished⟩

structure ClosedIsFinal : Prop where
  closing {σ χ : Type} (m : Simulator σ χ) (bound : Nat) (p : Play σ χ) :
    (p.perform m bound .close).1 = some (.value .unit) ∧
      (p.perform m bound .close).2.session.connection.isOpen = false
  /-- A closed connection stays closed, and nothing is called until after the end of its session. -/
  silent {σ χ : Type} (m : Simulator σ χ) (bound : Nat) (p : Play (σ × Call.History) χ)
    (steps : List (Step χ)) : p.session.connection.isOpen = false →
    let q := (p.run m.recorded bound steps).2
    q.session.connection.isOpen = false ∧ q.scene.sequencer.2 = p.scene.sequencer.2 ∧
      (q.finish m.recorded).sequencer.2 = p.scene.sequencer.2
  unchanged {σ χ : Type} (m : Simulator σ χ) (bound : Nat) (p : Play σ χ) (steps : List (Step χ)) :
    p.session.connection.isOpen = false → p.scene.Within (fun _ => False) →
    (∀ step ∈ steps, step.Within fun _ => False) →
    let q := (p.run m bound steps).2
    q.scene.sequencer = p.scene.sequencer ∧ (q.finish m).sequencer = p.scene.sequencer
  /-- Where others act the sequencer goes through their changes, and no call. -/
  drifts {σ χ : Type} (m : Simulator σ χ) (bound : Nat) (p : Play σ χ) (steps : List (Step χ)) :
    p.session.connection.isOpen = false →
    let q := (p.run m bound steps).2
    m.Passes (fun _ => True) p.scene.sequencer [] q.scene.sequencer ∧
      m.Passes (fun _ => True) p.scene.sequencer [] (q.finish m).sequencer
  /-- Every operation that the session offers ends, and is refused unless it closes, drops or is a
  getter. -/
  refused {σ χ : Type} (m : Simulator σ χ) (bound : Nat) (p : Play σ χ) (steps : List (Step χ))
    (step : Step χ) (operation : Operation) : 2 ≤ bound → p.session.connection.isOpen = false →
    let q := (p.run m bound steps).2
    step.Performs q.session operation → q.session.offers operation = true →
    ∃ o, (q.step m bound step).1 = some o ∧ operation.Refused o
  iterators (c : Connection) (cursor : Cursor) : c.isOpen = false → cursor.finished = false →
    c.clients.RefusesStep cursor ∧ ∀ client, (c.ports client).RefusesStep cursor
  /-- Closing an object does no more to the session than to mark it, whatever is answered. -/
  objects (s : Session) (bound : Nat) (r : Resource) (k : Nat) (h : Dialogue.History)
    (result : Option (Outcome × Session)) : s.offers (r.closing k) = true →
    Program.Traces (s.perform bound (r.closing k)) h result →
    (s.retire r k).holdings.Retired r k ∧ ∃ o, result = some (o, s.retire r k)
  /-- After that its methods ask nothing, however the session goes on: what closes or drops
  succeeds, and everything else but a getter answers that it is closed. -/
  methods {σ χ : Type} (m : Simulator σ χ) (bound : Nat) (p : Play σ χ) (steps : List (Step χ))
    (r : Resource) (k : Nat) (operation : Operation) : p.session.holdings.Retired r k →
    let q := (p.run m bound steps).2
    operation.isOn r k = true → q.session.offers operation = true →
    operation.isGetter = false →
    (operation.isEnding = false ∧
      q.session.perform bound operation = .done (.error .closed, q.session)) ∨
    (operation.isEnding = true ∧
      ∃ s', q.session.perform bound operation = .done (.value .unit, s'))
  /-- Steps that neither are about the object nor close the connection go as if it were not
  closed. -/
  others {σ χ : Type} (m : Simulator σ χ) (bound : Nat) (p : Play σ χ) (steps : List (Step χ))
    (r : Resource) (k : Nat) : k < (p.session.holdings.shelf r).length → Play.Leaves r k steps →
    (p.retire r k).run m bound steps =
      ((p.run m bound steps).1, (p.run m bound steps).2.retire r k)

/-- Closed is final, for the connection and for each port and queue. -/
theorem closed_is_final : ClosedIsFinal where
  closing m bound p := by
    obtain ⟨h, result, ht, ho, session, -⟩ :=
      Play.perform_passes m bound p.scene.within_true .close
    obtain ⟨s', rfl, closed⟩ := Session.traces_perform_close ht
    rw [ho, session]
    exact ⟨rfl, closed⟩
  silent m bound p steps hc := by
    have open_ : ∀ step ∈ steps, step.Within fun _ => True := fun step _ => step.within_true
    obtain ⟨closed, passes, within⟩ :=
      Play.run_closed m.recorded bound open_ p.scene.within_true hc
    have ended := passes.trans (Play.finish_closed m.recorded within closed)
    refine ⟨closed, ?_, ?_⟩
    · rw [passes.log, List.append_nil]
    · rw [ended.log, List.append_nil, List.append_nil]
  unchanged m bound p steps hc hp hs := by
    obtain ⟨closed, passes, within⟩ := Play.run_closed m bound hs hp hc
    have ended := passes.trans (Play.finish_closed m within closed)
    exact ⟨passes.eq_of_quiet fun _ h => h, ended.eq_of_quiet fun _ h => h⟩
  drifts m bound p steps hc := by
    have open_ : ∀ step ∈ steps, step.Within fun _ => True := fun step _ => step.within_true
    obtain ⟨closed, passes, within⟩ := Play.run_closed m bound open_ p.scene.within_true hc
    exact ⟨passes, passes.trans (Play.finish_closed m within closed)⟩
  refused m bound p steps step operation hb hc := by
    intro q hs offered
    have open_ : ∀ step ∈ steps, step.Within fun _ => True := fun step _ => step.within_true
    obtain ⟨closed, -, within⟩ := Play.run_closed m bound open_ p.scene.within_true hc
    obtain ⟨h, result, ht, ho, -, -⟩ := Play.step_performs m bound within step.within_true hs
    have refused := (Session.perform_closed closed ht).2
    cases result with
    | none =>
      have cut : bound < 2 := refused
      omega
    | some x => exact ⟨x.1, ho, refused offered⟩
  iterators c cursor hc hf :=
    ⟨Enumeration.refusesStep c.heeds_clients hc hf,
      fun client => Enumeration.refusesStep (c.heeds_ports client) hc hf⟩
  objects s bound r k h result offered ht :=
    ⟨Session.retired_of_offers offered, Session.traces_closing offered ht⟩
  methods m bound p steps r k operation hr := by
    intro q on offered hg
    have retired : q.session.holdings.Retired r k := Play.run_retired m bound steps hr
    exact Session.perform_retired retired on offered hg
  others m bound p steps r k hk hs := Play.run_retire m bound hk hs

/-- A wait that was begun after closing, although there would be something to read. -/
theorem closed_is_final_waited_input :
    let p : Play Rehearsal Rehearsal.Change :=
      { session := { mode := .suspending, connection := { clientId := 128, isOpen := false } }
        scene := { sequencer :=
          { store := { Store.initial 128 with input := [{ data := .generic 7 }] } } } }
    let q := (p.run Rehearsal.simulator 2 [.perform .close, .happen .wake]).2
    let step : Step Rehearsal.Change := .performDuring (.input (some 5000000)) [.wake]
    (2 ≤ 2 ∧ p.session.connection.isOpen = false ∧
        step.Performs q.session (.input (some 5000000)) ∧
        q.session.offers (.input (some 5000000)) = true) ∧
      ∃ o, (q.step Rehearsal.simulator 2 step).1 = some o ∧ o.Refuses := by
  intro p q step
  have asked : step.Performs q.session (.input (some 5000000)) := ⟨rfl, rfl⟩
  have offered : q.session.offers (.input (some 5000000)) = true := rfl
  exact ⟨⟨Nat.le_refl 2, rfl, asked, offered⟩,
    closed_is_final.refused Rehearsal.simulator 2 p _ step _ (Nat.le_refl 2) rfl asked offered⟩

end MidiSequencer
