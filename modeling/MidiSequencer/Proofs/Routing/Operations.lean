import MidiSequencer.Proofs.Routing.Routes

/-! # Operations on routes

A session changes routes by six operations, of which four put the address of a port at one of the
ends. Each comes down to one command, or to nothing where the slot is empty or the port closed. -/
namespace MidiSequencer

open Program (Traces)

namespace PortOperation

def isRouting : PortOperation → Bool
  | .connectTo _ => true
  | .connectFrom _ => true
  | .disconnectTo _ => true
  | .disconnectFrom _ => true
  | _ => false

def routeChange? (address : Address) : PortOperation → Option RouteChange
  | .connectTo dest => some (.connect ⟨address, dest, {}⟩)
  | .connectFrom sender => some (.connect ⟨sender, address, {}⟩)
  | .disconnectTo dest => some (.disconnect ⟨address, dest, {}⟩)
  | .disconnectFrom sender => some (.disconnect ⟨sender, address, {}⟩)
  | _ => none

theorem routeChange?_isSome (address : Address) (o : PortOperation) :
    (o.routeChange? address).isSome = o.isRouting := by
  cases o <;> rfl

end PortOperation

def Operation.isRouting : Operation → Bool
  | .subscribe .. => true
  | .unsubscribe .. => true
  | .port _ operation => operation.isRouting
  | _ => false

namespace Session

def routeChange? (s : Session) : Operation → Option RouteChange
  | .subscribe sender dest binding =>
    (s.options binding).map fun options => .connect ⟨sender, dest, options⟩
  | .unsubscribe sender dest binding =>
    (s.options binding).map fun options => .disconnect ⟨sender, dest, options⟩
  | .port slot operation =>
    ((s.port? slot).filter fun p => !p.isClosed).bind fun p => operation.routeChange? p.address
  | _ => none

variable {s : Session} {bound : Nat} {operation : Operation} {h : Dialogue.History}
  {result : Option (Outcome × Session)}

theorem perform_routing (bound : Nat) {change : RouteChange}
    (hc : s.routeChange? operation = some change) :
    s.perform bound operation = s.done (s.connection.execute change.command) := by
  cases operation with
  | subscribe sender dest binding =>
    obtain ⟨options, there, rfl⟩ := Option.map_eq_some_iff.1 hc
    simp only [perform, there]
    rfl
  | unsubscribe sender dest binding =>
    obtain ⟨options, there, rfl⟩ := Option.map_eq_some_iff.1 hc
    simp only [perform, there]
    rfl
  | port slot o =>
    obtain ⟨p, held, told⟩ := Option.bind_eq_some_iff.1 hc
    obtain ⟨there, isOpen⟩ := Option.filter_eq_some_iff.1 held
    have checked : p.checkOpen = .ok () := if_neg (by simpa using isOpen)
    cases o with
    | connectTo dest =>
      cases told
      simp only [perform, there, withSlot, performPort, Port.connectTo, checked]
      rfl
    | connectFrom sender =>
      cases told
      simp only [perform, there, withSlot, performPort, Port.connectFrom, checked]
      rfl
    | disconnectTo dest =>
      cases told
      simp only [perform, there, withSlot, performPort, Port.disconnectTo, checked]
      rfl
    | disconnectFrom sender =>
      cases told
      simp only [perform, there, withSlot, performPort, Port.disconnectFrom, checked]
      rfl
    | _ => cases told
  | _ => cases hc

theorem isRouting_of_routeChange? {change : RouteChange}
    (hc : s.routeChange? operation = some change) : operation.isRouting = true := by
  cases operation with
  | subscribe sender dest binding => rfl
  | unsubscribe sender dest binding => rfl
  | port slot o =>
    obtain ⟨p, -, told⟩ := Option.bind_eq_some_iff.1 hc
    exact (o.routeChange?_isSome p.address).symm.trans (Option.isSome_of_eq_some told)
  | _ => cases hc

theorem perform_idle (bound : Nat) (hr : operation.isRouting = true)
    (hc : s.routeChange? operation = none) :
    s.perform bound operation = .done (.noSuchSlot, s) ∨
      s.perform bound operation = .done (.error .closed, s) := by
  cases operation with
  | subscribe sender dest binding =>
    have missing : s.options binding = none := by simpa [routeChange?] using hc
    simp only [perform, missing]
    exact .inl rfl
  | unsubscribe sender dest binding =>
    have missing : s.options binding = none := by simpa [routeChange?] using hc
    simp only [perform, missing]
    exact .inl rfl
  | port slot o =>
    cases held : s.port? slot with
    | none =>
      simp only [perform, held]
      exact .inl rfl
    | some p =>
      have closed : p.isClosed = true := by
        by_contra isOpen
        have changes := o.routeChange?_isSome p.address
        have nothing : p.isClosed = false → o.routeChange? p.address = none := by
          simpa [routeChange?, held] using hc
        rw [nothing (by simpa using isOpen), show o.isRouting = true from hr] at changes
        cases changes
      have checked : p.checkOpen = .error .closed := if_pos closed
      refine .inr ?_
      cases o with
      | connectTo dest =>
        simp only [perform, held, withSlot, performPort, Port.connectTo, checked]
        rfl
      | connectFrom sender =>
        simp only [perform, held, withSlot, performPort, Port.connectFrom, checked]
        rfl
      | disconnectTo dest =>
        simp only [perform, held, withSlot, performPort, Port.disconnectTo, checked]
        rfl
      | disconnectFrom sender =>
        simp only [perform, held, withSlot, performPort, Port.disconnectFrom, checked]
        rfl
      | _ => cases hr
  | _ => cases hr

theorem perform_routeChanges (ht : Traces (s.perform bound operation) h result) :
    Call.routeChanges (Dialogue.calls h) =
      if s.connection.isOpen then (s.routeChange? operation).toList else [] := by
  cases hc : s.routeChange? operation with
  | some change =>
    rw [perform_routing bound hc] at ht
    rcases traces_execute ht with ⟨closed, calls, -⟩ | ⟨isOpen, status, calls, -⟩
    · rw [calls, closed]
      rfl
    · rw [calls, isOpen]
      cases change <;> rfl
  | none =>
    have nothing : Call.routeChanges (Dialogue.calls h) = [] := by
      cases hr : operation.isRouting with
      | true =>
        rcases perform_idle bound hr hc with idle | idle
        all_goals
          rw [idle] at ht
          obtain ⟨rfl, -⟩ := Program.traces_done_iff.1 ht
          rfl
      | false =>
        have heeds := s.perform_heeds bound operation
        refine moved_of_names (fun x change hx => Call.name_of_routeChange? hx) (heeds.names ht) ?_
        show ∀ name ∈ ["subscribe_port", "unsubscribe_port"], name ∉ operation.callNames
        cases operation with
        | subscribe sender dest binding => cases hr
        | unsubscribe sender dest binding => cases hr
        | port slot o =>
          cases o with
          | connectTo dest => cases hr
          | connectFrom sender => cases hr
          | disconnectTo dest => cases hr
          | disconnectFrom sender => cases hr
          | _ => simp [Operation.callNames, PortOperation.callNames]
        | queue slot o => cases o <;> simp [Operation.callNames, QueueOperation.callNames]
        | _ => simp [Operation.callNames]
    rw [nothing]
    cases s.connection.isOpen <;> rfl

theorem finish_routeChanges {o : Option Session} (ht : Traces s.finish h o) :
    Call.routeChanges (Dialogue.calls h) = [] := by
  refine moved_of_names (fun x change hx => Call.name_of_routeChange? hx) (finish_names ht) ?_
  simp [Operation.callNames]

end Session

def Step.routeChanges {χ : Type} (s : Session) : Step χ → List RouteChange
  | .perform operation =>
    if s.connection.isOpen then (s.routeChange? operation).toList else []
  | .performDuring operation _ =>
    match s.mode with
    | .blocking => []
    | .suspending => if s.connection.isOpen then (s.routeChange? operation).toList else []
  | .happen _ => []

namespace Step

variable {χ : Type} {step : Step χ} {s : Session}

theorem routeChanges_of_performs {operation : Operation} (h : step.Performs s operation) :
    step.routeChanges s =
      if s.connection.isOpen then (s.routeChange? operation).toList else [] := by
  cases step with
  | perform o =>
    cases h
    rfl
  | performDuring o incidents =>
    obtain ⟨mode, rfl⟩ := h
    simp only [routeChanges, mode]
  | happen i => cases h

theorem routeChanges_of_idle (h : ∀ operation, ¬ step.Performs s operation) :
    step.routeChanges s = [] := by
  cases step with
  | perform o => exact absurd rfl (h o)
  | performDuring o incidents =>
    unfold routeChanges
    cases hm : s.mode with
    | blocking => rfl
    | suspending => exact absurd ⟨hm, rfl⟩ (h o)
  | happen i => rfl

end Step

end MidiSequencer
