import MidiSequencer.Proofs.Closing.Objects

/-! # What closing an object leaves alone

Performing an operation that is not about a closed object commutes with closing it: the same is
asked, the same comes out, and the session is the same but for the object. -/
namespace MidiSequencer

section

variable {α : Type} {l : List α} {i j : Nat}

theorem modify_set_of_ne (h : j ≠ i) (f : α → α) (a : α) (l : List α) :
    (l.set i a).modify j f = (l.modify j f).set i a := by
  apply List.ext_getElem?
  intro n
  by_cases hn : n = i
  · subst hn
    simp [List.getElem?_set, h]
  · simp [List.getElem?_modify, Ne.symm hn]

theorem modify_eq_set {a : α} (hj : l[j]? = some a) (f : α → α) :
    l.modify j f = l.set j (f a) := by
  apply List.ext_getElem?
  intro n
  by_cases hn : j = n
  · subst hn
    obtain ⟨bound, rfl⟩ := List.getElem?_eq_some_iff.1 hj
    simp [bound]
  · simp [hn]

theorem modify_append_of_lt (h : j < l.length) (f : α → α) (a : α) :
    (l ++ [a]).modify j f = l.modify j f ++ [a] := by
  apply List.ext_getElem?
  intro n
  by_cases hn : n < l.length
  · rw [List.getElem?_modify, List.getElem?_append_left hn,
      List.getElem?_append_left (by simpa using hn), List.getElem?_modify]
  · have other : j ≠ n := by omega
    simp [List.getElem?_append, hn, other]

end

namespace Session

variable (s : Session) (r : Resource) (k : Nat)

@[simp] theorem retire_mode : (s.retire r k).mode = s.mode := by
  cases r <;> rfl

@[simp] theorem retire_connection : (s.retire r k).connection = s.connection := by
  cases r <;> rfl

@[simp] theorem retire_ports_length : (s.retire r k).ports.length = s.ports.length := by
  cases r <;> simp [retire]

@[simp] theorem retire_queues_length : (s.retire r k).queues.length = s.queues.length := by
  cases r <;> simp [retire]

theorem port?_retire (slot : Nat) : (s.retire r k).port? slot = s.port? slot ∨
    (r = .port ∧ k = slot ∧ ∃ p, s.port? slot = some p ∧
      (s.retire r k).port? slot = some { p with isClosed := true }) := by
  cases r with
  | queue => exact .inl rfl
  | port =>
    by_cases hk : k = slot
    · subst hk
      cases hp : s.ports[k]? with
      | none => exact .inl (by simp [port?, retire, hp])
      | some place =>
        cases place with
        | none => exact .inl (by simp [port?, retire, hp])
        | some p =>
          exact .inr ⟨rfl, rfl, p, by simp [port?, hp], by
            simp [port?, retire, hp]⟩
    · exact .inl (by simp [port?, retire, hk])

theorem queue?_retire (slot : Nat) : (s.retire r k).queue? slot = s.queue? slot ∨
    (r = .queue ∧ k = slot ∧ ∃ q, s.queue? slot = some q ∧
      (s.retire r k).queue? slot = some { q with isClosed := true }) := by
  cases r with
  | port => exact .inl rfl
  | queue =>
    by_cases hk : k = slot
    · subst hk
      cases hq : s.queues[k]? with
      | none => exact .inl (by simp [queue?, retire, hq])
      | some place =>
        cases place with
        | none => exact .inl (by simp [queue?, retire, hq])
        | some q =>
          exact .inr ⟨rfl, rfl, q, by simp [queue?, hq], by
            simp [queue?, retire, hq]⟩
    · exact .inl (by simp [queue?, retire, hk])

theorem port?_retire_map {α : Type} (f : Port → α)
    (hf : ∀ p, f { p with isClosed := true } = f p) (slot : Nat) :
    ((s.retire r k).port? slot).map f = (s.port? slot).map f := by
  rcases s.port?_retire r k slot with same | ⟨-, -, p, hp, hp'⟩
  · rw [same]
  · rw [hp, hp']
    exact congrArg some (hf p)

theorem queue?_retire_map {α : Type} (f : Queue → α)
    (hf : ∀ q, f { q with isClosed := true } = f q) (slot : Nat) :
    ((s.retire r k).queue? slot).map f = (s.queue? slot).map f := by
  rcases s.queue?_retire r k slot with same | ⟨-, -, q, hq, hq'⟩
  · rw [same]
  · rw [hq, hq']
    exact congrArg some (hf q)

@[simp] theorem route_retire (routing : Routing) :
    (s.retire r k).route routing = s.route routing := by
  unfold Session.route
  simp only [s.port?_retire_map r k (fun p => Route.withPort {} p.id) fun _ => rfl]
  have queues (route : Route) (slot : Nat) := s.queue?_retire_map r k
    (fun q => route.withQueue q.id) (fun _ => rfl) slot
  simp only [queues]

@[simp] theorem options_retire (binding : Binding) :
    (s.retire r k).options binding = s.options binding := by
  unfold Session.options
  simp only [s.queue?_retire_map r k
    (fun q => { binding.options with queue := some (Address.lowByte q.id) }) fun _ => rfl]

def thenRetire (d : Dialogue (Outcome × Session)) : Dialogue (Outcome × Session) :=
  d >>= fun x => .done (x.1, x.2.retire r k)

variable {s r k}

theorem report_retire {α : Type} (f : α → Value) (a : Action α) :
    (s.retire r k).report f a = thenRetire r k (s.report f a) := by
  unfold thenRetire Session.report
  simp only [Program.pure_eq, bind_assoc, Program.done_bind]

theorem done_retire (a : Action Unit) :
    (s.retire r k).done a = thenRetire r k (s.done a) :=
  report_retire _ a

theorem onlyBlocking_retire {d d' : Dialogue (Outcome × Session)} (h : d' = thenRetire r k d) :
    (s.retire r k).onlyBlocking d' = thenRetire r k (s.onlyBlocking d) := by
  unfold onlyBlocking
  rw [retire_mode]
  cases s.mode with
  | blocking => exact h
  | suspending => rfl

theorem withSlot_retire {α : Type} (slot : Option α) {f f' : α → Dialogue (Outcome × Session)}
    (h : ∀ a, f' a = thenRetire r k (f a)) :
    (s.retire r k).withSlot slot f' = thenRetire r k (s.withSlot slot f) := by
  cases slot with
  | none => rfl
  | some a => exact h a

theorem retire_set_ports {slot : Nat} (other : ¬ (r = .port ∧ k = slot)) (place : Option Port) :
    ({ s with ports := s.ports.set slot place } : Session).retire r k =
      { s.retire r k with ports := (s.retire r k).ports.set slot place } := by
  cases r with
  | queue => rfl
  | port =>
    have hk : k ≠ slot := fun h => other ⟨rfl, h⟩
    exact congrArg (fun ports => { s with ports }) (modify_set_of_ne hk _ _ _)

theorem retire_set_queues {slot : Nat} (other : ¬ (r = .queue ∧ k = slot))
    (place : Option Queue) :
    ({ s with queues := s.queues.set slot place } : Session).retire r k =
      { s.retire r k with queues := (s.retire r k).queues.set slot place } := by
  cases r with
  | port => rfl
  | queue =>
    have hk : k ≠ slot := fun h => other ⟨rfl, h⟩
    exact congrArg (fun queues => { s with queues }) (modify_set_of_ne hk _ _ _)

theorem retire_append_ports (filled : r = .port → k < s.ports.length) (place : Option Port) :
    ({ s with ports := s.ports ++ [place] } : Session).retire r k =
      { s.retire r k with ports := (s.retire r k).ports ++ [place] } := by
  cases r with
  | queue => rfl
  | port =>
    exact congrArg (fun ports => { s with ports }) (modify_append_of_lt (filled rfl) _ _)

theorem retire_append_queues (filled : r = .queue → k < s.queues.length) (place : Option Queue) :
    ({ s with queues := s.queues ++ [place] } : Session).retire r k =
      { s.retire r k with queues := (s.retire r k).queues ++ [place] } := by
  cases r with
  | port => rfl
  | queue =>
    exact congrArg (fun queues => { s with queues }) (modify_append_of_lt (filled rfl) _ _)

theorem performPort_retire {slot : Nat} (other : ¬ (r = .port ∧ k = slot)) (p : Port)
    (o : PortOperation) :
    (s.retire r k).performPort slot p o = thenRetire r k (s.performPort slot p o) := by
  cases o with
  | isClosed => rfl
  | info =>
    unfold performPort
    rw [retire_connection]
    exact report_retire _ _
  | close =>
    simp only [performPort, thenRetire, Program.pure_eq, bind_assoc, Program.done_bind,
      retire_set_ports other, retire_connection]
  | drop =>
    simp only [performPort, thenRetire, Program.pure_eq, bind_assoc, Program.done_bind,
      retire_set_ports other, retire_connection]
  | _ =>
    unfold performPort
    rw [retire_connection]
    exact done_retire _

theorem performQueue_retire {slot : Nat} (other : ¬ (r = .queue ∧ k = slot)) (q : Queue)
    (o : QueueOperation) :
    (s.retire r k).performQueue slot q o = thenRetire r k (s.performQueue slot q o) := by
  cases o with
  | close =>
    simp only [performQueue, thenRetire, Program.pure_eq, bind_assoc, Program.done_bind,
      retire_set_queues other, retire_connection]
  | drop =>
    simp only [performQueue, thenRetire, Program.pure_eq, bind_assoc, Program.done_bind,
      retire_set_queues other, retire_connection]
  | _ =>
    unfold performQueue
    rw [retire_connection]
    exact done_retire _

theorem createPort_retire (filled : r = .port → k < s.ports.length) (name : String)
    (capability : PortCapabilities) (portType : PortType) :
    (s.retire r k).createPort name capability portType =
      thenRetire r k (s.createPort name capability portType) := by
  unfold createPort thenRetire
  rw [bind_assoc, retire_connection]
  congr 1
  funext result
  cases result with
  | ok p => simp only [Program.pure_eq, Program.done_bind, retire_append_ports filled,
      retire_connection, retire_ports_length]
  | error e => rfl

theorem createQueue_retire (filled : r = .queue → k < s.queues.length) (name : Option String) :
    (s.retire r k).createQueue name = thenRetire r k (s.createQueue name) := by
  unfold createQueue thenRetire
  rw [bind_assoc, retire_connection]
  congr 1
  funext result
  cases result with
  | ok q => simp only [Program.pure_eq, Program.done_bind, retire_append_queues filled,
      retire_connection, retire_queues_length]
  | error e => rfl

/-- What is not about the closed object, nor about everything, is done as before. -/
theorem perform_retire (bound : Nat) (hs : k < (s.holdings.shelf r).length) {operation : Operation}
    (hc : operation.isClose = false) (other : operation.isOn r k = false) :
    (s.retire r k).perform bound operation = thenRetire r k (s.perform bound operation) := by
  cases operation with
  | close => cases hc
  | createPort name capability portType =>
    have filled : r = .port → k < s.ports.length := by
      rintro rfl
      simpa [holdings] using hs
    exact createPort_retire filled name capability portType
  | createQueue name =>
    have filled : r = .queue → k < s.queues.length := by
      rintro rfl
      simpa [holdings] using hs
    exact createQueue_retire filled name
  | port slot o =>
    have hn : ¬ (r = .port ∧ k = slot) := by
      rintro ⟨rfl, rfl⟩
      simp [Operation.isOn] at other
    have same : (s.retire r k).port? slot = s.port? slot := by
      rcases s.port?_retire r k slot with same | ⟨hr, hk, -⟩
      · exact same
      · exact absurd ⟨hr, hk⟩ hn
    simp only [perform, same]
    exact withSlot_retire _ fun p => performPort_retire hn p o
  | queue slot o =>
    have hn : ¬ (r = .queue ∧ k = slot) := by
      rintro ⟨rfl, rfl⟩
      simp [Operation.isOn] at other
    have same : (s.retire r k).queue? slot = s.queue? slot := by
      rcases s.queue?_retire r k slot with same | ⟨hr, hk, -⟩
      · exact same
      · exact absurd ⟨hr, hk⟩ hn
    simp only [perform, same]
    exact withSlot_retire _ fun q => performQueue_retire hn q o
  | isClosed =>
    simp only [perform, retire_connection]
    rfl
  | clientId =>
    simp only [perform, retire_connection]
    rfl
  | tryInput =>
    simp only [perform, retire_connection]
    exact onlyBlocking_retire (report_retire _ _)
  | tryOutput direct event routing =>
    simp only [perform, retire_connection, route_retire]
    exact onlyBlocking_retire (withSlot_retire _ fun _ => report_retire _ _)
  | tryDrain =>
    simp only [perform, retire_connection]
    exact onlyBlocking_retire (report_retire _ _)
  | output direct event routing timeout =>
    simp only [perform, retire_connection, retire_mode, route_retire]
    exact withSlot_retire _ fun _ => report_retire _ _
  | poll interest timeout => exact onlyBlocking_retire (report_retire _ _)
  | nextClient previous =>
    simp only [perform, retire_connection]
    exact onlyBlocking_retire (report_retire _ _)
  | nextPort client previous =>
    simp only [perform, retire_connection]
    exact onlyBlocking_retire (report_retire _ _)
  | portInfo target =>
    cases target with
    | ref port =>
      simp only [perform, retire_connection]
      exact report_retire _ _
    | slot slot =>
      simp only [perform, retire_connection]
      rcases s.port?_retire r k slot with same | ⟨-, -, p, hp, hp'⟩
      · rw [same]
        exact withSlot_retire _ fun _ => report_retire _ _
      · rw [hp, hp']
        exact report_retire _ _
  | setPortInfo port info =>
    simp only [perform, retire_connection]
    exact onlyBlocking_retire (done_retire _)
  | clients =>
    simp only [perform, retire_connection, thenRetire, bind_assoc]
    rfl
  | ports client =>
    simp only [perform, retire_connection, thenRetire, bind_assoc]
    rfl
  | subscribe sender dest binding =>
    simp only [perform, retire_connection, options_retire]
    exact withSlot_retire _ fun _ => done_retire _
  | unsubscribe sender dest binding =>
    simp only [perform, retire_connection, options_retire]
    exact withSlot_retire _ fun _ => done_retire _
  | _ =>
    simp only [perform, retire_connection, retire_mode]
    first | exact done_retire _ | exact report_retire _ _

end Session

end MidiSequencer
