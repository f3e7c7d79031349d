import MidiSequencer.Proofs.Closing.Finality
import MidiSequencer.Proofs.Waiting.Agreement

/-! # Refusals

What exactly each operation answers on a closed connection. It answers that the connection is
closed, unless its own arguments cannot be used: a name with a nul inside and the place where an
enumeration goes on are looked at before the connection is. -/
namespace MidiSequencer

namespace Operation

def misuse : Operation → Option Misuse
  | .setClientName name => Misuse.ofName? name
  | .createPort name _ _ => Misuse.ofName? name
  | .createQueue (some name) => Misuse.ofName? name
  | .nextClient (.port _ _) => some .portForClientQuery
  | .nextPort client (.port owner _) =>
    if owner = client then none else some (.foreignPort owner client)
  | _ => none

/-- Enumerations yield the error, everything else answers it. -/
def failure (e : Error) : Operation → Outcome
  | .clients => .value (.clients [.error e])
  | .ports _ => .value (.ports [.error e])
  | _ => .error e

def refusal (operation : Operation) : Error :=
  (operation.misuse.map Error.usage).getD .closed

end Operation

theorem Operation.refusal_eq_closed_iff {operation : Operation} :
    operation.refusal = .closed ↔ operation.misuse = none := by
  unfold refusal
  cases operation.misuse <;> simp

/-! Dialogues of which the end is known although questions may be asked. -/

def Dialogue.Yields {α : Type} (a : α) : Program Request Request.Answer α → Prop
  | .done b => b = a
  | .unfinished => False
  | .ask q next => q.isCall = false ∧ ∀ answer, Yields a (next answer)

namespace Dialogue.Yields

variable {α β : Type} {a : α} {p : Dialogue α}

theorem bind {b : β} {f : α → Dialogue β} (hp : Yields a p) (hf : Yields b (f a)) :
    Yields b (p >>= f) := by
  induction p with
  | done x =>
    obtain rfl : x = a := hp
    exact hf
  | ask q next ih => exact ⟨hp.1, fun answer => ih answer (hp.2 answer)⟩
  | unfinished => exact hp.elim

theorem of_traces (hp : Yields a p) {h : Dialogue.History} {o : Option α}
    (ht : Program.Traces p h o) : Dialogue.calls h = [] ∧ o = some a := by
  induction ht with
  | done b => exact ⟨rfl, congrArg some hp⟩
  | unfinished => exact hp.elim
  | @ask q next answer h o _ ih =>
    obtain ⟨silent, ho⟩ := ih (hp.2 answer)
    cases q with
    | call c => cases hp.1
    | _ => exact ⟨silent, ho⟩

end Dialogue.Yields

def Action.Fails {α : Type} (e : Error) (a : Action α) : Prop :=
  Dialogue.Yields (.error e) a.run

namespace Action.Fails

variable {α β : Type} {e : Error}

theorem of_run {a : Action α} (h : a.run = .done (.error e)) : a.Fails e := by
  unfold Action.Fails
  rw [h]
  rfl

theorem bind {a : Action α} (ha : a.Fails e) (f : α → Action β) : (a >>= f).Fails e := by
  unfold Action.Fails
  rw [ExceptT.run_bind]
  exact Dialogue.Yields.bind ha rfl

theorem wait {attempt : Action α} (ha : attempt.run = .done (.error .closed)) (mode : Mode)
    (interest : Interest) (timeout : Option Duration) {n : Nat} (hn : n ≠ 0) :
    (Waiting.wait mode interest timeout attempt n).Fails .closed := by
  refine Waiting.wait_of_first (P := Dialogue.Yields (.error .closed)) ?_ ?_ mode interest timeout
    ?_
  · exact fun q next hq hn => ⟨hq, hn⟩
  · intro again
    unfold Waiting.round
    rw [ha]
    rfl
  · exact fun h => absurd h hn

end Action.Fails

namespace Enumeration

variable {ι β : Type} {e : Enumeration ι} {err : Error}

theorem yields_items (he : (e.next .start).Fails err) {n : Nat} (hn : 2 ≤ n) :
    Dialogue.Yields [.error err] (e.items n {}) := by
  obtain ⟨n, rfl⟩ : ∃ k, n = k + 1 + 1 := ⟨n - 2, by omega⟩
  rw [items_succ rfl]
  refine Dialogue.Yields.bind he ?_
  show Dialogue.Yields _ (e.items (n + 1) { previous := .start, finished := true } >>= _)
  rw [items_of_finished rfl]
  rfl

theorem fails_fold (he : (e.next .start).Fails err) (visit : β → ι → Action β) {n : Nat}
    (hn : n ≠ 0) (b : β) : (e.fold visit n {} b).Fails err := by
  obtain ⟨n, rfl⟩ : ∃ k, n = k + 1 := ⟨n - 1, by omega⟩
  unfold Action.Fails
  rw [run_fold_succ rfl]
  exact Dialogue.Yields.bind he rfl

end Enumeration

theorem Action.fails_misnamed {α : Type} {name : String} {f : String → Action α} {m : Misuse}
    (hm : Misuse.ofName? name = some m) : (liftM (checkName name) >>= f).Fails (.usage m) := by
  rw [checkName_eq, hm]
  rfl

theorem Action.fails_named {α : Type} {name : String} {f : String → Action α} {e : Error}
    (hn : Misuse.ofName? name = none) (hf : (f name).Fails e) :
    (liftM (checkName name) >>= f).Fails e := by
  rw [checkName_eq, hn]
  exact hf

/-- A name of a queue is optional, but is looked at first if there is one. -/
theorem Connection.fails_createQueue_misnamed {c : Connection} {name : String} {m : Misuse}
    (hm : Misuse.ofName? name = some m) : (c.createQueue (some name)).Fails (.usage m) := by
  unfold createQueue
  show Action.Fails _ (liftM ((checkName name).map some) >>= _)
  rw [checkName_eq, hm]
  rfl

namespace Connection

open MidiSequencer.Action

variable {c : Connection} (hc : c.isOpen = false)
include hc

theorem fails_command (q : Command) : (c.command q).Fails .closed :=
  .of_run (run_command_closed hc q)

theorem fails_execute (q : Command) : (c.execute q).Fails .closed :=
  (fails_command hc q).bind _

theorem fails_clientInfo (client : Int) : (c.clientInfo client).Fails .closed := by
  unfold clientInfo Connection.call
  rw [hc]
  rfl

theorem fails_portInfo (port : PortRef) : (c.portInfo port).Fails .closed :=
  .of_run (Session.portInfo_of_closed hc port)

theorem fails_createQueue {name : Option String}
    (hm : (Operation.createQueue name).misuse = none) : (c.createQueue name).Fails .closed := by
  cases name with
  | none => exact (fails_command hc (.allocQueue none)).bind _
  | some name =>
    have alloc := (fails_command hc (.allocQueue (some name))).bind
      fun status => return ({ id := status } : Queue)
    have named : Misuse.ofName? name = none := hm
    unfold createQueue
    show Fails _ (liftM ((checkName name).map some) >>= _)
    rw [checkName_eq, named]
    exact alloc

theorem fails_nextClient {previous : Previous}
    (hm : (Operation.nextClient previous).misuse = none) :
    (c.nextClient previous).Fails .closed := by
  unfold nextClient Connection.call
  rw [hc]
  cases previous with
  | port owner n => cases hm
  | _ => rfl

theorem fails_nextPort {client : Int} {previous : Previous}
    (hm : (Operation.nextPort client previous).misuse = none) :
    (c.nextPort client previous).Fails .closed := by
  unfold nextPort Connection.call
  rw [hc]
  cases previous with
  | port owner n =>
    obtain rfl : owner = client := by simpa [Operation.misuse] using hm
    simp only [Previous.inPortsOf, if_true]
    rfl
  | _ => rfl

theorem fails_listPorts (f : PortFilter) {steps : Nat} (hn : steps ≠ 0) :
    (c.listPorts f steps).Fails .closed :=
  ((Enumeration.fails_fold (e := c.clients) (fails_nextClient hc rfl) _ hn []).bind _)

theorem fails_listPortsBy (f : PortFilter) (le : PortInfo → PortInfo → Bool) {steps : Nat}
    (hn : steps ≠ 0) : (c.listPortsBy f le steps).Fails .closed :=
  ((Enumeration.fails_fold (e := c.clients) (fails_nextClient hc rfl) _ hn []).bind _)

end Connection

namespace Session

variable {s : Session} {bound : Nat}

theorem yields_report {α : Type} {f : α → Value} {a : Action α} {e : Error} (ha : a.Fails e) :
    Dialogue.Yields (.error e, s) (s.report f a) :=
  Dialogue.Yields.bind ha rfl

theorem yields_onlyBlocking {d : Dialogue (Outcome × Session)} {x : Outcome × Session}
    (hm : s.mode = .blocking) (hd : Dialogue.Yields x d) :
    Dialogue.Yields x (s.onlyBlocking d) := by
  unfold onlyBlocking
  rw [hm]
  exact hd

theorem yields_withSlot {α : Type} {slot : Option α} {f : α → Dialogue (Outcome × Session)}
    {x : Outcome × Session} (filled : slot.isSome = true)
    (hf : ∀ a, slot = some a → Dialogue.Yields x (f a)) :
    Dialogue.Yields x (s.withSlot slot f) := by
  obtain ⟨a, ha⟩ := Option.isSome_iff_exists.1 filled
  subst ha
  exact hf a rfl

/-- What a slot holds does not matter, and the state of the object does not either. -/
theorem yields_object {operation : Operation} (hc : s.connection.isOpen = false)
    (offered : s.offers operation = true) {r : Resource} {k : Nat} (on : operation.isOn r k = true)
    (he : operation.isEnding = false) (hg : operation.isGetter = false) :
    Dialogue.Yields (.error .closed, s) (s.perform bound operation) := by
  have retired : s.holdings.Retired r k := .inl hc
  have performed : (operation.isEnding = false ∧
      s.perform bound operation = .done (.error .closed, s)) ∨ (operation.isEnding = true ∧ _) :=
    perform_retired retired on offered hg
  rcases performed with ⟨-, refused⟩ | ⟨ends, -⟩
  · rw [refused]
    rfl
  · rw [he] at ends
    cases ends

/-- By cases of the operation: but for looking at its arguments, the first thing that each does is
to use the connection. -/
theorem yields_closed {operation : Operation} (hm : operation.misuse = none)
    (hc : s.connection.isOpen = false) (hb : 2 ≤ bound) (offered : s.offers operation = true)
    (he : operation.isEnding = false) (hg : operation.isGetter = false) :
    Dialogue.Yields (operation.failure .closed, s) (s.perform bound operation) := by
  have granted : bound ≠ 0 := by omega
  have execute (q : Command) : Dialogue.Yields (.error .closed, s)
      (s.done (s.connection.execute q)) :=
    yields_report (Connection.fails_execute hc q)
  cases operation with
  | close => cases he
  | isClosed => cases hg
  | clientId => cases hg
  | poll interest timeout => cases hg
  | port slot o =>
    exact yields_object (r := .port) (k := slot) hc offered (beq_self_eq_true slot) he hg
  | queue slot o =>
    exact yields_object (r := .queue) (k := slot) hc offered (beq_self_eq_true slot) he hg
  | setClientName name =>
    exact yields_report (Action.fails_named hm (Connection.fails_execute hc (.setClientName name)))
  | ownClientInfo => exact yields_report (Connection.fails_clientInfo hc _)
  | createPort name capability portType =>
    have create := (Connection.fails_command hc (.createPort name capability portType)).bind
      fun id => return ({ id, client := s.connection.clientId } : Port)
    exact Dialogue.Yields.bind (Action.fails_named hm create) rfl
  | createQueue name => exact Dialogue.Yields.bind (Connection.fails_createQueue hc hm) rfl
  | tryInput =>
    exact yields_onlyBlocking (of_decide_eq_true offered)
      (yields_report (.of_run (Connection.run_tryInput_closed hc)))
  | tryOutput direct event routing =>
    obtain ⟨blocking, routed⟩ := Bool.and_eq_true_iff.1 offered
    exact yields_onlyBlocking (of_decide_eq_true blocking)
      (yields_withSlot routed fun route _ => yields_report (Connection.fails_command hc _))
  | tryDrain =>
    exact yields_onlyBlocking (of_decide_eq_true offered)
      (yields_report (Connection.fails_command hc _))
  | input timeout =>
    exact yields_report (.wait (Connection.run_tryInput_closed hc) _ _ _ granted)
  | output direct event routing timeout =>
    exact yields_withSlot offered fun route _ =>
      yields_report (.wait (Connection.run_command_closed hc _) _ _ _ granted)
  | drain timeout =>
    exact yields_report (.wait (Connection.run_command_closed hc _) _ _ _ granted)
  | nextClient previous =>
    exact yields_onlyBlocking (of_decide_eq_true offered)
      (yields_report (Connection.fails_nextClient hc hm))
  | nextPort client previous =>
    exact yields_onlyBlocking (of_decide_eq_true offered)
      (yields_report (Connection.fails_nextPort hc hm))
  | clientInfo client => exact yields_report (Connection.fails_clientInfo hc client)
  | portInfo target =>
    cases target with
    | ref port => exact yields_report (Connection.fails_portInfo hc port)
    | slot slot =>
      exact yields_withSlot offered fun p _ => yields_report (Connection.fails_portInfo hc _)
  | setPortInfo port info =>
    exact yields_onlyBlocking (of_decide_eq_true offered) (execute _)
  | clients =>
    have items := Enumeration.yields_items (e := s.connection.clients)
      (Connection.fails_nextClient hc rfl) hb
    exact Dialogue.Yields.bind items rfl
  | ports client =>
    have items := Enumeration.yields_items (e := s.connection.ports client)
      (Connection.fails_nextPort hc rfl) hb
    exact Dialogue.Yields.bind items rfl
  | listPorts filter => exact yields_report (Connection.fails_listPorts hc filter granted)
  | listPortsBy filter le =>
    exact yields_report (Connection.fails_listPortsBy hc filter le granted)
  | subscribe sender dest binding => exact yields_withSlot offered fun options _ => execute _
  | unsubscribe sender dest binding => exact yields_withSlot offered fun options _ => execute _
  | _ => exact execute _

theorem yields_misuse {operation : Operation} {m : Misuse} (hm : operation.misuse = some m)
    (offered : s.offers operation = true) :
    Dialogue.Yields (.error (.usage m), s) (s.perform bound operation) := by
  cases operation with
  | setClientName name => exact yields_report (Action.fails_misnamed hm)
  | createPort name capability portType => exact Dialogue.Yields.bind (Action.fails_misnamed hm) rfl
  | createQueue name =>
    cases name with
    | none => cases hm
    | some name => exact Dialogue.Yields.bind (Connection.fails_createQueue_misnamed hm) rfl
  | nextClient previous =>
    refine yields_onlyBlocking (of_decide_eq_true offered) (yields_report ?_)
    cases previous with
    | port owner n =>
      cases hm
      exact rfl
    | _ => cases hm
  | nextPort client previous =>
    refine yields_onlyBlocking (of_decide_eq_true offered) (yields_report ?_)
    cases previous with
    | port owner n =>
      by_cases own : owner = client
      · simp [Operation.misuse, own] at hm
      · obtain rfl : Misuse.foreignPort owner client = m := by
          simpa [Operation.misuse, own] using hm
        unfold Connection.nextPort
        simp only [Previous.inPortsOf, if_neg own]
        exact rfl
    | _ => cases hm
  | _ => cases hm

theorem yields_refusal {operation : Operation} (hc : s.connection.isOpen = false) (hb : 2 ≤ bound)
    (offered : s.offers operation = true) (he : operation.isEnding = false)
    (hg : operation.isGetter = false) :
    Dialogue.Yields (operation.failure operation.refusal, s) (s.perform bound operation) := by
  unfold Operation.refusal
  cases hm : operation.misuse with
  | none => exact yields_closed hm hc hb offered he hg
  | some m =>
    have misused : operation.failure (.usage m) = .error (.usage m) := by
      cases operation <;> first | rfl | cases hm
    show Dialogue.Yields (operation.failure (.usage m), s) _
    rw [misused]
    exact yields_misuse hm offered

end Session

structure Operation.RefusedWhenClosed (operation : Operation) : Prop where
  /-- Whatever is answered, it calls nothing, leaves the session as it is, and ends with its
  refusal. -/
  answer (s : Session) (bound : Nat) (h : Dialogue.History) (result : Option (Outcome × Session)) :
    s.connection.isOpen = false → 2 ≤ bound → s.offers operation = true →
    operation.isEnding = false → operation.isGetter = false →
    Program.Traces (s.perform bound operation) h result →
    Dialogue.calls h = [] ∧ result = some (operation.failure operation.refusal, s)
  /-- So it does at every moment of a run in which the connection was closed before. -/
  outcome {σ χ : Type} (m : Simulator σ χ) (bound : Nat) (p : Play σ χ) (steps : List (Step χ))
    (step : Step χ) : 2 ≤ bound → p.session.connection.isOpen = false →
    let q := (p.run m bound steps).2
    step.Performs q.session operation → q.session.offers operation = true →
    operation.isEnding = false → operation.isGetter = false →
    (q.step m bound step).1 = some (operation.failure operation.refusal)
  closed : operation.refusal = .closed ↔ operation.misuse = none
  /-- Arguments that cannot be used are refused in the same words on an open connection. -/
  misused (s : Session) (bound : Nat) (m : Misuse) (h : Dialogue.History)
    (result : Option (Outcome × Session)) : operation.misuse = some m →
    s.offers operation = true → Program.Traces (s.perform bound operation) h result →
    Dialogue.calls h = [] ∧ result = some (.error (.usage m), s)
  /-- No suspending client, which could perform it, is made of a closed connection. -/
  start (c : Connection) : c.isOpen = false → Session.start .suspending c = .error .closed

theorem refused_when_closed (operation : Operation) : operation.RefusedWhenClosed where
  answer s bound h result hc hb offered he hg ht :=
    (Session.yields_refusal hc hb offered he hg).of_traces ht
  outcome m bound p steps step hb hc := by
    intro q asked offered he hg
    have open_ : ∀ step ∈ steps, step.Within fun _ => True := fun step _ => step.within_true
    obtain ⟨closed, -, within⟩ := Play.run_closed m bound open_ p.scene.within_true hc
    obtain ⟨h, result, ht, ho, -, -⟩ := Play.step_performs m bound within step.within_true asked
    obtain ⟨-, rfl⟩ := (Session.yields_refusal closed hb offered he hg).of_traces ht
    exact ho
  closed := Operation.refusal_eq_closed_iff
  misused s bound m h result hm offered ht := (Session.yields_misuse hm offered).of_traces ht
  start c hc := if_pos ⟨rfl, hc⟩

/-- A connection that was closed before is not what a name with a nul is refused for. -/
theorem refused_when_closed_misnamed :
    let p : Play Rehearsal Rehearsal.Change :=
      { session := { mode := .blocking, connection := { clientId := 128 } }
        scene := { sequencer := { store := Store.initial 128 } } }
    let name := .setClientName "a\x00b"
    (p.run Rehearsal.simulator 2 [.perform .close, .perform name]).1 =
      [some (.value .unit), some (.error (.usage .interiorNul))] :=
  rfl

end MidiSequencer
