import MidiSequencer.Proofs.Conduct.Rules
import MidiSequencer.Proofs.Listing.Order

/-! # Questions of listings

A listing asks for next entries alone, and for which of them depends on the clients that its filter
accepts: filters that skip the same clients ask the same, whatever ports they accept. -/
namespace MidiSequencer

namespace Program

variable {Q : Type} {A : Q → Type} {α β γ δ σ : Type} {P : Q → Prop}

/-- Two programs that ask the same questions, all with the property `P`, whatever the answers are,
and end with values in the relation `R`. -/
inductive Alike (P : Q → Prop) (R : α → β → Prop) : Program Q A α → Program Q A β → Prop where
  | done {a : α} {b : β} (related : R a b) : Alike P R (.done a) (.done b)
  | ask {q : Q} {next : A q → Program Q A α} {next' : A q → Program Q A β} (allowed : P q)
      (rest : ∀ r, Alike P R (next r) (next' r)) : Alike P R (.ask q next) (.ask q next')
  | unfinished : Alike P R .unfinished .unfinished

variable {R : α → β → Prop} {S : γ → δ → Prop} {p : Program Q A α} {p' : Program Q A β}

theorem Alike.bind {f : α → Program Q A γ} {f' : β → Program Q A δ} (hp : Alike P R p p')
    (hf : ∀ a b, R a b → Alike P S (f a) (f' b)) : Alike P S (p >>= f) (p' >>= f') := by
  induction hp with
  | done related => exact hf _ _ related
  | ask allowed rest ih => exact .ask allowed ih
  | unfinished => exact .unfinished

theorem Alike.meets (hp : Alike P R p p') : p.Meets P fun _ => True := by
  induction hp with
  | done related => trivial
  | ask allowed rest ih => exact ⟨allowed, ih⟩
  | unfinished => trivial

theorem Alike.run (hp : Alike P R p p') (m : Machine Q A σ) (s : σ) :
    (p.run m s).2 = (p'.run m s).2 ∧ Option.Rel R (p.run m s).1 (p'.run m s).1 := by
  induction hp generalizing s with
  | done related => exact ⟨rfl, .some related⟩
  | ask allowed rest ih => exact ih _ _
  | unfinished => exact ⟨rfl, .none⟩

end Program

open Program (Alike)

inductive FailAlike {α β : Type} : Except Error α → Except Error β → Prop where
  | ok (a : α) (b : β) : FailAlike (.ok a) (.ok b)
  | error (e : Error) : FailAlike (.error e) (.error e)

def Request.Searches : Request → Prop
  | .call q => q.isNext = true
  | _ => False

/-- By induction on the steps that are granted. What was found before has no say in what is
asked. -/
theorem Enumeration.alike_fold {ι β γ : Type} {P : Request → Prop} {e : Enumeration ι}
    (he : ∀ previous, Alike P Eq (e.next previous).run (e.next previous).run)
    {visit : β → ι → Action β} {visit' : γ → ι → Action γ}
    (hv : ∀ b b' a, Alike P FailAlike (visit b a).run (visit' b' a).run) {steps : Nat}
    {cursor : Cursor} (hc : cursor.finished = false) (b : β) (b' : γ) :
    Alike P FailAlike (e.fold visit steps cursor b).run (e.fold visit' steps cursor b').run := by
  induction steps generalizing cursor b b' with
  | zero => exact .unfinished
  | succ steps ih =>
    rw [run_fold_succ hc, run_fold_succ hc]
    apply (he cursor.previous).bind
    rintro result _ rfl
    rcases result with err | (_ | a)
    · exact .done (.error err)
    · exact .done (.ok b b')
    · dsimp only
      rw [ExceptT.run_bind, ExceptT.run_bind]
      apply (hv b b' a).bind
      rintro _ _ (⟨b, b'⟩ | ⟨err⟩)
      · exact @ih { cursor with previous := e.previous a } hc b b'
      · exact .done (.error err)

namespace Connection

variable (c : Connection)

theorem searches_nextClient (previous : Previous) : Alike Request.Searches Eq
    (c.nextClient previous).run (c.nextClient previous).run := by
  cases hn : previous.inClients with
  | error err =>
    unfold nextClient
    rw [hn]
    exact .done rfl
  | ok n =>
    cases hc : c.isOpen with
    | false =>
      unfold nextClient Connection.call
      rw [hn, hc]
      exact .done rfl
    | true =>
      rw [run_nextClient hc hn]
      exact .ask rfl fun answer => .done rfl

theorem searches_nextPort (client : Int) (previous : Previous) : Alike Request.Searches Eq
    (c.nextPort client previous).run (c.nextPort client previous).run := by
  cases hn : previous.inPortsOf client with
  | error err =>
    unfold nextPort
    rw [hn]
    exact .done rfl
  | ok n =>
    cases hc : c.isOpen with
    | false =>
      unfold nextPort Connection.call
      rw [hn, hc]
      exact .done rfl
    | true =>
      rw [run_nextPort hc hn]
      exact .ask rfl fun answer => .done rfl

variable {f g : PortFilter} (same : ∀ client, f.acceptsClient client = g.acceptsClient client)
  (bound : Nat)
include same

theorem alike_collectPorts (found found' : List PortInfo) (client : ClientInfo) :
    Alike Request.Searches FailAlike (c.collectPorts f bound found client).run
      (c.collectPorts g bound found' client).run := by
  unfold collectPorts
  rw [same]
  split
  · exact Enumeration.alike_fold (c.searches_nextPort client.clientId)
      (fun _ _ _ => .done (.ok _ _)) rfl found found'
  · exact .done (.ok _ _)

theorem alike_allPorts : Alike Request.Searches FailAlike (c.allPorts f bound).run
    (c.allPorts g bound).run :=
  Enumeration.alike_fold c.searches_nextClient (c.alike_collectPorts same bound) rfl [] []

end Connection

theorem PortFilter.acceptsClient_congr {f g : PortFilter}
    (system : f.includeSystem = g.includeSystem)
    (through : f.includeMidiThrough = g.includeMidiThrough) (client : ClientInfo) :
    f.acceptsClient client = g.acceptsClient client := by
  unfold acceptsClient
  rw [system, through]

namespace Play

variable {σ χ : Type} (m : Simulator σ χ) (bound : Nat) (p : Play σ χ)

theorem perform_alike {f g : PortFilter}
    (same : ∀ client, f.acceptsClient client = g.acceptsClient client) (l l' : Listing) :
    (p.perform m bound (l.operation f)).2 = (p.perform m bound (l'.operation g)).2 ∧
      ∀ e, (p.perform m bound (l.operation f)).1 = some (.error e) ↔
        (p.perform m bound (l'.operation g)).1 = some (.error e) := by
  obtain ⟨scene, ends⟩ :=
    (p.session.connection.alike_allPorts same bound).run (Scene.answer m) p.scene
  simp only [perform_eq, l.perform_operation, l'.perform_operation, Session.arranged,
    Program.run_bind]
  generalize (p.session.connection.allPorts f bound).run.run (Scene.answer m) p.scene = r at *
  generalize (p.session.connection.allPorts g bound).run.run (Scene.answer m) p.scene = r' at *
  obtain ⟨o, s⟩ := r
  obtain ⟨o', s'⟩ := r'
  cases scene
  cases ends with
  | none => exact ⟨rfl, fun e => Iff.rfl⟩
  | some related =>
    cases related with
    | ok a b =>
      refine ⟨rfl, fun e => ?_⟩
      constructor <;> (intro failed; cases failed)
    | error err => exact ⟨rfl, fun e => Iff.rfl⟩

end Play

end MidiSequencer
