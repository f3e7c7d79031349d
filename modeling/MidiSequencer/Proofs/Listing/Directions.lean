import MidiSequencer.Proofs.Listing.Order
import MidiSequencer.Proofs.Listing.Reports

/-! # Directions of listings

A listing for both directions is the one for none, and it has what the listings for one direction
have together. A listing for one direction has no port that cannot do it. -/
namespace MidiSequencer

def PortFilter.directed (f : PortFilter) (input output : Bool) : PortFilter :=
  { f with input, output }

namespace PortFilter

variable (f : PortFilter) (p : PortInfo)

theorem acceptsPort_both :
    (f.directed true true).acceptsPort p = (f.directed false false).acceptsPort p := rfl

theorem acceptsPort_either : (f.directed true true).acceptsPort p = true ↔
    (f.directed true false).acceptsPort p = true ∨
      (f.directed false true).acceptsPort p = true := by
  simp only [acceptsPort, directed, acceptsDirection, readable, writable, Bool.and_eq_true,
    Bool.or_eq_true, and_or_left]

variable {p}

theorem can_of_input (hp : (f.directed true false).acceptsPort p = true) :
    p.Can 0 ∧ (f.onlyConnectable = true → p.Can 5) := by
  have direction := (Bool.and_eq_true_iff.1 hp).2
  exact acceptsDirection_iff.1 direction

theorem can_of_output (hp : (f.directed false true).acceptsPort p = true) :
    p.Can 1 ∧ (f.onlyConnectable = true → p.Can 6) := by
  have direction := (Bool.and_eq_true_iff.1 hp).2
  exact acceptsDirection_iff.1 direction

end PortFilter

namespace Store

variable (s : Store) (f : PortFilter)

theorem mem_listed {q : PortInfo} : q ∈ s.listed f ↔
    ∃ c ∈ ascent ClientInfo.clientId (-1) s.clients, f.acceptsClient c = true ∧
      ∃ p ∈ s.portsOf c.clientId, f.acceptsPort p = true ∧ { p with clientName := c.name } = q := by
  rw [listed, List.mem_flatMap]
  refine exists_congr fun c => and_congr_right fun _ => ?_
  unfold listedOf
  split
  · next accepted => simp [accepted, and_assoc]
  · next refused => simp [refused]

theorem mem_listed_both {q : PortInfo} : q ∈ s.listed (f.directed true true) ↔
    q ∈ s.listed (f.directed true false) ∨ q ∈ s.listed (f.directed false true) := by
  simp only [mem_listed, PortFilter.acceptsPort_either]
  constructor
  · rintro ⟨c, hc, accepted, p, hp, input | output, same⟩
    · exact .inl ⟨c, hc, accepted, p, hp, input, same⟩
    · exact .inr ⟨c, hc, accepted, p, hp, output, same⟩
  · rintro (⟨c, hc, accepted, p, hp, input, same⟩ | ⟨c, hc, accepted, p, hp, output, same⟩)
    · exact ⟨c, hc, accepted, p, hp, .inl input, same⟩
    · exact ⟨c, hc, accepted, p, hp, .inr output, same⟩

end Store

def Action.Returns {α : Type} (R : α → Prop) (a : Action α) : Prop :=
  a.run.Meets (fun _ => True) fun result => ∀ v, result = .ok v → R v

namespace Action

variable {α β : Type} {R : α → Prop} {S : β → Prop}

theorem returns_true (a : Action α) : Returns (fun _ => True) a := by
  unfold Returns
  induction a.run with
  | done result => exact fun _ _ => trivial
  | ask q next ih => exact ⟨trivial, ih⟩
  | unfinished => trivial

theorem returns_pure {v : α} (hv : R v) : Returns R (pure v) := by
  rintro w ⟨⟩
  exact hv

theorem Returns.bind {a : Action α} {f : α → Action β} (ha : Returns R a)
    (hf : ∀ v, R v → Returns S (f v)) : Returns S (a >>= f) := by
  unfold Returns
  rw [ExceptT.run_bind]
  refine Program.Meets.bind ha fun result hr => ?_
  cases result with
  | ok v => exact hf v (hr v rfl)
  | error e =>
    rintro v ⟨⟩

end Action

theorem Enumeration.returns_fold {ι β : Type} {e : Enumeration ι} {visit : β → ι → Action β}
    {R : β → Prop} (hv : ∀ b a, R b → (visit b a).Returns R) {steps : Nat} {cursor : Cursor}
    (hc : cursor.finished = false) {b : β} (hb : R b) :
    Action.Returns R (e.fold visit steps cursor b) := by
  induction steps generalizing cursor b with
  | zero => trivial
  | succ steps ih =>
    unfold Action.Returns
    rw [run_fold_succ hc]
    refine Program.Meets.bind (Action.returns_true _) fun result _ => ?_
    rcases result with err | (_ | a)
    · rintro v ⟨⟩
    · rintro v ⟨⟩
      exact hb
    · exact (hv b a hb).bind fun b' hb' => @ih { cursor with previous := e.previous a } hc b' hb'

namespace Connection

variable (c : Connection) (f : PortFilter) (bound : Nat)

theorem returns_allPorts :
    (c.allPorts f bound).Returns fun found => ∀ q ∈ found, f.acceptsPort q = true := by
  refine Enumeration.returns_fold (fun found client accepted => ?_) rfl (by simp)
  unfold collectPorts
  split
  · refine Enumeration.returns_fold (fun found p accepted => ?_) rfl accepted
    apply Action.returns_pure
    split
    · next passed =>
      intro q hq
      rcases List.mem_append.1 hq with before | new
      · exact accepted q before
      · obtain rfl := List.mem_singleton.1 new
        exact passed
    · exact accepted
  · exact Action.returns_pure accepted

theorem allPorts_congr {g : PortFilter} (clients : f.acceptsClient = g.acceptsClient)
    (ports : f.acceptsPort = g.acceptsPort) : c.allPorts f bound = c.allPorts g bound := by
  unfold allPorts collectPorts
  rw [clients, ports]

end Connection

namespace Play

variable {σ χ : Type} (m : Simulator σ χ) (bound : Nat) (p : Play σ χ) (f : PortFilter)

theorem perform_both (l : Listing) :
    p.perform m bound (l.operation (f.directed true true)) =
      p.perform m bound (l.operation (f.directed false false)) := by
  have same : p.session.connection.allPorts (f.directed true true) bound =
      p.session.connection.allPorts (f.directed false false) bound :=
    p.session.connection.allPorts_congr _ bound rfl (funext f.acceptsPort_both)
  have arranged : l.arrange (f.directed true true) = l.arrange (f.directed false false) := by
    cases l <;> rfl
  simp only [perform_eq, l.perform_operation, Session.arranged, same, arranged]

theorem acceptsPort_of_listing (l : Listing) {found : List PortInfo}
    (h : (p.perform m bound (l.operation f)).1 = some (.value (.listing found))) :
    ∀ q ∈ found, f.acceptsPort q = true := by
  rw [perform_eq, l.perform_operation] at h
  obtain ⟨t, ht⟩ := Program.exists_traces_run (Scene.answer m)
    (p.session.arranged f bound (l.arrange f)) p.scene
  obtain ⟨⟨o, session⟩, ended, rfl⟩ := Option.map_eq_some_iff.1 h
  rw [ended] at ht
  have meets : (p.session.arranged f bound (l.arrange f)).Meets (fun _ => True) fun x =>
      ∀ found, x.1 = .value (.listing found) → ∀ q ∈ found, f.acceptsPort q = true := by
    refine Program.Meets.bind (p.session.connection.returns_allPorts f bound)
      fun result accepted => ?_
    cases result with
    | error e =>
      rintro found ⟨⟩
    | ok found =>
      rintro _ ⟨⟩ q hq
      exact accepted found rfl q ((l.mem_arrange f).1 hq)
  exact meets.value ht found rfl

theorem perform_listing_of_searched {I : Scene σ χ → Prop} {store : Store}
    (hs : Searched (Scene.answer m) I store) (hp : I p.scene)
    (hc : p.session.connection.isOpen = true) (clients : store.clients.length < bound)
    (ports : store.ports.length < bound) (l : Listing) :
    (p.perform m bound (l.operation f)).1 =
      some (.value (.listing (l.arrange f (store.listed f)))) := by
  have finds := Connection.yields_allPorts hs hc clients ports f
  have performs : Program.Yields (Scene.answer m) I (p.session.perform bound (l.operation f))
      (.value (.listing (l.arrange f (store.listed f))), p.session) := by
    rw [l.perform_operation]
    exact finds.bind (Program.yields_done _)
  rw [perform_eq]
  exact congrArg (Option.map Prod.fst) (performs p.scene hp).1

end Play

/-- The listings of a filter that is turned to both directions, to none, to input alone and to
output alone: the first two are the same, element by element, and they have what the others have
together. -/
def UnitesDirections (lists : PortFilter → Option Outcome) (f : PortFilter) : Prop :=
  ∃ either inputs outputs,
    lists (f.directed true true) = some (.value (.listing either)) ∧
    lists (f.directed false false) = some (.value (.listing either)) ∧
    lists (f.directed true false) = some (.value (.listing inputs)) ∧
    lists (f.directed false true) = some (.value (.listing outputs)) ∧
    ∀ q, q ∈ either ↔ q ∈ inputs ∨ q ∈ outputs

theorem Play.unitesDirections_of_searched {σ χ : Type} {m : Simulator σ χ} {I : Scene σ χ → Prop}
    {store : Store} (hs : Searched (Scene.answer m) I store) {p : Play σ χ} (hp : I p.scene)
    (hc : p.session.connection.isOpen = true) {bound : Nat}
    (clients : store.clients.length < bound) (ports : store.ports.length < bound) (l : Listing)
    (f : PortFilter) : UnitesDirections (fun g => (p.perform m bound (l.operation g)).1) f := by
  have listing (g : PortFilter) := p.perform_listing_of_searched m bound g hs hp hc clients ports l
  refine ⟨_, _, _, listing _, ?_, listing _, listing _, fun q => ?_⟩
  · show (p.perform m bound (l.operation (f.directed false false))).1 = _
    rw [← perform_both]
    exact listing _
  · simp only [l.mem_arrange]
    exact store.mem_listed_both f

structure DirectionsCombined : Prop where
  /-- Whatever the sequencer is and answers, a listing for both directions is the one for none, and
  leaves the same behind. -/
  both {σ χ : Type} (m : Simulator σ χ) (bound : Nat) (p : Play σ χ) (l : Listing)
    (f : PortFilter) : p.perform m bound (l.operation (f.directed true true)) =
      p.perform m bound (l.operation (f.directed false false))
  /-- For all tables of a store there are these listings, and it unites those for one direction. -/
  union (bound : Nat) (p : Play Rehearsal Rehearsal.Change) (l : Listing) (f : PortFilter) :
    p.CanList bound →
    UnitesDirections (fun g => (p.perform Rehearsal.simulator bound (l.operation g)).1) f
  served (bound : Nat) (p : Play Native.Rehearsal Native.Rehearsal.Change) (l : Listing)
    (f : PortFilter) : Native.CanList p bound →
    UnitesDirections (fun g => (p.perform Native.Rehearsal.simulator bound (l.operation g)).1) f
  /-- No listing for input alone has a port that cannot be read, or subscribed to for reading where
  this is asked for. -/
  input {σ χ : Type} (m : Simulator σ χ) (bound : Nat) (p : Play σ χ) (l : Listing)
    (f : PortFilter) (found : List PortInfo) :
    (p.perform m bound (l.operation (f.directed true false))).1 = some (.value (.listing found)) →
    ∀ q ∈ found, q.Can 0 ∧ (f.onlyConnectable = true → q.Can 5)
  output {σ χ : Type} (m : Simulator σ χ) (bound : Nat) (p : Play σ χ) (l : Listing)
    (f : PortFilter) (found : List PortInfo) :
    (p.perform m bound (l.operation (f.directed false true))).1 = some (.value (.listing found)) →
    ∀ q ∈ found, q.Can 1 ∧ (f.onlyConnectable = true → q.Can 6)

/-- Directions combine as a union. -/
theorem directions_combined : DirectionsCombined where
  both m bound p l f := p.perform_both m bound f l
  union bound p l f := by
    intro hp
    exact Play.unitesDirections_of_searched (Rehearsal.searched p.scene.sequencer.store)
      ⟨rfl, hp.script⟩ hp.isOpen hp.clients hp.ports l f
  served bound p l f := by
    intro hp
    refine Play.unitesDirections_of_searched
      (Native.Rehearsal.searched p.scene.sequencer.tables.kernel.store) ⟨rfl, hp.script⟩
      hp.isOpen ?_ ?_ l f
    · simpa [Native.Kernel.store] using hp.clients
    · simpa [Native.Kernel.store] using hp.ports
  input m bound p l f found := by
    intro h q hq
    exact PortFilter.can_of_input f (p.acceptsPort_of_listing m bound _ l h q hq)
  output m bound p l f found := by
    intro h q hq
    exact PortFilter.can_of_output f (p.acceptsPort_of_listing m bound _ l h q hq)

/-- A port to read, one to write and one for both, in a store and in native tables. -/
theorem directions_combined_closed :
    let store : Store :=
      { clientId := 128
        clients := [{ clientId := 20, name := "Synth" }]
        ports := [{ clientId := 20, portId := 0, capability := .readPort, portType := ⟨0x2⟩ },
          { clientId := 20, portId := 1, capability := .writePort, portType := ⟨0x2⟩ },
          { clientId := 20, portId := 2, capability := ⟨0x63⟩, portType := ⟨0x2⟩ }] }
    let kernel : Native.Kernel :=
      { clients := [{ client := 20 }]
        ports := [{ client := 20, port := 1, capability := 0x42, type := 0x2 },
          { client := 20, port := 0, capability := 0x21, type := 0x2 }] }
    let session : Session := { mode := .blocking, connection := { clientId := 128 } }
    let p : Play Rehearsal Rehearsal.Change := { session, scene := { sequencer := { store } } }
    let q : Play Native.Rehearsal Native.Rehearsal.Change :=
      { session, scene := { sequencer := { tables := { kernel } } } }
    let f : PortFilter := { sort := false }
    let arranged (g : PortFilter) := Listing.byFilter.arrange g (store.listed g)
    let inputs := arranged (f.directed true false)
    let outputs := arranged (f.directed false true)
    (p.CanList 4 ∧ Native.CanList q 3 ∧ inputs.map PortInfo.portId = [0, 2] ∧
      outputs.map PortInfo.portId = [1, 2]) ∧
      p.perform Rehearsal.simulator 4 (.listPorts (f.directed true true)) =
        p.perform Rehearsal.simulator 4 (.listPorts (f.directed false false)) ∧
      UnitesDirections (fun g => (p.perform Rehearsal.simulator 4 (.listPorts g)).1) f ∧
      UnitesDirections (fun g => (q.perform Native.Rehearsal.simulator 3 (.listPorts g)).1) f ∧
      (∀ r ∈ inputs, r.Can 0 ∧ (f.onlyConnectable = true → r.Can 5)) ∧
      ∀ r ∈ outputs, r.Can 1 ∧ (f.onlyConnectable = true → r.Can 6) := by
  intro store kernel session p q f arranged inputs outputs
  have canList : p.CanList 4 :=
    { isOpen := rfl
      script := fun row member => by cases member
      clients := by decide
      ports := by decide }
  have canList' : Native.CanList q 3 :=
    { isOpen := rfl
      script := fun row member => by cases member
      clients := by decide
      ports := by decide }
  have listing (g : PortFilter) := p.perform_listing_of_searched Rehearsal.simulator 4 g
    (Rehearsal.searched store) ⟨rfl, canList.script⟩ rfl canList.clients canList.ports .byFilter
  exact ⟨⟨canList, canList', by decide, by decide⟩,
    directions_combined.both Rehearsal.simulator 4 p .byFilter f,
    directions_combined.union 4 p .byFilter f canList,
    directions_combined.served 3 q .byFilter f canList',
    directions_combined.input Rehearsal.simulator 4 p .byFilter f inputs (listing _),
    directions_combined.output Rehearsal.simulator 4 p .byFilter f outputs (listing _)⟩

end MidiSequencer
