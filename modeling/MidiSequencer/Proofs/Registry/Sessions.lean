import MidiSequencer.Proofs.Opening.Runs
import MidiSequencer.Proofs.Passages
import MidiSequencer.Proofs.Registry.Mirrors
import MidiSequencer.Proofs.Registry.Operations
import MidiSequencer.Proofs.Resources.Sessions

/-! # What sessions register

A session on a sequencer in memory owns the ports in its slots: they have different numbers, and
each is there until it is closed. With this the tables mirror what the operations of a run have
registered, from the opening to the end. -/
namespace MidiSequencer

open Registration Rehearsal

namespace Session

/-- The ports in the slots have different numbers, and an open one is there. -/
structure Owns (s : Session) (t : Store) : Prop where
  clientId : s.connection.clientId = t.clientId
  owned {slot : Nat} {p : Port} : s.port? slot = some p →
    p.client = t.clientId ∧ 0 ≤ p.id ∧ p.id < t.nextPort
  distinct {i j : Nat} {p q : Port} : s.port? i = some p → s.port? j = some q →
    p.id = q.id → i = j
  found {slot : Nat} {p : Port} : s.connection.isOpen = true → s.port? slot = some p →
    p.isClosed = false → (t.port? t.clientId p.id).isSome = true

variable {s s' : Session} {t t' : Store} {regs : List Registration}

theorem port?_of_append {p : Port} (h : s'.ports = s.ports ++ [some p]) (slot : Nat) :
    s'.port? slot = if slot = s.ports.length then some p else s.port? slot := by
  unfold port?
  rw [h, List.getElem?_append]
  split
  · next inside => rw [if_neg (Nat.ne_of_lt inside)]
  · next behind =>
    split
    · next last => simp [last]
    · next past =>
      have before : s.ports.length ≤ slot := Nat.not_lt.1 behind
      have far : 1 ≤ slot - s.ports.length := by omega
      rw [List.getElem?_eq_none before, List.getElem?_eq_none far]

theorem port?_of_set {k : Nat} {p : Port} {place : Option Port} (held : s.port? k = some p)
    (h : s'.ports = s.ports.set k place) (slot : Nat) :
    s'.port? slot = if slot = k then place else s.port? slot := by
  have inside : k < s.ports.length := by
    unfold port? at held
    exact (List.getElem?_eq_some_iff.1 (Option.join_eq_some_iff.1 held)).1
  unfold port?
  rw [h, List.getElem?_set]
  by_cases here : k = slot
  · rw [if_pos here, if_pos (here ▸ inside), if_pos here.symm]
    rfl
  · rw [if_neg here, if_neg (Ne.symm here)]

theorem exists_slot_of_mem {p : Port} (h : some p ∈ s.ports) :
    ∃ slot, s.port? slot = some p := by
  obtain ⟨slot, there⟩ := List.mem_iff_getElem?.1 h
  exact ⟨slot, Option.join_eq_some_iff.2 there⟩

theorem Owns.known (ho : s.Owns t) (hs : s.Shifts regs s') {port : Int}
    (deleted : .deleted port ∈ regs) : port < t.nextPort := by
  have below {p : Port} (there : some p ∈ s.ports) : p.id < t.nextPort := by
    obtain ⟨slot, held⟩ := exists_slot_of_mem there
    exact (ho.owned held).2.2
  cases hs with
  | keeps ports connection others =>
    rcases others _ deleted with ⟨name, h⟩ | ⟨n, info, h⟩ <;> cases h
  | makes p ports connection client => cases List.mem_singleton.1 deleted
  | ends slot p place held left ports connection =>
    obtain ⟨q, member, h⟩ := mem_deletions deleted
    cases h
    rw [List.mem_singleton, Option.some.injEq] at member
    exact member ▸ (ho.owned held).2.2
  | closes ports connection known =>
    obtain ⟨p, member, h⟩ := known _ deleted
    cases h
    exact below member

theorem Owns.found_again (ho : s.Owns t) (hr : t.Registers regs t') {slot : Nat} {p : Port}
    (isOpen : s.connection.isOpen = true) (held : s.port? slot = some p)
    (open_ : p.isClosed = false) (kept : .deleted p.id ∉ regs) :
    (t'.port? t'.clientId p.id).isSome = true := by
  rw [hr.clientId, hr.port?]
  exact settled_isSome kept (ho.found isOpen held open_)

theorem Owns.owned_later (ho : s.Owns t) (hr : t.Registers regs t') {slot : Nat} {p : Port}
    (held : s.port? slot = some p) : p.client = t'.clientId ∧ 0 ≤ p.id ∧ p.id < t'.nextPort := by
  obtain ⟨client, nonneg, below⟩ := ho.owned held
  exact ⟨client.trans hr.clientId.symm, nonneg, Int.lt_of_lt_of_le below hr.nextPort⟩

theorem Owns.keeps (ho : s.Owns t) (hr : t.Registers regs t') (ports : s'.ports = s.ports)
    (connection : s'.connection = s.connection) (kept : ∀ port, .deleted port ∉ regs) :
    s'.Owns t' := by
  have same (slot : Nat) : s'.port? slot = s.port? slot := by rw [port?, ports, port?]
  constructor
  · rw [connection, hr.clientId, ho.clientId]
  · exact fun held => ho.owned_later hr (same _ ▸ held)
  · exact fun hi hj => ho.distinct (same _ ▸ hi) (same _ ▸ hj)
  · intro slot p isOpen held open_
    exact ho.found_again hr (connection ▸ isOpen) (same _ ▸ held) open_ (kept _)

theorem Owns.makes {name : String} {capability : PortCapabilities} {portType : PortType} {p : Port}
    (ho : s.Owns t) (ht : 0 ≤ t.nextPort)
    (hr : t.Registers [.created p.id name capability portType] t')
    (ports : s'.ports = s.ports ++ [some p]) (connection : s'.connection = s.connection)
    (client : p.client = s.connection.clientId) : s'.Owns t' := by
  have slots := port?_of_append ports
  obtain ⟨fresh, below⟩ := hr.created _ _ _ _ (.head _)
  have other {slot : Nat} {q : Port} (held : s.port? slot = some q) : q.id ≠ p.id :=
    Int.ne_of_lt (Int.lt_of_lt_of_le (ho.owned held).2.2 fresh)
  constructor
  · rw [connection, hr.clientId, ho.clientId]
  · intro slot q held
    rw [slots] at held
    split at held
    · cases held
      rw [client, hr.clientId, ho.clientId]
      exact ⟨rfl, Int.le_trans ht fresh, below⟩
    · exact ho.owned_later hr held
  · intro i j q q' hi hj same
    rw [slots] at hi hj
    split at hi <;> split at hj
    · next last last' => exact last.trans last'.symm
    · cases hi
      exact absurd same.symm (other hj)
    · cases hj
      exact absurd same (other hi)
    · exact ho.distinct hi hj same
  · intro slot q isOpen held open_
    rw [slots] at held
    split at held
    · cases held
      rw [hr.clientId, hr.port?, settled_singleton,
        if_pos (by simp [concerns, Registration.port?])]
      rfl
    · exact ho.found_again hr (connection ▸ isOpen) held open_ (by simp)

theorem Owns.ends {k : Nat} {p : Port} {place : Option Port} (ho : s.Owns t)
    (hr : t.Registers (s.deletions [some p]) t') (held : s.port? k = some p)
    (left : place = none ∨ place = some { p with isClosed := true })
    (ports : s'.ports = s.ports.set k place) (connection : s'.connection = s.connection) :
    s'.Owns t' := by
  have slots := port?_of_set held ports
  have still {slot : Nat} {q : Port} (h : s'.port? slot = some q) :
      ∃ q', s.port? slot = some q' ∧ q'.id = q.id ∧ q'.client = q.client ∧
        (q.isClosed = false → q = q' ∧ slot ≠ k) := by
    rw [slots] at h
    split at h
    · next here =>
      rcases left with rfl | rfl
      · cases h
      · cases h
        exact ⟨p, here ▸ held, rfl, rfl, nofun⟩
    · next elsewhere => exact ⟨q, h, rfl, rfl, fun _ => ⟨rfl, elsewhere⟩⟩
  constructor
  · rw [connection, hr.clientId, ho.clientId]
  · intro slot q h
    obtain ⟨q', held', id, client, -⟩ := still h
    rw [← id, ← client]
    exact ho.owned_later hr held'
  · intro i j q q' hi hj same
    obtain ⟨_, hi, id, -⟩ := still hi
    obtain ⟨_, hj, id', -⟩ := still hj
    exact ho.distinct hi hj (id.trans (same.trans id'.symm))
  · intro slot q isOpen h open_
    obtain ⟨q', held', -, -, kept⟩ := still h
    obtain ⟨rfl, elsewhere⟩ := kept open_
    refine ho.found_again hr (connection ▸ isOpen) held' open_ fun deleted => ?_
    obtain ⟨_, member, gone⟩ := mem_deletions deleted
    rw [List.mem_singleton, Option.some.injEq] at member
    exact elsewhere (ho.distinct held' held (member ▸ Registration.deleted.inj gone))

theorem Owns.closes (ho : s.Owns t) (hr : t.Registers regs t')
    (ports : s'.ports = s.ports ∨ s'.ports = [])
    (connection : s'.connection = { s.connection with isOpen := false }) : s'.Owns t' := by
  have same {slot : Nat} {p : Port} (h : s'.port? slot = some p) : s.port? slot = some p := by
    unfold port? at h ⊢
    rcases ports with ports | ports
    · rw [← ports]
      exact h
    · simp [ports] at h
  constructor
  · rw [connection, hr.clientId, ho.clientId]
  · exact fun h => ho.owned_later hr (same h)
  · exact fun hi hj => ho.distinct (same hi) (same hj)
  · intro slot p isOpen
    rw [connection] at isOpen
    cases isOpen

theorem Owns.shifts (ho : s.Owns t) (ht : 0 ≤ t.nextPort) (hs : s.Shifts regs s')
    (hr : t.Registers regs t') : s'.Owns t' := by
  cases hs with
  | keeps ports connection others =>
    refine ho.keeps hr ports connection fun port deleted => ?_
    rcases others _ deleted with ⟨name, h⟩ | ⟨n, info, h⟩ <;> cases h
  | makes p ports connection client => exact ho.makes ht hr ports connection client
  | ends k p place held left ports connection => exact ho.ends hr held left ports connection
  | closes ports connection deleted => exact ho.closes hr ports connection

theorem finish_registers {h : Dialogue.History} {o : Option Session}
    (ht : Program.Traces s.finish h o) :
    Call.registrations (Dialogue.calls h) = s.deletions s.ports := by
  obtain ⟨deeds, -⟩ := s.does_finish h o ht
  rw [registrations_of_deeds (finish_names ht), deeds, deletions_of_closing]

end Session

def Step.registrations {χ : Type} (step : Step χ) (s : Session) (outcome : Option Outcome) :
    List Registration :=
  match step with
  | .perform operation => s.registrations operation outcome
  | .performDuring operation _ =>
    match s.mode with
    | .blocking => []
    | .suspending => s.registrations operation outcome
  | .happen _ => []

namespace Step

variable {χ : Type} {step : Step χ} {s : Session} {outcome : Option Outcome}

theorem registrations_of_performs {operation : Operation} (h : step.Performs s operation) :
    step.registrations s outcome = s.registrations operation outcome := by
  cases step with
  | perform o =>
    cases h
    rfl
  | performDuring o incidents =>
    obtain ⟨mode, rfl⟩ := h
    simp only [registrations, mode]
  | happen i => cases h

theorem registrations_of_idle (h : ∀ operation, ¬ step.Performs s operation) :
    step.registrations s outcome = [] := by
  cases step with
  | perform o => exact absurd rfl (h o)
  | performDuring o incidents =>
    unfold registrations
    cases hm : s.mode with
    | blocking => rfl
    | suspending => exact absurd ⟨hm, rfl⟩ (h o)
  | happen i => rfl

end Step

namespace Play

/-- What a step calls registers what its outcome says; a step without a value has registered
nothing. -/
theorem Does.registers {σ χ : Type} {m : Simulator σ χ} {bound : Nat} {C : χ → Prop}
    {p q : Play σ χ} {step : Step χ} {outcome : Option Outcome}
    (does : p.Does m bound C step outcome q) :
    ∃ calls, m.Passes C p.scene.sequencer calls q.scene.sequencer ∧
      Call.registrations calls = step.registrations p.session outcome ∧
      p.session.Shifts (Call.registrations calls) q.session ∧
      ((∀ v, outcome ≠ some (.value v)) → ∀ x ∈ calls, Call.RegistersNothing x) := by
  cases does with
  | performs operation h result asked ht ho session passes =>
    have registers := Session.perform_registers ht
    refine ⟨Dialogue.calls h, passes, ?_, session ▸ registers.shifts, ?_⟩
    · rw [Step.registrations_of_performs asked, ho]
      exact registers.all
    · rw [ho]
      exact registers.failed
  | idles asked ho session passes =>
    refine ⟨[], passes, (Step.registrations_of_idle asked).symm, ?_, fun _ x hx => by cases hx⟩
    rw [session]
    exact .keeps rfl rfl fun r hr => by cases hr

def registrations {σ χ : Type} (m : Simulator σ χ) (bound : Nat) (p : Play σ χ) :
    List (Step χ) → List Registration
  | [] => []
  | step :: steps => step.registrations p.session (p.step m bound step).1 ++
      (p.step m bound step).2.registrations m bound steps

/-- The tables mirror what was registered since the start, and nothing else will happen to them. -/
structure Tracks (start : Store) (regs : List Registration) (p : Play Rehearsal Change) :
    Prop where
  orderly : p.scene.sequencer.Orderly
  awaited : p.scene.Within Change.Quiet
  mirrors : start.Mirrors regs p.scene.sequencer.store
  owns : p.session.Owns p.scene.sequencer.store

variable {start : Store} {regs : List Registration} {p : Play Rehearsal Change} (bound : Nat)

theorem Tracks.throughout (hp : p.Tracks start regs) {calls : Call.History} {t : Rehearsal}
    (passes : simulator.Passes Change.Quiet p.scene.sequencer calls t)
    (known : ∀ port, .deleted port ∈ Call.registrations calls →
      port < p.scene.sequencer.store.nextPort) :
    simulator.Throughout Change.Quiet p.scene.sequencer calls t fun before u =>
      start.Mirrors (regs ++ Call.registrations before) u.store where
  passes := passes
  moments before u first reached := by
    refine mirrors_passes hp.orderly hp.mirrors reached fun port deleted => ?_
    exact known port ((first.filterMap _).subset deleted)

theorem Tracks.moments (hp : p.Tracks start regs) {step : Step Change}
    (hs : step.Within Change.Quiet) :
    ∃ calls, Call.registrations calls =
        step.registrations p.session (p.step simulator bound step).1 ∧
      simulator.Throughout Change.Quiet p.scene.sequencer calls
        (p.step simulator bound step).2.scene.sequencer fun before u =>
          start.Mirrors (regs ++ Call.registrations before) u.store := by
  obtain ⟨does, -⟩ := step_does simulator bound hp.awaited hs
  obtain ⟨calls, passes, registered, shifts, -⟩ := does.registers
  exact ⟨calls, registered, hp.throughout passes fun _ deleted => hp.owns.known shifts deleted⟩

theorem Tracks.unchanged (hp : p.Tracks start regs) {step : Step Change}
    (hs : step.Within Change.Quiet)
    (failed : ∀ v, (p.step simulator bound step).1 ≠ some (.value v)) :
    ∃ calls, simulator.Throughout Change.Quiet p.scene.sequencer calls
      (p.step simulator bound step).2.scene.sequencer fun _ u =>
        u.store.clients = p.scene.sequencer.store.clients ∧
          u.store.ports = p.scene.sequencer.store.ports := by
  obtain ⟨does, -⟩ := step_does simulator bound hp.awaited hs
  obtain ⟨calls, passes, -, -, nothing⟩ := does.registers
  refine ⟨calls, passes, fun before u first reached => ?_⟩
  exact hp.orderly.passes_tables reached fun x hx => nothing failed x (first.subset hx)

theorem Tracks.step (hp : p.Tracks start regs) {step : Step Change}
    (hs : step.Within Change.Quiet) :
    (p.step simulator bound step).2.Tracks start
      (regs ++ step.registrations p.session (p.step simulator bound step).1) := by
  obtain ⟨does, awaited⟩ := step_does simulator bound hp.awaited hs
  obtain ⟨calls, passes, registered, shifts, -⟩ := does.registers
  obtain ⟨registers, orderly⟩ := hp.orderly.passes passes
  have mirrored := hp.throughout passes fun _ deleted => hp.owns.known shifts deleted
  rw [← registered]
  exact ⟨orderly, awaited, mirrored.behind,
    hp.owns.shifts hp.orderly.tidy.nextPort shifts registers⟩

theorem Tracks.run {steps : List (Step Change)} (hp : p.Tracks start regs)
    (hs : ∀ step ∈ steps, step.Within Change.Quiet) :
    (p.run simulator bound steps).2.Tracks start
      (regs ++ p.registrations simulator bound steps) := by
  induction steps generalizing p regs with
  | nil =>
    rw [registrations, List.append_nil]
    exact hp
  | cons step steps ih =>
    obtain ⟨first, later⟩ := List.forall_mem_cons.1 hs
    have next := ih (hp.step bound first) later
    rw [List.append_assoc] at next
    exact next

theorem Tracks.finish (hp : p.Tracks start regs) :
    ∃ calls, Call.registrations calls = p.session.deletions p.session.ports ∧
      simulator.Throughout Change.Quiet p.scene.sequencer calls (p.finish simulator).sequencer
        fun before u => start.Mirrors (regs ++ Call.registrations before) u.store := by
  obtain ⟨h, o, ht, passes⟩ := finish_passes simulator hp.awaited
  have registered := Session.finish_registers ht
  refine ⟨Dialogue.calls h, registered, hp.throughout passes fun port deleted => ?_⟩
  rw [registered] at deleted
  obtain ⟨q, member, h⟩ := Session.mem_deletions deleted
  cases h
  obtain ⟨slot, held⟩ := Session.exists_slot_of_mem member
  exact (hp.owns.owned held).2.2

end Play

end MidiSequencer
