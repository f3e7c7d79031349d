import MidiSequencer.Proofs.Listing.Admission
import MidiSequencer.Proofs.Listing.Searches
import MidiSequencer.Proofs.Listing.Tables
import MidiSequencer.Proofs.Passages

/-! # Listings are exact

What a listing answers, in terms of the tables and of the filter alone: which ports it has and in
which order. -/
namespace MidiSequencer

namespace Store

/-- The first record of a client number that is not negative. -/
structure FirstClient (s : Store) (c : ClientInfo) : Prop where
  number : 0 ≤ c.clientId
  first : s.clients.find? (·.clientId == c.clientId) = some c

structure FirstPort (s : Store) (p : PortInfo) : Prop where
  number : 0 ≤ p.portId
  first : s.ports.find? (isPort p.clientId p.portId) = some p

/-- The snapshot of a port that a listing has: the stored record, with the name of its client. -/
inductive Lists (s : Store) (f : PortFilter) : PortInfo → Prop where
  | port (c : ClientInfo) (p : PortInfo) (client : s.FirstClient c) (port : s.FirstPort p)
      (owner : p.clientId = c.clientId) (admitted : f.Admits c p) :
      Lists s f { p with clientName := c.name }

def IdsLt (a b : Int × Int) : Prop :=
  a.1 < b.1 ∨ (a.1 = b.1 ∧ a.2 < b.2)

variable {s : Store} {f : PortFilter}

theorem mem_clients_iff (hs : s.Sorted) {c : ClientInfo} :
    c ∈ ascent ClientInfo.clientId (-1) s.clients ↔ s.FirstClient c := by
  rw [mem_ascent_iff _ hs.clients]
  constructor
  · rintro ⟨number, first⟩
    exact ⟨by omega, first⟩
  · rintro ⟨number, first⟩
    exact ⟨by omega, first⟩

theorem find?_ports_of (client port : Int) :
    (s.ports.filter (·.clientId == client)).find? (·.portId == port) =
      s.ports.find? (isPort client port) := by
  rw [List.find?_filter]
  congr 1
  funext p
  rw [Bool.decide_and, Bool.decide_coe, Bool.decide_coe, isPort]

theorem owner_of_mem_portsOf {client : Int} {p : PortInfo} (h : p ∈ s.portsOf client) :
    p.clientId = client := by
  have member := (ascent_sublist _ _ _).subset h
  simpa using (List.mem_filter.1 member).2

theorem mem_portsOf_iff (hs : s.Sorted) {client : Int} {p : PortInfo} :
    p ∈ s.portsOf client ↔ p.clientId = client ∧ s.FirstPort p := by
  have sorted : (s.ports.filter (·.clientId == client)).Pairwise
      fun a b => a.portId ≤ b.portId := by
    refine List.Pairwise.imp_of_mem ?_ (hs.ports.filter _)
    intro a b ha hb hab
    have owner : a.clientId = client := by simpa using (List.mem_filter.1 ha).2
    have other : b.clientId = client := by simpa using (List.mem_filter.1 hb).2
    simp only [IdsLe, PortInfo.ids, owner, other] at hab
    omega
  constructor
  · intro h
    have owner := owner_of_mem_portsOf h
    obtain ⟨number, first⟩ := (mem_ascent_iff _ sorted).1 h
    rw [find?_ports_of, ← owner] at first
    exact ⟨owner, by omega, first⟩
  · rintro ⟨rfl, number, first⟩
    rw [← find?_ports_of] at first
    exact (mem_ascent_iff _ sorted).2 ⟨by omega, first⟩

theorem mem_listedOf_iff (hs : s.Sorted) {c : ClientInfo} {q : PortInfo} :
    q ∈ s.listedOf f c ↔ ∃ p, p.clientId = c.clientId ∧ s.FirstPort p ∧ f.Admits c p ∧
      { p with clientName := c.name } = q := by
  unfold listedOf
  by_cases ha : f.acceptsClient c = true
  · rw [if_pos ha, List.mem_map]
    constructor
    · rintro ⟨p, hp, rfl⟩
      obtain ⟨member, accepted⟩ := List.mem_filter.1 hp
      obtain ⟨owner, first⟩ := (mem_portsOf_iff hs).1 member
      exact ⟨p, owner, first, PortFilter.accepts_iff.1 ⟨ha, accepted⟩, rfl⟩
    · rintro ⟨p, owner, first, admits, rfl⟩
      obtain ⟨-, accepted⟩ := PortFilter.accepts_iff.2 admits
      exact ⟨p, List.mem_filter.2 ⟨(mem_portsOf_iff hs).2 ⟨owner, first⟩, accepted⟩, rfl⟩
  · rw [if_neg ha]
    constructor
    · intro h
      cases h
    · rintro ⟨p, -, -, admits, -⟩
      exact absurd (PortFilter.accepts_iff.2 admits).1 ha

theorem mem_listed_iff (hs : s.Sorted) {q : PortInfo} : q ∈ s.listed f ↔ s.Lists f q := by
  rw [listed, List.mem_flatMap]
  constructor
  · rintro ⟨c, hc, hq⟩
    obtain ⟨p, owner, first, admits, rfl⟩ := (mem_listedOf_iff hs).1 hq
    exact .port c p ((mem_clients_iff hs).1 hc) first owner admits
  · rintro ⟨c, p, client, first, owner, admits⟩
    exact ⟨c, (mem_clients_iff hs).2 client,
      (mem_listedOf_iff hs).2 ⟨p, owner, first, admits, rfl⟩⟩

theorem client_of_mem_listedOf {c : ClientInfo} {q : PortInfo} (h : q ∈ s.listedOf f c) :
    q.clientId = c.clientId := by
  unfold listedOf at h
  split at h
  · obtain ⟨p, hp, rfl⟩ := List.mem_map.1 h
    have owner : p.clientId = c.clientId := owner_of_mem_portsOf (List.mem_filter.1 hp).1
    exact owner
  · cases h

theorem pairwise_listed : (s.listed f).Pairwise fun a b => IdsLt a.ids b.ids := by
  rw [listed, List.pairwise_flatMap]
  constructor
  · intro c _
    unfold listedOf
    split
    · rw [List.pairwise_map]
      refine List.Pairwise.imp_of_mem ?_ ((pairwise_ascent _ _ _).filter f.acceptsPort)
      intro a b ha hb hab
      have first := owner_of_mem_portsOf (List.mem_filter.1 ha).1
      have second := owner_of_mem_portsOf (List.mem_filter.1 hb).1
      exact .inr ⟨first.trans second.symm, hab⟩
    · exact .nil
  · refine (pairwise_ascent _ _ _).imp ?_
    intro c d hcd a ha b hb
    have first := client_of_mem_listedOf ha
    have second := client_of_mem_listedOf hb
    refine .inl ?_
    show a.clientId < b.clientId
    omega

end Store

namespace Play

theorem perform_listPorts_of_searched {σ χ : Type} {m : Simulator σ χ} {I : Scene σ χ → Prop}
    {store : Store} (hs : Searched (Scene.answer m) I store) {p : Play σ χ} (hp : I p.scene)
    (hc : p.session.connection.isOpen = true) {bound : Nat}
    (clients : store.clients.length < bound) (ports : store.ports.length < bound)
    (f : PortFilter) : (p.perform m bound (.listPorts f)).1 =
        some (.value (.listing (f.arrange (store.listed f)))) ∧
      I (p.perform m bound (.listPorts f)).2.scene := by
  have lists := Connection.yields_listPorts hs hc clients ports f
  have performs : Program.Yields (Scene.answer m) I (p.session.perform bound (.listPorts f))
      (.value (.listing (f.arrange (store.listed f))), p.session) :=
    lists.bind (Program.yields_done _)
  obtain ⟨ended, kept⟩ := performs p.scene hp
  rw [perform_eq]
  exact ⟨congrArg (Option.map Prod.fst) ended, kept⟩

open Rehearsal

variable {p : Play Rehearsal Change} {bound : Nat} {f : PortFilter}

/-- What a client needs for a listing: an open connection, searches on which nothing is forced, and
more steps than there are records. -/
structure CanList (p : Play Rehearsal Change) (bound : Nat) : Prop where
  isOpen : p.session.connection.isOpen = true
  script : p.scene.sequencer.script.Forces Searchable
  clients : p.scene.sequencer.store.clients.length < bound
  ports : p.scene.sequencer.store.ports.length < bound

theorem perform_listing (hp : p.CanList bound) (f : PortFilter) :
    (p.perform simulator bound (.listPorts f)).1 =
        some (.value (.listing (f.arrange (p.scene.sequencer.store.listed f)))) ∧
      (p.perform simulator bound (.listPorts f)).2.scene.sequencer.store =
        p.scene.sequencer.store := by
  obtain ⟨listed, shows_⟩ := perform_listPorts_of_searched (searched _) ⟨rfl, hp.script⟩ hp.isOpen
    hp.clients hp.ports f
  exact ⟨listed, shows_.store⟩

theorem perform_listPorts (hp : p.CanList bound) (hf : f.sort = false) :
    (p.perform simulator bound (.listPorts f)).1 =
        some (.value (.listing (p.scene.sequencer.store.listed f))) ∧
      (p.perform simulator bound (.listPorts f)).2.scene.sequencer.store =
        p.scene.sequencer.store := by
  have unsorted : f.arrange (p.scene.sequencer.store.listed f) =
      p.scene.sequencer.store.listed f := by
    rw [PortFilter.arrange, hf]
    rfl
  have performs := perform_listing hp f
  rwa [unsorted] at performs

theorem step_listPorts (hp : p.CanList bound) (hf : f.sort = false) {step : Step Change}
    (hs : step.Performs p.session (.listPorts f)) : (p.step simulator bound step).1 =
      some (.value (.listing (p.scene.sequencer.store.listed f))) := by
  cases step with
  | perform operation =>
    cases hs
    exact (perform_listPorts hp hf).1
  | performDuring operation incidents =>
    obtain ⟨hm, rfl⟩ := hs
    simp only [step, hm]
    exact (perform_listPorts (p := { p with scene.awaited := p.scene.awaited ++ incidents })
      ⟨hp.isOpen, hp.script, hp.clients, hp.ports⟩ hf).1
  | happen i => cases hs

end Play

/-- What holds of every sequencer in memory, however many records its tables have, with whatever
numbers. -/
structure ListingExact : Prop where
  initially (clientId : Int) : (Store.initial clientId).Sorted
  /-- The tables stay in order through every run, whatever is forced and whoever else acts. -/
  always (bound : Nat) (p : Play Rehearsal Rehearsal.Change)
    (steps : List (Step Rehearsal.Change)) : p.scene.sequencer.store.Sorted →
    (p.run Rehearsal.simulator bound steps).2.scene.sequencer.store.Sorted
  /-- An unsorted listing has each port that it has to list, and no other, once and in ascending
  order. -/
  listing (bound : Nat) (p : Play Rehearsal Rehearsal.Change) (f : PortFilter)
    (step : Step Rehearsal.Change) : p.CanList bound → p.scene.sequencer.store.Sorted →
    f.sort = false → step.Performs p.session (.listPorts f) →
    ∃ found, (p.step Rehearsal.simulator bound step).1 = some (.value (.listing found)) ∧
      (found.Pairwise fun a b => Store.IdsLt a.ids b.ids) ∧
      ∀ q, q ∈ found ↔ p.scene.sequencer.store.Lists f q
  unchanged (bound : Nat) (p : Play Rehearsal Rehearsal.Change) (f : PortFilter) :
    p.CanList bound → f.sort = false →
    (p.perform Rehearsal.simulator bound (.listPorts f)).2.scene.sequencer.store =
      p.scene.sequencer.store

/-- Enumeration is exact. -/
theorem listing_exact : ListingExact where
  initially := Store.initial_sorted
  always bound p steps hp := Rehearsal.simulator_keeps_sorted.runSteps bound steps hp
  listing bound p f step := by
    intro hp hs hf asked
    exact ⟨p.scene.sequencer.store.listed f, Play.step_listPorts hp hf asked,
      Store.pairwise_listed, fun q => Store.mem_listed_iff hs⟩
  unchanged bound p f := by
    intro hp hf
    exact (Play.perform_listPorts hp hf).2

/-- Numbers that stand in the tables twice, that are negative, and that nobody has. -/
theorem listing_exact_crowded :
    let client (clientId : Int) (name : String) : ClientInfo := { clientId, name }
    let port (clientId portId : Int) (name : String) : PortInfo :=
      { clientId, portId, name, capability := .readPort }
    let crowd : Step Rehearsal.Change := .happen (.change (.setup
      [client 20 "Keyboard", client 20 "Drums", client (-3) "Nobody"]
      [port 20 2 "Out", port 20 0 "First", port 20 0 "Second", port 20 (-1) "None",
        port 7 0 "Lost"]))
    let start : Play Rehearsal Rehearsal.Change :=
      { session := { mode := .blocking, connection := { clientId := 128 } }
        scene := { sequencer := { store := .initial 128 } } }
    let p := (start.run Rehearsal.simulator 9 [crowd]).2
    let f : PortFilter := { portType := ⟨0⟩, sort := false }
    (p.CanList 9 ∧ p.scene.sequencer.store.Sorted ∧ f.sort = false) ∧
      ∃ found, (p.step Rehearsal.simulator 9 (.perform (.listPorts f))).1 =
          some (.value (.listing found)) ∧
        (found.Pairwise fun a b => Store.IdsLt a.ids b.ids) ∧
        ∀ q, q ∈ found ↔ p.scene.sequencer.store.Lists f q := by
  intro client port crowd start p f
  have sorted : p.scene.sequencer.store.Sorted :=
    listing_exact.always 9 start [crowd] (listing_exact.initially 128)
  have lists : p.CanList 9 :=
    { isOpen := rfl
      script := fun row member => by cases member
      clients := by
        simp [p, start, crowd, Play.run, Play.step, Scene.occur, Rehearsal.simulator,
          Rehearsal.change, Store.addClient, Store.addPort, Store.initial]
      ports := by
        simp [p, start, crowd, Play.run, Play.step, Scene.occur, Rehearsal.simulator,
          Rehearsal.change, Store.addClient, Store.addPort, Store.initial] }
  exact ⟨⟨lists, sorted, rfl⟩, listing_exact.listing 9 p f _ lists sorted rfl rfl⟩

end MidiSequencer
