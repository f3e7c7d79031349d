import MidiSequencer.Proofs.Listing.Filling
import MidiSequencer.Proofs.Listing.Gains

/-! # The order of listings

A sorted listing is the stable sort of the unsorted one, by the keys of the ports or in the order of
the caller. What it shows does not depend on how the tables were filled, and a port that gains bits
of its type moves to the front only. -/
namespace MidiSequencer

namespace Session

def arranged (s : Session) (f : PortFilter) (bound : Nat)
    (arrange : List PortInfo → List PortInfo) : Dialogue (Outcome × Session) :=
  (s.connection.allPorts f bound).run >>= fun found =>
    .done (.ofExcept .listing (found.map arrange), s)

variable (s : Session) (f : PortFilter) (bound : Nat)

theorem report_arranged (arrange : List PortInfo → List PortInfo) :
    s.report .listing (s.connection.allPorts f bound >>= fun found => pure (arrange found)) =
      s.arranged f bound arrange := by
  unfold report arranged
  rw [ExceptT.run_bind, bind_assoc]
  congr 1
  funext found
  cases found <;> rfl

theorem perform_listPorts : s.perform bound (.listPorts f) = s.arranged f bound f.arrange :=
  s.report_arranged f bound f.arrange

theorem perform_listPortsBy (le : PortInfo → PortInfo → Bool) :
    s.perform bound (.listPortsBy f le) = s.arranged f bound (·.mergeSort le) :=
  s.report_arranged f bound (·.mergeSort le)

theorem perform_unsorted :
    s.perform bound (.listPorts { f with sort := false }) = s.arranged f bound id :=
  s.report_arranged f bound id

end Session

/-- How a caller lists ports: in the order of the filter, or in one of its own. -/
inductive Listing where
  | byFilter
  | byOrder (le : PortInfo → PortInfo → Bool)

namespace Listing

def operation : Listing → PortFilter → Operation
  | byFilter, f => .listPorts f
  | byOrder le, f => .listPortsBy f le

def arrange : Listing → PortFilter → List PortInfo → List PortInfo
  | byFilter, f => f.arrange
  | byOrder le, _ => (·.mergeSort le)

theorem perform_operation (l : Listing) (s : Session) (bound : Nat) (f : PortFilter) :
    s.perform bound (l.operation f) = s.arranged f bound (l.arrange f) := by
  cases l with
  | byFilter => exact s.perform_listPorts f bound
  | byOrder le => exact s.perform_listPortsBy f bound le

theorem mem_arrange (l : Listing) (f : PortFilter) {found : List PortInfo} {q : PortInfo} :
    q ∈ l.arrange f found ↔ q ∈ found := by
  cases l with
  | byFilter =>
    show q ∈ f.arrange found ↔ q ∈ found
    unfold PortFilter.arrange
    split
    · exact List.mem_mergeSort
    · exact Iff.rfl
  | byOrder le => exact List.mem_mergeSort

end Listing

/-- What sorting makes of the outcome of a listing: what was listed is put in order, and what failed
or was cut short is left as it is. -/
inductive Reordered (R : PortInfo → PortInfo → Prop) : Option Outcome → Option Outcome → Prop where
  | listed {found sorted} (sorts : StablySorted R found sorted) :
      Reordered R (some (.value (.listing found))) (some (.value (.listing sorted)))
  | failed (e : Error) : Reordered R (some (.error e)) (some (.error e))
  | cut : Reordered R none none

namespace Play

variable {σ χ : Type} (m : Simulator σ χ) {bound : Nat} {p : Play σ χ} {f : PortFilter}

theorem reordered_of_arranged {R : PortInfo → PortInfo → Prop} {operation : Operation}
    {arrange : List PortInfo → List PortInfo}
    (performs : p.session.perform bound operation = p.session.arranged f bound arrange)
    (sorts : ∀ found, StablySorted R found (arrange found)) :
    Reordered R (p.perform m bound (.listPorts { f with sort := false })).1
        (p.perform m bound operation).1 ∧
      (p.perform m bound operation).2 =
        (p.perform m bound (.listPorts { f with sort := false })).2 := by
  simp only [perform_eq, performs, Session.perform_unsorted, Session.arranged, Program.run_bind]
  rcases (p.session.connection.allPorts f bound).run.run (Scene.answer m) p.scene with
    ⟨_ | e | found, s⟩
  · exact ⟨.cut, rfl⟩
  · exact ⟨.failed e, rfl⟩
  · exact ⟨.listed (sorts found), rfl⟩

def filled (p : Play Rehearsal Rehearsal.Change) (bound : Nat) (added : List Store.Added) :
    Play Rehearsal Rehearsal.Change :=
  (p.run Rehearsal.simulator bound (added.map fun x => .happen (.change (.setup x.1 x.2)))).2

theorem filled_eq (p : Play Rehearsal Rehearsal.Change) (bound : Nat) (added : List Store.Added) :
    p.filled bound added =
      { p with scene.sequencer.store := added.foldl Store.add p.scene.sequencer.store } := by
  induction added generalizing p with
  | nil => rfl
  | cons x added ih => exact ih { p with scene.sequencer.store := p.scene.sequencer.store.add x }

def gainAt (p : Play Rehearsal Rehearsal.Change) (address : Int × Int) (bits : UInt32) :
    Play Rehearsal Rehearsal.Change :=
  { p with scene.sequencer.store := p.scene.sequencer.store.gainAt address bits }

end Play

structure ListingOrder : Prop where
  /-- Whatever the sequencer is and answers, a sorted listing is the stable sort of the unsorted one
  by the keys, and leaves the same behind. -/
  sorted {σ χ : Type} (m : Simulator σ χ) (bound : Nat) (p : Play σ χ) (f : PortFilter) :
    f.sort = true →
    let unsorted := p.perform m bound (.listPorts { f with sort := false })
    let r := p.perform m bound (.listPorts f)
    Reordered (PortInfo.KeyLe f.preferred) unsorted.1 r.1 ∧ r.2 = unsorted.2
  /-- In the order of a caller it is the stable sort by this one, whether or not the filter
  sorts. -/
  sortedBy {σ χ : Type} (m : Simulator σ χ) (bound : Nat) (p : Play σ χ) (f : PortFilter)
    (le : PortInfo → PortInfo → Bool) : TotalPreorder le →
    let unsorted := p.perform m bound (.listPorts { f with sort := false })
    let r := p.perform m bound (.listPortsBy f le)
    Reordered (fun a b => le a b = true) unsorted.1 r.1 ∧ r.2 = unsorted.2
  answered (bound : Nat) (p : Play Rehearsal Rehearsal.Change) (f : PortFilter) :
    p.CanList bound → ∃ found,
      (p.perform Rehearsal.simulator bound (.listPorts f)).1 = some (.value (.listing found))
  /-- Where clients and ports with numbers of their own are added to the tables, a listing does not
  depend on the order in which they are. -/
  independent (bound : Nat) (p : Play Rehearsal Rehearsal.Change) (f : PortFilter)
    (added added' : List Store.Added) : p.scene.sequencer.store.Sorted →
    (added.flatMap Prod.fst).Perm (added'.flatMap Prod.fst) →
    (added.flatMap Prod.snd).Perm (added'.flatMap Prod.snd) →
    ((p.scene.sequencer.store.clients ++ added.flatMap Prod.fst).map ClientInfo.clientId).Nodup →
    ((p.scene.sequencer.store.ports ++ added.flatMap Prod.snd).map PortInfo.ids).Nodup →
    ((p.filled bound added).perform Rehearsal.simulator bound (.listPorts f)).1 =
      ((p.filled bound added').perform Rehearsal.simulator bound (.listPorts f)).1
  /-- A port whose type gains bits never moves behind a port that it stood before. -/
  promoted (bound : Nat) (p : Play Rehearsal Rehearsal.Change) (f : PortFilter)
    (address : Int × Int) (bits : UInt32) : p.CanList bound → f.sort = true →
    ∃ before after,
      (p.perform Rehearsal.simulator bound (.listPorts f)).1 = some (.value (.listing before)) ∧
      ((p.gainAt address bits).perform Rehearsal.simulator bound (.listPorts f)).1 =
        some (.value (.listing after)) ∧
      ∀ a b, [a, b].Sublist before → a.ids = address → [a.gain bits, b].Sublist after

/-- Listings are in order. -/
theorem listing_order : ListingOrder where
  sorted m bound p f := by
    intro hf
    refine Play.reordered_of_arranged m (p.session.perform_listPorts f bound) fun found => ?_
    have sorts := stablySorted_mergeSort f.totalPreorder_inOrder found
    have keys : (fun a b => f.inOrder a b = true) = PortInfo.KeyLe f.preferred := by
      funext a b
      exact propext PortFilter.inOrder_iff
    rw [PortFilter.arrange, if_pos hf, ← keys]
    exact sorts
  sortedBy m bound p f le := by
    intro hle
    exact Play.reordered_of_arranged m (p.session.perform_listPortsBy f bound le)
      (stablySorted_mergeSort hle)
  answered bound p f := by
    intro hp
    exact ⟨_, (Play.perform_listing hp f).1⟩
  independent bound p f added added' := by
    intro sorted clients ports clientsApart portsApart
    have same := Store.foldl_add_congr sorted clients ports clientsApart portsApart
    rw [Play.filled_eq, Play.filled_eq, same]
  promoted bound p f address bits := by
    intro hp hf
    have gains : (p.gainAt address bits).CanList bound :=
      ⟨hp.isOpen, hp.script, hp.clients, by simpa [Play.gainAt, Store.gainAt] using hp.ports⟩
    refine ⟨_, _, (Play.perform_listing hp f).1, (Play.perform_listing gains f).1, ?_⟩
    intro a b before ha
    exact Store.gainAt_stays hf before ha

/-- A keyboard and a loopback port with the same types, added in two orders; the second port of the
keyboard gains a bit. -/
theorem listing_order_mixed :
    let port (clientId portId : Int) (bits : UInt32) : PortInfo :=
      { clientId, portId, capability := .readPort, portType := ⟨bits⟩ }
    let keyboard : Store.Added :=
      ([{ clientId := 20, name := "Keyboard" }], [port 20 0 0x10002, port 20 1 0x2])
    let loop : Store.Added :=
      ([{ clientId := 14, name := "Midi Through" }], [port 14 0 0x10002])
    let start : Play Rehearsal Rehearsal.Change :=
      { session := { mode := .blocking, connection := { clientId := 128 } }
        scene := { sequencer := { store := .initial 128 } } }
    let p := start.filled 9 [keyboard, loop]
    let f : PortFilter := {}
    let lists (p : Play Rehearsal Rehearsal.Change) (operation : Operation) :=
      (p.perform Rehearsal.simulator 9 operation).1
    let downwards (a b : PortInfo) : Bool := b.clientId ≤ a.clientId
    (p.CanList 9 ∧ f.sort = true ∧ TotalPreorder downwards) ∧
      Reordered (PortInfo.KeyLe f.preferred) (lists p (.listPorts { f with sort := false }))
        (lists p (.listPorts f)) ∧
      Reordered (fun a b => downwards a b = true) (lists p (.listPorts { f with sort := false }))
        (lists p (.listPortsBy f downwards)) ∧
      lists p (.listPorts f) = lists (start.filled 9 [loop, keyboard]) (.listPorts f) ∧
      ∃ before after, lists p (.listPorts f) = some (.value (.listing before)) ∧
        lists (p.gainAt (20, 1) 0x10000) (.listPorts f) = some (.value (.listing after)) ∧
        ∀ a b, [a, b].Sublist before → a.ids = (20, 1) → [a.gain 0x10000, b].Sublist after := by
  intro port keyboard loop start p f lists downwards
  have canList : p.CanList 9 := by
    obtain ⟨cs, ps, tables, clients, ports⟩ :=
      Store.foldl_add_eq (s := start.scene.sequencer.store) [keyboard, loop]
    show (start.filled 9 [keyboard, loop]).CanList 9
    rw [Play.filled_eq, tables]
    have few : cs.length < 9 := by
      rw [clients.length_eq]
      decide
    have fewPorts : ps.length < 9 := by
      rw [ports.length_eq]
      decide
    exact
      { isOpen := rfl
        script := fun row member => by cases member
        clients := few
        ports := fewPorts }
  have preorder : TotalPreorder downwards :=
    { trans := fun a b c => by
        simp only [downwards, decide_eq_true_eq]
        omega
      total := fun a b => by
        simp only [downwards, Bool.or_eq_true, decide_eq_true_eq]
        omega }
  have either :
      lists p (.listPorts f) = lists (start.filled 9 [loop, keyboard]) (.listPorts f) := by
    refine listing_order.independent 9 start f [keyboard, loop] [loop, keyboard]
      (Store.initial_sorted 128) ?_ ?_ ?_ ?_
    · exact List.Perm.swap _ _ []
    · show (keyboard.2 ++ loop.2).Perm (loop.2 ++ keyboard.2)
      exact List.perm_append_comm
    · decide
    · decide
  obtain ⟨before, after, shown, shown', stays⟩ :=
    listing_order.promoted 9 p f (20, 1) 0x10000 canList rfl
  exact ⟨⟨canList, rfl, preorder⟩, (listing_order.sorted _ 9 p f rfl).1,
    (listing_order.sortedBy _ 9 p f downwards preorder).1, either, before, after, shown, shown',
    stays⟩

/-- A device comes before a loopback port of the same rank, and behind one of a smaller rank. -/
example :
    let port (clientId portId : Int) (bits : UInt32) (clientName : String) : PortInfo :=
      { clientId, portId, portType := ⟨bits⟩, clientName }
    let found := [port 14 0 0x10002 "Midi Through", port 20 0 0x10002 "Keyboard",
      port 20 1 0x2 "Keyboard"]
    let f : PortFilter := {}
    (found.mergeSort f.inOrder).map PortInfo.ids = [(20, 0), (14, 0), (20, 1)] := by
  cbv

end MidiSequencer
