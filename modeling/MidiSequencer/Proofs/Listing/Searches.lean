import MidiSequencer.Proofs.Conduct.Rules
import MidiSequencer.Proofs.Listing.Ascent
import MidiSequencer.Proofs.Rounds
import MidiSequencer.Proofs.Simulation.Scripts
import MidiSequencer.Session

/-! # Searches in the store

While nothing is forced on the searches for a next entry, an enumeration goes up a table of the
store, and a listing answers what can be read off the tables. -/
namespace MidiSequencer

def Program.Yields {Q : Type} {A : Q → Type} {σ α : Type} (m : Machine Q A σ) (I : σ → Prop)
    (p : Program Q A α) (a : α) : Prop :=
  ∀ s, I s → (p.run m s).1 = some a ∧ I (p.run m s).2

namespace Program

variable {Q : Type} {A : Q → Type} {σ α β : Type} {m : Machine Q A σ} {I : σ → Prop}

theorem yields_done (a : α) : Yields m I (.done a) a :=
  fun _ hs => ⟨rfl, hs⟩

theorem Yields.bind {p : Program Q A α} {f : α → Program Q A β} {a : α} {b : β}
    (hp : Yields m I p a) (hf : Yields m I (f a) b) : Yields m I (p >>= f) b := by
  intro s hs
  obtain ⟨ended, next⟩ := hp s hs
  have runs : (p >>= f).run m s = (f a).run m (p.run m s).2 := by
    rw [run_bind, ← Prod.eta (p.run m s), ended]
  rw [runs]
  exact hf _ next

end Program

open Program (Yields yields_done)

/-- In every state of `I`, wherever the enumeration may stand, it goes on with the first entry of
the table that has a larger number. -/
structure Enumeration.Climbs {ι σ : Type} (e : Enumeration ι)
    (m : Machine Request Request.Answer σ) (I : σ → Prop) (stands : Previous → Int → Prop)
    (number : ι → Int) (table : List ι) : Prop where
  next {previous : Previous} {n : Int} : stands previous n →
    Yields m I (e.next previous).run (.ok (table.find? (n < number ·)))
  previous {a : ι} : a ∈ table → stands (e.previous a) (number a)

namespace Enumeration

variable {ι β σ : Type} {e : Enumeration ι} {m : Machine Request Request.Answer σ} {I : σ → Prop}
  {stands : Previous → Int → Prop} {number : ι → Int} {table : List ι}

/-- A fold visits an ascent, if it is granted one step more than this has entries. -/
theorem Climbs.fold (he : e.Climbs m I stands number table) {visit : β → ι → Action β}
    {v : β → ι → β} (hv : ∀ b, ∀ a ∈ table, Yields m I (visit b a).run (.ok (v b a))) {steps : Nat}
    {cursor : Cursor} {n : Int} (hn : stands cursor.previous n) (hc : cursor.finished = false)
    (enough : (ascent number n table).length < steps) (b : β) :
    Yields m I (e.fold visit steps cursor b).run (.ok ((ascent number n table).foldl v b)) := by
  induction steps generalizing cursor n b with
  | zero => omega
  | succ steps ih =>
    rw [run_fold_succ hc]
    apply (he.next hn).bind
    cases found : table.find? (n < number ·) with
    | none =>
      rw [ascent_of_find?_none number found]
      exact yields_done _
    | some a =>
      have climb := ascent_of_find?_some number found
      have member : a ∈ table := List.mem_of_find?_eq_some found
      have fewer : (ascent number (number a) table).length < steps := by
        rw [climb, List.length_cons] at enough
        omega
      rw [climb, List.foldl_cons]
      dsimp only
      rw [ExceptT.run_bind]
      exact (hv b a member).bind
        (@ih { cursor with previous := e.previous a } _ (he.previous member) hc fewer _)

end Enumeration

namespace Store

theorem find?_ports_behind (s : Store) (client n : Int) :
    (s.ports.filter (·.clientId == client)).find? (n < ·.portId) =
      s.ports.find? fun p => p.clientId == client && n < p.portId := by
  rw [List.find?_filter]
  congr 1
  funext p
  rw [Bool.decide_and, Bool.decide_coe, Bool.decide_coe]

def portsOf (s : Store) (client : Int) : List PortInfo :=
  ascent PortInfo.portId (-1) (s.ports.filter (·.clientId == client))

def listedOf (s : Store) (f : PortFilter) (c : ClientInfo) : List PortInfo :=
  if f.acceptsClient c then
    ((s.portsOf c.clientId).filter f.acceptsPort).map fun p => { p with clientName := c.name }
  else []

def listed (s : Store) (f : PortFilter) : List PortInfo :=
  (ascent ClientInfo.clientId (-1) s.clients).flatMap (s.listedOf f)

end Store

/-- In every state of `I` a search for a next entry is answered from the tables of the store, and
leaves such a state. -/
structure Searched {σ : Type} (m : Machine Request Request.Answer σ) (I : σ → Prop)
    (store : Store) : Prop where
  search {α : Type} {q : Call} (f : q.Answer → α) : q.isNext = true →
    Yields m I (Program.ask (.call q) fun answer => .done (f answer)) (f (store.answer q).1)

theorem checkNext_find {α : Type} (c : Call) (test : α → Bool) (l : List α) :
    checkNext c (Store.find test l) = .ok (l.find? test) := by
  unfold Store.find
  cases l.find? test with
  | none => rfl
  | some a => rfl

def PortFilter.arrange (f : PortFilter) (found : List PortInfo) : List PortInfo :=
  if f.sort then found.mergeSort f.inOrder else found

namespace Connection

variable {σ : Type} {m : Machine Request Request.Answer σ} {I : σ → Prop} {store : Store}
  (hs : Searched m I store) {c : Connection} (hc : c.isOpen = true)
include hs hc

theorem clients_climbs : c.clients.Climbs m I (fun previous n => previous.inClients = .ok n)
    ClientInfo.clientId store.clients where
  next {previous n} hn := by
    rw [← checkNext_find (.nextClient n)]
    show Yields _ _ (c.nextClient previous).run _
    rw [run_nextClient hc hn]
    exact hs.search (q := .nextClient n) (checkNext (.nextClient n)) rfl
  previous _ := rfl

theorem ports_climbs (client : Int) : (c.ports client).Climbs m I
    (fun previous n => previous.inPortsOf client = .ok n) PortInfo.portId
    (store.ports.filter (·.clientId == client)) where
  next {previous n} hn := by
    rw [store.find?_ports_behind, ← checkNext_find (.nextPort client n)]
    show Yields _ _ (c.nextPort client previous).run _
    rw [run_nextPort hc hn]
    exact hs.search (q := .nextPort client n) (checkNext (.nextPort client n)) rfl
  previous {p} hp := by
    have owner : p.clientId = client := by simpa using (List.mem_filter.1 hp).2
    exact if_pos owner

omit hs hc in
theorem foldl_collect {α β : Type} (test : α → Bool) (f : α → β) (l : List α) (found : List β) :
    l.foldl (fun found a => if test a then found ++ [f a] else found) found =
      found ++ (l.filter test).map f := by
  induction l generalizing found with
  | nil => simp
  | cons a l ih =>
    rw [List.foldl_cons, ih]
    cases ht : test a with
    | true => simp [ht]
    | false => simp [ht]

variable {bound : Nat}

theorem yields_collectPorts (enough : store.ports.length < bound) (f : PortFilter)
    (found : List PortInfo) (client : ClientInfo) :
    Yields m I (c.collectPorts f bound found client).run
      (.ok (found ++ store.listedOf f client)) := by
  unfold collectPorts Store.listedOf
  by_cases ha : f.acceptsClient client = true
  · rw [if_pos ha, if_pos ha, Store.portsOf, ← foldl_collect]
    have short : (ascent PortInfo.portId (-1)
        (store.ports.filter (·.clientId == client.clientId))).length < bound :=
      Nat.lt_of_le_of_lt ((ascent_sublist _ _ _).trans List.filter_sublist).length_le enough
    refine (ports_climbs hs hc client.clientId).fold ?_ rfl rfl short found
    exact fun found p _ => yields_done _
  · rw [if_neg ha, if_neg ha, List.append_nil]
    exact yields_done _

theorem yields_allPorts (clients : store.clients.length < bound)
    (ports : store.ports.length < bound) (f : PortFilter) :
    Yields m I (c.allPorts f bound).run
      (.ok (store.listed f)) := by
  have short : (ascent ClientInfo.clientId (-1) store.clients).length < bound :=
    Nat.lt_of_le_of_lt (ascent_sublist _ _ _).length_le clients
  rw [Store.listed, List.flatMap_eq_foldl]
  exact (clients_climbs hs hc).fold
    (fun found client _ => yields_collectPorts hs hc ports f found client)
    rfl rfl short []

theorem yields_listPorts (clients : store.clients.length < bound)
    (ports : store.ports.length < bound) (f : PortFilter) :
    Yields m I (c.listPorts f bound).run (.ok (f.arrange (store.listed f))) := by
  unfold listPorts
  rw [ExceptT.run_bind]
  apply (yields_allPorts hs hc clients ports f).bind
  exact yields_done _

end Connection

namespace Rehearsal

def Searchable : String → Status → Prop :=
  fun name _ => name ≠ "query_next_client" ∧ name ≠ "query_next_port"

structure Shows (store : Store) {χ : Type} (s : Scene Rehearsal χ) : Prop where
  store : s.sequencer.store = store
  script : s.sequencer.script.Forces Searchable

theorem searched (store : Store) : Searched (Scene.answer simulator) (Shows store) store where
  search {α q} f searches := by
    intro s hs
    obtain ⟨answers, forces⟩ := Rehearsal.answers hs.script q
    cases q with
    | nextClient n =>
      cases answers with
      | forced status allowed answered kept => exact absurd rfl allowed.1
      | worked answered kept =>
        rw [hs.store] at answered kept
        exact ⟨congrArg (fun r => some (f r)) answered, kept, forces⟩
    | nextPort client n =>
      cases answers with
      | forced status allowed answered kept => exact absurd rfl allowed.2
      | worked answered kept =>
        rw [hs.store] at answered kept
        exact ⟨congrArg (fun r => some (f r)) answered, kept, forces⟩
    | _ => cases searches

end Rehearsal

end MidiSequencer
