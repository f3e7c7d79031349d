import MidiSequencer.Proofs.Listing.Filling
import MidiSequencer.Proofs.Numbering.Stocks

/-! # Numbers over a run

A sequencer in memory through calls, which may be forced to fail, and through what others do. Its
tables stay in order; its ports stand under different numbers, if those that others register do; and
a number that was given is not given again, be it free. -/
namespace MidiSequencer

namespace Store

structure Seeded (s : Store) (clients : List ClientInfo) (ports : List PortInfo) : Prop where
  clients : s.clients = (clients.foldl addClient { clientId := s.clientId }).clients
  ports : s.ports = (ports.foldl addPort { clientId := s.clientId }).ports
  queues : s.queues = []
  nextPort : s.nextPort = 0
  nextQueue : s.nextQueue = 0

variable {s : Store} {clients : List ClientInfo} {ports pending : List PortInfo}

theorem Seeded.sorted (hs : s.Seeded clients ports) : s.Sorted := by
  have empty : Sorted { clientId := s.clientId } := ⟨.nil, .nil⟩
  exact ⟨hs.clients ▸ (empty.foldl_addClient clients).clients,
    hs.ports ▸ (empty.foldl_addPort ports).ports⟩

theorem Seeded.ports_perm (hs : s.Seeded clients ports) : s.ports.Perm ports := by
  obtain ⟨ps, eq, perm⟩ := foldl_addPort_eq (s := { clientId := s.clientId }) ports
  rw [hs.ports, eq]
  exact perm

/-- The ports have different numbers, and so will those that others are still to register; none of
these belongs to our own client. -/
structure Awaits (s : Store) (pending : List PortInfo) : Prop where
  tidy : s.Tidy
  foreign : ∀ p ∈ pending, p.clientId ≠ s.clientId
  distinct : ((s.ports ++ pending).map PortInfo.ids).Nodup

theorem filter_foreign (foreign : ∀ p ∈ ports, p.clientId ≠ s.clientId) :
    ports.filter (·.clientId == s.clientId) = [] :=
  List.filter_eq_nil_iff.2 fun p hp => by simpa using foreign p hp

theorem Seeded.awaits (hs : s.Seeded clients ports)
    (distinct : ((ports ++ pending).map PortInfo.ids).Nodup)
    (foreign : ∀ p ∈ ports ++ pending, p.clientId ≠ s.clientId) : s.Awaits pending := by
  have standing : ((s.ports ++ pending).map PortInfo.ids).Nodup := by
    rw [((hs.ports_perm.append_right pending).map PortInfo.ids).nodup_iff]
    exact distinct
  refine ⟨⟨?_, Int.le_of_eq hs.nextPort.symm, fun p hp ours => absurd ours ?_⟩,
    fun p hp => foreign p (List.mem_append_right _ hp), standing⟩
  · exact standing.sublist ((List.sublist_append_left _ _).map _)
  · exact foreign p (List.mem_append_left _ (hs.ports_perm.mem_iff.1 hp))

theorem Seeded.counts {k : Stock} (hs : s.Seeded clients ports)
    (foreign : ∀ p ∈ ports, p.clientId ≠ s.clientId) : k.Counts s [] := by
  cases k with
  | ports =>
    have nothing : s.ports.filter (·.clientId == s.clientId) = [] :=
      filter_foreign fun p hp => foreign p (hs.ports_perm.mem_iff.1 hp)
    exact .nil (congrArg (List.map PortInfo.portId) nothing) hs.nextPort
  | queues => exact .nil (congrArg (List.map QueueRecord.id) hs.queues) hs.nextQueue

theorem initial_seeded (clientId : Int) :
    (initial clientId).Seeded (initial clientId).clients (initial clientId).ports := by
  have order {α : Type} {le : α → α → Bool} {a b : α} (h : le a b = true) :
      ([a].mergeSort le ++ [b]).mergeSort le = [a, b] := by
    rw [List.mergeSort_singleton]
    exact List.mergeSort_of_pairwise (List.pairwise_pair.2 h)
  exact ⟨(order rfl).symm, (order rfl).symm, rfl, rfl, rfl⟩

namespace Awaits

/-- A call leaves the ports of others alone, so that it cannot take what is pending. -/
theorem answer (hs : s.Awaits pending) (c : Call) : (s.answer c).2.Awaits pending := by
  obtain ⟨registers, tidy⟩ := hs.tidy.answer c
  refine ⟨tidy, fun p hp => registers.clientId ▸ hs.foreign p hp, ?_⟩
  obtain ⟨-, pendingDistinct, apart⟩ := List.nodup_append'.1 (List.map_append ▸ hs.distinct)
  rw [List.map_append]
  refine List.nodup_append'.2 ⟨tidy.ports, pendingDistinct, ?_⟩
  intro ids there awaited
  obtain ⟨p, member, rfl⟩ := List.mem_map.1 there
  obtain ⟨q, hq, same⟩ := List.mem_map.1 awaited
  have foreign : p.clientId ≠ s.clientId := (Prod.mk.inj same).1 ▸ hs.foreign q hq
  -- what a call registers is about our own ports only, so that this one was there before
  have found := registers.port? p.clientId p.portId
  rw [Registration.settled_foreign foreign] at found
  have before : p ∈ s.ports :=
    (hs.tidy.port?_eq_some_iff.1 (found ▸ tidy.port?_eq_some_iff.2 ⟨member, rfl⟩)).1
  exact apart (List.mem_map_of_mem before) awaited

theorem registered (hs : s.Awaits (ports ++ pending)) {cs : List ClientInfo} {ps : List PortInfo}
    (perm : ps.Perm (s.ports ++ ports)) : (s.withTables cs ps).Awaits pending := by
  have distinct : ((ps ++ pending).map PortInfo.ids).Nodup := by
    rw [((perm.append_right pending).map PortInfo.ids).nodup_iff, List.append_assoc]
    exact hs.distinct
  refine ⟨⟨?_, hs.tidy.nextPort, fun p hp ours => ?_⟩,
    fun p hp => hs.foreign p (List.mem_append_right _ hp), distinct⟩
  · exact distinct.sublist ((List.sublist_append_left _ _).map _)
  · rcases List.mem_append.1 (perm.mem_iff.1 hp) with old | new
    · exact hs.tidy.own p old ours
    · exact absurd ours (hs.foreign p (List.mem_append_left _ new))

end Awaits

theorem keeps_withTables {k : Stock} {cs : List ClientInfo} {ps : List PortInfo}
    (foreign : ∀ p ∈ ports, p.clientId ≠ s.clientId) (perm : ps.Perm (s.ports ++ ports)) :
    k.Keeps s (s.withTables cs ps) := by
  cases k with
  | ports =>
    have own := perm.filter (·.clientId == s.clientId)
    rw [List.filter_append, filter_foreign foreign, List.append_nil] at own
    exact ⟨rfl, (own.map PortInfo.portId).subperm⟩
  | queues => exact .of_eq rfl rfl

end Store

namespace Rehearsal

inductive Move where
  | call (call : Call)
  | change (change : Change)

def move (r : Rehearsal) : Move → Rehearsal
  | .call c => (r.answer c).2
  | .change x => r.change x

def after (r : Rehearsal) (moves : List Move) : Rehearsal :=
  moves.foldl move r

def Works (r : Rehearsal) (q : Command) : Prop :=
  (r.script.take q.name).1 = none

instance (r : Rehearsal) (q : Command) : Decidable (r.Works q) :=
  inferInstanceAs (Decidable (_ = none))

/-- The number that a move is given, if it asks for one and is not forced. -/
def given (k : Stock) (r : Rehearsal) : Move → List Int
  | .call (.command q) => if k.makes q ∧ r.Works q then [(r.answer (.command q)).1] else []
  | _ => []

def made (k : Stock) : Rehearsal → List Move → List Int
  | _, [] => []
  | r, m :: moves => given k r m ++ made k (r.move m) moves

def Move.seeds : Move → List PortInfo
  | .change (.setup _ ports) => ports
  | _ => []

def seeds (moves : List Move) : List PortInfo :=
  moves.flatMap Move.seeds

variable {k : Stock} {r : Rehearsal} {n : Int} {ids : List Int}

theorem after_append (r : Rehearsal) (moves later : List Move) :
    r.after (moves ++ later) = (r.after moves).after later :=
  List.foldl_append

theorem made_append (r : Rehearsal) (moves later : List Move) :
    made k r (moves ++ later) = made k r moves ++ made k (r.after moves) later := by
  induction moves generalizing r with
  | nil => rfl
  | cons m moves ih =>
    show given k r m ++ made k (r.move m) (moves ++ later) = _
    rw [ih, ← List.append_assoc]
    rfl

theorem answer_of_works {q : Command} (works : r.Works q) :
    (r.answer (.command q)).1 = (r.store.command q).1 ∧
      (r.answer (.command q)).2.store = (r.store.command q).2 := by
  have notRelease : ¬ Call.command q = .release := nofun
  have free : (r.script.take (Call.command q).name).1 = none := works
  simp only [answer, if_neg notRelease, free]
  exact ⟨rfl, rfl⟩

theorem answer_of_forced {q : Command} (forced : ¬ r.Works q) :
    (r.answer (.command q)).2.store = r.store := by
  have notRelease : ¬ Call.command q = .release := nofun
  obtain ⟨status, h⟩ := Option.ne_none_iff_exists'.1 forced
  have taken : (r.script.take (Call.command q).name).1 = some status := h
  simp only [answer, if_neg notRelease, taken]

theorem after_keeps_sorted (hr : r.store.Sorted) (moves : List Move) :
    (r.after moves).store.Sorted := by
  induction moves generalizing r with
  | nil => exact hr
  | cons m moves ih =>
    cases m with
    | call c => exact ih (simulator_keeps_sorted.answer c r hr)
    | change x => exact ih (simulator_keeps_sorted.change x r hr)

theorem answer_awaits {pending : List PortInfo} (hr : r.store.Awaits pending) (c : Call) :
    (r.answer c).2.store.Awaits pending := by
  obtain ⟨answers, -⟩ := answers r.script.forces_true c
  cases answers with
  | forced status allowed answered store => exact store ▸ hr
  | worked answered store => exact store ▸ hr.answer c

theorem given_query {c : Call} (hc : ∀ q, c ≠ .command q) : given k r (.call c) = [] := by
  cases c with
  | command q => exact absurd rfl (hc q)
  | _ => rfl

theorem query_counts (counts : k.Counts r.store ids) {c : Call} (hc : ∀ q, c ≠ .command q) :
    k.Counts (r.answer c).2.store ids := by
  obtain ⟨answers, -⟩ := answers r.script.forces_true c
  cases answers with
  | forced status allowed answered store => exact store ▸ counts
  | worked answered store =>
    have kept := Stock.keeps_answer (k := k) (s := r.store) fun q same => absurd same (hc q)
    exact store ▸ counts.keep kept

theorem answer_counts (counts : k.Counts r.store ids) (c : Call) :
    k.Counts (r.answer c).2.store (ids ++ given k r (.call c)) := by
  by_cases asked : ∃ q, c = .command q
  · obtain ⟨q, rfl⟩ := asked
    by_cases works : r.Works q
    · obtain ⟨answered, store⟩ := answer_of_works works
      rw [store]
      cases makes : k.makes q with
      | true =>
        have one : given k r (.call (.command q)) = [(r.store.command q).1] := by
          rw [given, if_pos ⟨makes, works⟩, answered]
        exact one ▸ counts.make makes
      | false =>
        have nothing : given k r (.call (.command q)) = [] := by simp [given, makes]
        rw [nothing, List.append_nil]
        exact counts.keep (Stock.keeps_command makes)
    · have nothing : given k r (.call (.command q)) = [] := by simp [given, works]
      rw [nothing, List.append_nil, answer_of_forced works]
      exact counts
  · have query : ∀ q, c ≠ .command q := fun q same => asked ⟨q, same⟩
    rw [given_query query, List.append_nil]
    exact query_counts counts query

theorem change_counts {pending : List PortInfo} {x : Change}
    (hr : r.store.Awaits ((Move.change x).seeds ++ pending)) (counts : k.Counts r.store ids) :
    (r.change x).store.Awaits pending ∧ k.Counts (r.change x).store ids := by
  cases x with
  | setup clients ports =>
    obtain ⟨cs, ps, eq, -, perm⟩ := Store.foldl_add_eq (s := r.store) [(clients, ports)]
    have registered : ps.Perm (r.store.ports ++ ports) := by simpa using perm
    have store : (r.change (.setup clients ports)).store = r.store.withTables cs ps := eq
    rw [store]
    have foreign : ∀ p ∈ ports, p.clientId ≠ r.store.clientId :=
      fun p hp => hr.foreign p (List.mem_append_left _ hp)
    exact ⟨hr.registered registered, counts.keep (Store.keeps_withTables foreign registered)⟩
  | _ =>
    have tidy := hr.tidy
    exact ⟨⟨⟨tidy.ports, tidy.nextPort, tidy.own⟩, hr.foreign, hr.distinct⟩,
      counts.keep (by cases k <;> exact .of_eq rfl rfl)⟩

/-- By induction on the moves; what is pending shrinks with each of them. -/
theorem after_counts {moves : List Move} {pending : List PortInfo}
    (hr : r.store.Awaits (seeds moves ++ pending)) (counts : k.Counts r.store ids) :
    (r.after moves).store.Awaits pending ∧
      k.Counts (r.after moves).store (ids ++ made k r moves) := by
  induction moves generalizing r ids with
  | nil =>
    rw [made, List.append_nil]
    exact ⟨hr, counts⟩
  | cons m moves ih =>
    have first : r.store.Awaits (m.seeds ++ (seeds moves ++ pending)) := by
      rw [← List.append_assoc]
      exact hr
    rw [made, ← List.append_assoc]
    cases m with
    | call c => exact ih (answer_awaits first c) (answer_counts counts c)
    | change x =>
      obtain ⟨awaits, kept⟩ := change_counts first counts
      exact ih awaits ((List.append_nil ids).symm ▸ kept)

/-- What can be said of the numbers in the course of the moves. Those in use are different and below
the next one. This one is how many were given, in ascending order and each below it, so that fewer
than 2 ^ 31 of them fit into a status. One that was given back is never given again. -/
structure Numbers (k : Stock) (r : Rehearsal) (moves : List Move) : Prop where
  distinct : (k.numbers (r.after moves).store).Nodup
  below : ∀ n ∈ k.numbers (r.after moves).store, 0 ≤ n ∧ n < k.next (r.after moves).store
  next : k.next (r.after moves).store = (made k r moves).length
  ascending : (made k r moves).Pairwise (· < ·)
  bounded : ∀ n ∈ made k r moves, 0 ≤ n ∧ n < (made k r moves).length
  gone (before later : List Move) (n : Int) :
    moves = before ++ .call (.command (k.free n)) :: later → (r.after before).Works (k.free n) →
    0 ≤ ((r.after before).answer (.command (k.free n))).1 →
    n ∈ made k r before ∧ n ∉ k.numbers (r.after (before ++ [.call (.command (k.free n))])).store ∧
      n ∉ made k (r.after before) (.call (.command (k.free n)) :: later)

theorem numbers_of_counts {moves : List Move} (hr : r.store.Awaits (seeds moves))
    (counts : k.Counts r.store []) : Numbers k r moves := by
  -- also behind each beginning of the moves the numbers are those that it was given
  have throughout (before later : List Move) (h : moves = before ++ later) :
      k.Counts (r.after before).store (made k r before) := by
    subst h
    rw [seeds, List.flatMap_append] at hr
    exact (after_counts hr counts).2
  have last := throughout moves [] (List.append_nil moves).symm
  refine ⟨last.distinct, fun n hn => last.bounds (last.known hn), last.next, last.ascending,
    fun n hn => last.next ▸ last.bounds hn, ?_⟩
  intro before later n split works worked
  obtain ⟨answered, store⟩ := answer_of_works works
  rw [answered] at worked
  obtain ⟨used, free⟩ := Stock.free_worked worked
  have given := (throughout before _ split).known used
  refine ⟨given, ?_, fun again => ?_⟩
  · rw [after_append]
    show n ∉ k.numbers ((r.after before).answer (.command (k.free n))).2.store
    rw [store]
    exact free
  · have ascending := last.ascending
    rw [split, made_append] at ascending
    exact Int.lt_irrefl n ((List.pairwise_append.1 ascending).2.2 n given n again)

theorem passes_after {C : Change → Prop} {h : Call.History} {t : Rehearsal}
    (p : simulator.Passes C r h t) :
    ∃ moves, t = r.after moves ∧ ∀ x, .change x ∈ moves → C x := by
  induction p with
  | refl => exact ⟨[], rfl, nofun⟩
  | call c before ih =>
    obtain ⟨moves, rfl, within⟩ := ih
    refine ⟨moves ++ [.call c], ?_, fun x hx => within x ?_⟩
    · rw [after_append]
      rfl
    · simpa using hx
  | change x allowed before ih =>
    obtain ⟨moves, rfl, within⟩ := ih
    refine ⟨moves ++ [.change x], ?_, fun y hy => ?_⟩
    · rw [after_append]
      rfl
    · rcases List.mem_append.1 hy with old | new
      · exact within y old
      · cases List.mem_singleton.1 new
        exact allowed

end Rehearsal

open Rehearsal

/-- Whatever is done in a session comes down to moves of the sequencer. -/
theorem Play.run_after {C : Change → Prop} (bound : Nat) {p : Play Rehearsal Change}
    (hp : p.scene.Within C) {steps : List (Step Change)} (hs : ∀ step ∈ steps, step.Within C) :
    ∃ moves, (p.run simulator bound steps).2.scene.sequencer = p.scene.sequencer.after moves ∧
      ∀ x, .change x ∈ moves → C x := by
  induction steps generalizing p with
  | nil => exact ⟨[], rfl, nofun⟩
  | cons step steps ih =>
    obtain ⟨first, rest⟩ := List.forall_mem_cons.1 hs
    obtain ⟨does, within⟩ := p.step_does simulator bound hp first
    have passed : ∃ h, simulator.Passes C p.scene.sequencer h
        (p.step simulator bound step).2.scene.sequencer := by
      cases does with
      | performs operation h result asked traces outcome session passes => exact ⟨_, passes⟩
      | idles asked outcome session passes => exact ⟨[], passes⟩
    obtain ⟨h, passes⟩ := passed
    obtain ⟨moves, reached, allowed⟩ := passes_after passes
    obtain ⟨later, last, allowed'⟩ := ih within rest
    refine ⟨moves ++ later, ?_, fun x hx => ?_⟩
    · rw [after_append, ← reached]
      exact last
    · exact (List.mem_append.1 hx).elim (allowed x) (allowed' x)

namespace Rehearsal

/-- Whatever is called, be it forced to fail, and whatever others do, the tables stay in order.
Where the ports that others register have different numbers and are none of our own, all ports have,
and the numbers of our own ports and of the queues are given out in order. No snapshot that is
stored changes the numbers of a port. Sessions come down to such moves. -/
theorem tables_kept {r : Rehearsal} {clients : List ClientInfo} {ports : List PortInfo}
    (seeded : r.store.Seeded clients ports) (moves : List Move) :
    (r.after moves).store.Sorted ∧
    (((ports ++ seeds moves).map PortInfo.ids).Nodup →
      (∀ p ∈ ports ++ seeds moves, p.clientId ≠ r.store.clientId) →
      ((r.after moves).store.ports.map PortInfo.ids).Nodup ∧ ∀ k, Numbers k r moves) ∧
    (∀ port info, ((r.after moves).answer (.command (.setPortInfo port info))).2.store.ports.map
      PortInfo.ids = (r.after moves).store.ports.map PortInfo.ids) ∧
    ∀ (C : Change → Prop) (bound : Nat) (p : Play Rehearsal Change) (steps : List (Step Change)),
      p.scene.sequencer = r → p.scene.Within C → (∀ step ∈ steps, step.Within C) →
      ∃ moves, (p.run simulator bound steps).2.scene.sequencer = r.after moves ∧
        ∀ x, .change x ∈ moves → C x := by
  refine ⟨after_keeps_sorted seeded.sorted moves, fun distinct foreign => ?_, fun port info => ?_,
    ?_⟩
  · have awaits : r.store.Awaits (seeds moves) := seeded.awaits distinct foreign
    have counts (k : Stock) : k.Counts r.store [] :=
      seeded.counts fun p hp => foreign p (List.mem_append_left _ hp)
    have throughout : r.store.Awaits (seeds moves ++ []) := (List.append_nil _).symm ▸ awaits
    have last := (after_counts throughout (counts .ports)).1
    exact ⟨last.tidy.ports, fun k => numbers_of_counts awaits (counts k)⟩
  · by_cases works : (r.after moves).Works (.setPortInfo port info)
    · rw [(answer_of_works works).2]
      exact Store.ids_setPortInfo _ port info
    · rw [answer_of_forced works]
  · rintro C bound p steps rfl hp hs
    exact Play.run_after bound hp hs

/-- The first port and the first queue are forced to fail; another client registers a port whose
numbers a snapshot of our own port says, too. -/
theorem tables_kept_forced :
    let r : Rehearsal :=
      { store := Store.initial 128
        script := ⟨[("create_simple_port", [some 7]), ("alloc_queue", [some Status.invalid])]⟩ }
    let foreign : PortInfo := { clientId := 20, portId := 5 }
    let create : Move := .call (.command (.createPort "in" .writePort .program))
    let alloc : Move := .call (.command (.allocQueue none))
    let free : Move := .call (.command (.freeQueue 0))
    let before := [create, create, .change (.setup [] [foreign]), alloc, alloc]
    let later := [create, alloc, .call (.command (.setPortInfo 0 foreign))]
    let moves := before ++ free :: later
    r.store.Seeded r.store.clients r.store.ports ∧
    ((r.store.ports ++ seeds moves).map PortInfo.ids).Nodup ∧
    (∀ p ∈ r.store.ports ++ seeds moves, p.clientId ≠ r.store.clientId) ∧
    (r.after before).Works (.freeQueue 0) ∧
    made .ports r moves = [0, 1] ∧ made .queues r moves = [0, 1] ∧
    (r.after moves).store.Sorted ∧ ((r.after moves).store.ports.map PortInfo.ids).Nodup ∧
    0 ∈ made .queues r before ∧ 0 ∉ made .queues (r.after before) (free :: later) := by
  intro r foreign create alloc free before later moves
  have seeded : r.store.Seeded r.store.clients r.store.ports := Store.initial_seeded 128
  have distinct : ((r.store.ports ++ seeds moves).map PortInfo.ids).Nodup := by decide
  have others : ∀ p ∈ r.store.ports ++ seeds moves, p.clientId ≠ r.store.clientId := by decide
  have works : (r.after before).Works (.freeQueue 0) := by decide
  obtain ⟨sorted, numbered, -⟩ := tables_kept seeded moves
  obtain ⟨ids, numbers⟩ := numbered distinct others
  obtain ⟨given, -, never⟩ := (numbers .queues).gone before later 0 rfl works (by decide)
  exact ⟨seeded, distinct, others, works, by rfl, by rfl, sorted, ids, given, never⟩

end Rehearsal

end MidiSequencer
