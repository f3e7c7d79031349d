import MidiSequencer.Proofs.Failures.Reporting
import MidiSequencer.Proofs.Listing.Exactness

/-! # Traversals

Clients and ports one after the other: asked for, each behind the last, or pulled from an iterator.
In the tables of a store both meet the first record of every number and then nothing more. Whatever
is answered, an iterator that has come to its end, or to an error, stays there. -/
namespace MidiSequencer

open Program (Traces Yields yields_done)

namespace Enumeration

variable {ι : Type}

def pulls (e : Enumeration ι) : Nat → Cursor → Dialogue (List (Option (Except Error ι)))
  | 0, _ => .done []
  | k + 1, cursor => do
    let (item, cursor) ← e.step cursor
    let rest ← e.pulls k cursor
    return item :: rest

/-- An enumeration whose iterator stays at its end. -/
structure Fused (e : Enumeration ι) : Prop where
  pull {cursor : Cursor} {h : Dialogue.History} {o : Option (Option (Except Error ι) × Cursor)} :
    Traces (e.step cursor) h o → h.length ≤ 1 ∧ ∃ x, o = some x
  /-- There are entries only, then an error at most, and then nothing. -/
  items {k : Nat} {h : Dialogue.History} {o : Option (List (Option (Except Error ι)))} :
    Traces (e.pulls k {}) h o → ∃ (found : List ι) (last : Option Error) (idle : Nat),
      o = some (found.map (some ∘ .ok) ++ last.toList.map (some ∘ .error) ++
        List.replicate idle none)
  collected {steps : Nat} {h : Dialogue.History} {items : List (Except Error ι)} :
    Traces (e.items steps {}) h (some items) → ∃ (found : List ι) (last : Option Error),
      items = found.map .ok ++ last.toList.map .error
  /-- Behind an error and behind the end nothing is asked, and nothing is yielded. -/
  idle {cursor next : Cursor} {h : Dialogue.History} {item : Option (Except Error ι)} :
    Traces (e.step cursor) h (some (item, next)) → (∀ a, item ≠ some (.ok a)) →
    ∀ k, e.pulls k next = .done (List.replicate k none)

variable {e : Enumeration ι}

theorem pulls_succ (k : Nat) (cursor : Cursor) : e.pulls (k + 1) cursor =
    e.step cursor >>= fun x => e.pulls k x.2 >>= fun rest => .done (x.1 :: rest) := rfl

theorem pulls_of_finished {cursor : Cursor} (hc : cursor.finished = true) (k : Nat) :
    e.pulls k cursor = .done (List.replicate k none) := by
  induction k with
  | zero => rfl
  | succ k ih =>
    rw [pulls_succ, step_of_finished hc, Program.done_bind, ih]
    rfl

inductive Pulled (e : Enumeration ι) : Option (Except Error ι) → Cursor → Prop where
  | entry (a : ι) {next : Cursor} (going : next.finished = false) : Pulled e (some (.ok a)) next
  | error (err : Error) {next : Cursor} (finished : next.finished = true) :
      Pulled e (some (.error err)) next
  | exhausted {next : Cursor} (finished : next.finished = true) : Pulled e none next

theorem pulled_of_traces {cursor next : Cursor} {h : Dialogue.History}
    {item : Option (Except Error ι)} (ht : Traces (e.step cursor) h (some (item, next))) :
    Pulled e item next := by
  cases hc : cursor.finished with
  | true =>
    rw [step_of_finished hc] at ht
    obtain ⟨-, same⟩ := Program.traces_done_iff.1 ht
    cases same
    exact .exhausted hc
  | false =>
    rw [step_of_unfinished hc] at ht
    rcases Program.traces_bind_iff.1 ht with ⟨_, result, _, -, -, rest⟩ | ⟨cut, -⟩
    · rcases result with err | (_ | a)
      · obtain ⟨-, same⟩ := Program.traces_done_iff.1 rest
        cases same
        exact .error err rfl
      · obtain ⟨-, same⟩ := Program.traces_done_iff.1 rest
        cases same
        exact .exhausted rfl
      · obtain ⟨-, same⟩ := Program.traces_done_iff.1 rest
        cases same
        exact .entry a hc
    · cases cut

/-- An iterator that is drained leaves out what comes behind an error. -/
theorem collected_of_traces {steps : Nat} {cursor : Cursor} {h : Dialogue.History}
    {items : List (Except Error ι)} (ht : Traces (e.items steps cursor) h (some items)) :
    ∃ (found : List ι) (last : Option Error),
      items = found.map .ok ++ last.toList.map .error := by
  induction steps generalizing cursor h items with
  | zero => cases ht
  | succ steps ih =>
    rw [Enumeration.items] at ht
    obtain ⟨_, ⟨item, next⟩, _, -, hs, hr⟩ :=
      Program.runs_bind_iff.1 (Program.traces_some_iff.1 ht)
    cases pulled_of_traces (Program.traces_some_iff.2 hs) with
    | entry a going =>
      obtain ⟨_, rest, _, -, hp, hd⟩ := Program.runs_bind_iff.1 hr
      obtain ⟨found, last, rfl⟩ := ih (Program.traces_some_iff.2 hp)
      obtain ⟨-, rfl⟩ := Program.runs_done_iff.1 hd
      exact ⟨a :: found, last, rfl⟩
    | error err finished =>
      obtain ⟨_, rest, _, -, hp, hd⟩ := Program.runs_bind_iff.1 hr
      obtain ⟨-, rfl⟩ := Program.runs_done_iff.1 hd
      cases steps with
      | zero => cases hp
      | succ steps =>
        rw [items_of_finished finished] at hp
        obtain ⟨-, rfl⟩ := Program.runs_done_iff.1 hp
        exact ⟨[], some err, rfl⟩
    | exhausted finished =>
      obtain ⟨-, rfl⟩ := Program.runs_done_iff.1 hr
      exact ⟨[], none, rfl⟩

theorem pull_of_traces (once : ∀ previous, AsksOnce (e.next previous)) {cursor : Cursor}
    {h : Dialogue.History} {o : Option (Option (Except Error ι) × Cursor)}
    (ht : Traces (e.step cursor) h o) : h.length ≤ 1 ∧ ∃ x, o = some x := by
  cases hc : cursor.finished with
  | true =>
    rw [step_of_finished hc] at ht
    obtain ⟨rfl, rfl⟩ := Program.traces_done_iff.1 ht
    exact ⟨Nat.zero_le 1, _, rfl⟩
  | false =>
    rw [step_of_unfinished hc] at ht
    have whole (h : Dialogue.History) : ¬ Traces (e.next cursor.previous).run h none :=
      fun cut => ((once _).traces cut).1 rfl
    obtain ⟨asked, result, rest, rfl, hn, hr⟩ := Program.traces_bind_of_ends whole ht
    have ended : rest = [] ∧ ∃ x, o = some x := by
      rcases result with err | (_ | a) <;>
        exact (Program.traces_done_iff.1 hr).imp id fun ho => ⟨_, ho⟩
    obtain ⟨rfl, ends⟩ := ended
    rw [List.append_nil]
    exact ⟨(once _).length_le hn, ends⟩

/-- By induction on the pulls: each that finds an entry leaves the rest to those that follow. -/
theorem items_of_traces (once : ∀ previous, AsksOnce (e.next previous)) {k : Nat}
    {cursor : Cursor} {h : Dialogue.History}
    {o : Option (List (Option (Except Error ι)))} (ht : Traces (e.pulls k cursor) h o) :
    ∃ (found : List ι) (last : Option Error) (idle : Nat),
      o = some (found.map (some ∘ .ok) ++ last.toList.map (some ∘ .error) ++
        List.replicate idle none) := by
  induction k generalizing cursor h o with
  | zero =>
    obtain ⟨-, rfl⟩ := Program.traces_done_iff.1 ht
    exact ⟨[], none, 0, rfl⟩
  | succ k ih =>
    rw [pulls_succ] at ht
    rcases Program.traces_bind_iff.1 ht with ⟨_, ⟨item, next⟩, _, rfl, hs, hr⟩ | ⟨-, cut⟩
    · cases pulled_of_traces hs with
      | entry a going =>
        rcases Program.traces_bind_iff.1 hr with ⟨_, rest, _, rfl, hp, hd⟩ | ⟨-, cut⟩
        · obtain ⟨found, last, idle, same⟩ := ih hp
          obtain ⟨-, rfl⟩ := Program.traces_done_iff.1 hd
          cases same
          exact ⟨a :: found, last, idle, rfl⟩
        · obtain ⟨_, _, _, ended⟩ := ih cut
          cases ended
      | error err finished =>
        rw [pulls_of_finished finished] at hr
        obtain ⟨-, rfl⟩ := Program.traces_done_iff.1 hr
        exact ⟨[], some err, k, rfl⟩
      | exhausted finished =>
        rw [pulls_of_finished finished] at hr
        obtain ⟨-, rfl⟩ := Program.traces_done_iff.1 hr
        exact ⟨[], none, k + 1, rfl⟩
    · obtain ⟨-, _, ended⟩ := pull_of_traces once cut
      cases ended

theorem fused_of_asksOnce (once : ∀ previous, AsksOnce (e.next previous)) : e.Fused where
  pull := pull_of_traces once
  items := items_of_traces once
  collected := collected_of_traces
  idle {cursor next h item} ht other k := by
    cases pulled_of_traces ht with
    | entry a going => exact absurd rfl (other a)
    | error err finished => exact pulls_of_finished finished k
    | exhausted finished => exact pulls_of_finished finished k

end Enumeration

namespace Enumeration.Climbs

variable {ι σ : Type} {e : Enumeration ι} {m : Machine Request Request.Answer σ} {I : σ → Prop}
  {stands : Previous → Int → Prop} {number : ι → Int} {table : List ι}
  (he : e.Climbs m I stands number table)
include he

theorem step {cursor : Cursor} {n : Int} (hn : stands cursor.previous n)
    (hc : cursor.finished = false) : Yields m I (e.step cursor)
      (match table.find? (n < number ·) with
        | some a => (some (.ok a), { cursor with previous := e.previous a })
        | none => (none, { cursor with finished := true })) := by
  rw [step_of_unfinished hc]
  apply (he.next hn).bind
  cases table.find? (n < number ·) <;> exact yields_done _

theorem pulls (k : Nat) {cursor : Cursor} {n : Int} (hn : stands cursor.previous n)
    (hc : cursor.finished = false) : Yields m I (e.pulls k cursor)
      ((List.range k).map fun i => (ascent number n table)[i]?.map .ok) := by
  induction k generalizing cursor n with
  | zero => exact yields_done _
  | succ k ih =>
    have pulled := he.step hn hc
    rw [pulls_succ, List.range_succ_eq_map, List.map_cons, List.map_map]
    apply pulled.bind
    cases found : table.find? (n < number ·) with
    | none =>
      dsimp only
      rw [pulls_of_finished rfl, ascent_of_find?_none number found]
      have nothing : List.replicate k none = (List.range k).map
          ((fun i => ([] : List ι)[i]?.map (Except.ok (ε := Error))) ∘ Nat.succ) := by
        simp [Function.comp_def, List.map_const']
      rw [nothing]
      exact yields_done _
    | some a =>
      have member : a ∈ table := List.mem_of_find?_eq_some found
      dsimp only
      rw [ascent_of_find?_some number found]
      exact (@ih { cursor with previous := e.previous a } _ (he.previous member) hc).bind
        (yields_done _)

theorem items {steps : Nat} {cursor : Cursor} {n : Int} (hn : stands cursor.previous n)
    (hc : cursor.finished = false) (enough : (ascent number n table).length < steps) :
    Yields m I (e.items steps cursor) ((ascent number n table).map .ok) := by
  induction steps generalizing cursor n with
  | zero => omega
  | succ steps ih =>
    rw [items_succ hc]
    apply (he.next hn).bind
    cases found : table.find? (n < number ·) with
    | none =>
      rw [ascent_of_find?_none number found]
      exact yields_done _
    | some a =>
      have climb := ascent_of_find?_some number found
      have member : a ∈ table := List.mem_of_find?_eq_some found
      have fewer : (ascent number (number a) table).length < steps := by
        rw [climb, List.length_cons] at enough
        omega
      rw [climb]
      exact (@ih { cursor with previous := e.previous a } _ (he.previous member) hc fewer).bind
        (yields_done _)

end Enumeration.Climbs

/-- A way to go through clients or through ports: a question for the entry behind another, with its
answer, and an operation that drains the iterator. -/
structure Inquiry (ι : Type) where
  ask : Previous → Operation
  answer : Option ι → Value
  collect : Operation
  collected : List (Except Error ι) → Value
  source : Connection → Enumeration ι
  snapshot : ι → Previous
  number : ι → Int
  asks {s : Session} (blocking : s.mode = .blocking) (bound : Nat) (previous : Previous) :
    s.perform bound (ask previous) = s.report answer ((source s.connection).next previous)
  collects (s : Session) (bound : Nat) : s.perform bound collect =
    (source s.connection).items bound {} >>= fun items => .done (.value (collected items), s)
  source_previous (c : Connection) : (source c).previous = snapshot
  answer_inj {a b : Option ι} : answer a = answer b → a = b

namespace Inquiry

def clients : Inquiry ClientInfo where
  ask := .nextClient
  answer := .client?
  collect := .clients
  collected := .clients
  source := Connection.clients
  snapshot := .ofClient
  number := ClientInfo.clientId
  asks blocking bound previous := by
    simp only [Session.perform, Session.onlyBlocking, blocking]
    rfl
  collects _ _ := rfl
  source_previous _ := rfl
  answer_inj h := by cases h; rfl

def portsOf (client : Int) : Inquiry PortInfo where
  ask := .nextPort client
  answer := .port?
  collect := .ports client
  collected := .ports
  source c := c.ports client
  snapshot := .ofPort
  number := PortInfo.portId
  asks blocking bound previous := by
    simp only [Session.perform, Session.onlyBlocking, blocking]
    rfl
  collects _ _ := rfl
  source_previous _ := rfl
  answer_inj h := by cases h; rfl

variable {ι σ χ : Type} (q : Inquiry ι) (m : Simulator σ χ) (bound : Nat) (p : Play σ χ)

/-- Questions from the start on, each behind the last answer, which is told as it was given or by
its number alone: what they found, what they left behind, and where to go on. -/
inductive Walks : List ι → Play σ χ → Previous → Prop where
  | start : Walks [] p .start
  | next {found : List ι} {r : Play σ χ} {previous next : Previous} {a : ι}
      (before : Walks found r previous)
      (answered : (r.perform m bound (q.ask previous)).1 = some (.value (q.answer (some a))))
      (goesOn : next = .id (q.number a) ∨ next = q.snapshot a) :
      Walks (found ++ [a]) (r.perform m bound (q.ask previous)).2 next

structure Meets (seq : List ι) : Prop where
  /-- However one goes on from the answers, each question finds the next entry, until there is
  none. -/
  walk {found : List ι} {r : Play σ χ} {previous : Previous} : p.session.mode = .blocking →
    q.Walks m bound p found r previous → found <+: seq ∧
    (r.perform m bound (q.ask previous)).1 = some (.value (q.answer seq[found.length]?))
  ends : p.session.mode = .blocking → ∃ r previous, q.Walks m bound p seq r previous
  pulls (k : Nat) : (((q.source p.session.connection).pulls k {}).run (Scene.answer m) p.scene).1 =
    some ((List.range k).map fun i => seq[i]?.map .ok)
  collect : (p.perform m bound q.collect).1 = some (.value (q.collected (seq.map .ok)))

variable {q m bound p} {I : Scene σ χ → Prop} {stands : Previous → Int → Prop} {table : List ι}
  {found : List ι} {r : Play σ χ} {previous : Previous}

/-- Where a walk has come to: what it has not found yet is the ascent from there. -/
structure Reached (q : Inquiry ι) (p : Play σ χ) (I : Scene σ χ → Prop)
    (stands : Previous → Int → Prop) (table found : List ι) (r : Play σ χ) (previous : Previous) :
    Prop where
  session : r.session = p.session
  scene : I r.scene
  rest : ∃ n, stands previous n ∧ ascent q.number (-1) table = found ++ ascent q.number n table

theorem getElem?_length_append (l : List ι) (rest : List ι) :
    (l ++ rest)[l.length]? = rest.head? := by
  rw [List.getElem?_append_right (Nat.le_refl _), Nat.sub_self, List.head?_eq_getElem?]

section

variable (he : (q.source p.session.connection).Climbs (Scene.answer m) I stands q.number table)
  (byNumber : ∀ n, stands (.id n) n) (blocking : p.session.mode = .blocking)
  (start : stands .start (-1))

include he blocking

variable (bound) in
theorem Reached.answer (reached : Reached q p I stands table found r previous) :
    (r.perform m bound (q.ask previous)).1 =
        some (.value (q.answer (ascent q.number (-1) table)[found.length]?)) ∧
      (r.perform m bound (q.ask previous)).2.session = p.session ∧
      I (r.perform m bound (q.ask previous)).2.scene := by
  obtain ⟨session, scene, n, stands, rest⟩ := reached
  have yields : Yields (Scene.answer m) I (r.session.perform bound (q.ask previous))
      (.value (q.answer (table.find? (n < q.number ·))), r.session) := by
    rw [session, q.asks blocking]
    exact (he.next stands).bind (yields_done _)
  obtain ⟨ended, kept⟩ := yields r.scene scene
  rw [Play.perform_eq, rest, getElem?_length_append, head?_ascent]
  dsimp only
  rw [ended]
  exact ⟨rfl, session, kept⟩

include byNumber

theorem Reached.next {a : ι} {next : Previous}
    (reached : Reached q p I stands table found r previous)
    (entry : (ascent q.number (-1) table)[found.length]? = some a)
    (goesOn : next = .id (q.number a) ∨ next = q.snapshot a) :
    Reached q p I stands table (found ++ [a]) (r.perform m bound (q.ask previous)).2 next := by
  obtain ⟨-, session, scene⟩ := reached.answer bound he blocking
  obtain ⟨n, -, rest⟩ := reached.rest
  rw [rest, getElem?_length_append, head?_ascent] at entry
  refine ⟨session, scene, q.number a, ?_, ?_⟩
  · rcases goesOn with rfl | rfl
    · exact byNumber _
    · rw [← q.source_previous p.session.connection]
      exact he.previous (List.mem_of_find?_eq_some entry)
  · rw [rest, ascent_of_find?_some q.number entry, List.append_assoc, List.singleton_append]

include start

theorem reached_of_walks (hp : I p.scene) (walks : q.Walks m bound p found r previous) :
    Reached q p I stands table found r previous := by
  induction walks with
  | start => exact ⟨rfl, hp, -1, start, rfl⟩
  | next before answered goesOn ih =>
    have given := (ih.answer bound he blocking).1.symm.trans answered
    have entry := q.answer_inj (Outcome.value.inj (Option.some.inj given))
    exact ih.next he byNumber blocking entry goesOn

variable (bound) in
theorem exists_walk (hp : I p.scene) (k : Nat) (enough : k ≤ (ascent q.number (-1) table).length) :
    ∃ r previous, q.Walks m bound p ((ascent q.number (-1) table).take k) r previous := by
  induction k with
  | zero => exact ⟨p, .start, .start⟩
  | succ k ih =>
    obtain ⟨r, previous, walks⟩ := ih (Nat.le_of_succ_le enough)
    have reached := reached_of_walks he byNumber blocking start hp walks
    have given := (reached.answer bound he blocking).1
    rw [List.length_take_of_le (Nat.le_of_succ_le enough), List.getElem?_eq_getElem enough] at given
    rw [List.take_succ_eq_append_getElem enough]
    exact ⟨_, _, walks.next given (.inl rfl)⟩

end

theorem meets_of_climbs
    (he : (q.source p.session.connection).Climbs (Scene.answer m) I stands q.number table)
    (start : stands .start (-1)) (byNumber : ∀ n, stands (.id n) n) (hp : I p.scene)
    (enough : table.length < bound) : q.Meets m bound p (ascent q.number (-1) table) where
  walk {found r previous} blocking walks := by
    have reached := reached_of_walks he byNumber blocking start hp walks
    obtain ⟨n, -, rest⟩ := reached.rest
    exact ⟨⟨_, rest.symm⟩, (reached.answer bound he blocking).1⟩
  ends blocking := by
    have whole := exists_walk bound he byNumber blocking start hp _ (Nat.le_refl _)
    rwa [List.take_length] at whole
  pulls k := (he.pulls k start rfl p.scene hp).1
  collect := by
    have short := Nat.lt_of_le_of_lt (ascent_sublist q.number (-1) table).length_le enough
    have drained : Yields (Scene.answer m) I (p.session.perform bound q.collect)
        (.value (q.collected ((ascent q.number (-1) table).map .ok)), p.session) := by
      rw [q.collects]
      exact (he.items start rfl short).bind (yields_done _)
    rw [Play.perform_eq]
    exact congrArg (Option.map Prod.fst) (drained p.scene hp).1

end Inquiry

structure CursorTraversal : Prop where
  /-- For all tables of a store there is one sequence of clients, the first records of all numbers
  that are not negative, in ascending order, which questions and iterator meet. -/
  clients (bound : Nat) (p : Play Rehearsal Rehearsal.Change) : p.CanList bound →
    p.scene.sequencer.store.Sorted → ∃ seq,
      (seq.Pairwise fun a b : ClientInfo => a.clientId < b.clientId) ∧
      (∀ c, c ∈ seq ↔ p.scene.sequencer.store.FirstClient c) ∧
      Inquiry.clients.Meets Rehearsal.simulator bound p seq
  ports (bound : Nat) (p : Play Rehearsal Rehearsal.Change) (client : Int) : p.CanList bound →
    p.scene.sequencer.store.Sorted → ∃ seq,
      (seq.Pairwise fun a b : PortInfo => a.portId < b.portId) ∧
      (∀ x, x ∈ seq ↔ x.clientId = client ∧ p.scene.sequencer.store.FirstPort x) ∧
      (Inquiry.portsOf client).Meets Rehearsal.simulator bound p seq
  /-- Whatever the sequencer is, a client as it was given and its number are the same to go on
  from. -/
  fromClient {σ χ : Type} (m : Simulator σ χ) (bound : Nat) (p : Play σ χ) (c : ClientInfo) :
    p.perform m bound (.nextClient (.ofClient c)) = p.perform m bound (.nextClient (.id c.clientId))
  fromPort {σ χ : Type} (m : Simulator σ χ) (bound : Nat) (p : Play σ χ) (x : PortInfo) :
    p.perform m bound (.nextPort x.clientId (.ofPort x)) =
      p.perform m bound (.nextPort x.clientId (.id x.portId))
  /-- Whatever is answered, an iterator over clients stays at its end. -/
  clientsFused (c : Connection) : c.clients.Fused
  portsFused (c : Connection) (client : Int) : (c.ports client).Fused

/-- Whoever goes through the tables meets every number once, and comes to an end. -/
theorem cursor_traversal : CursorTraversal where
  clients bound p := by
    intro hp hs
    have climbs := Connection.clients_climbs (Rehearsal.searched p.scene.sequencer.store) hp.isOpen
    refine ⟨_, pairwise_ascent _ _ _, fun c => Store.mem_clients_iff hs, ?_⟩
    exact Inquiry.meets_of_climbs climbs rfl (fun _ => rfl) ⟨rfl, hp.script⟩ hp.clients
  ports bound p client := by
    intro hp hs
    have climbs := Connection.ports_climbs (Rehearsal.searched p.scene.sequencer.store) hp.isOpen
      client
    have short := Nat.lt_of_le_of_lt (List.length_filter_le (·.clientId == client) _) hp.ports
    refine ⟨_, pairwise_ascent _ _ _, fun x => Store.mem_portsOf_iff hs, ?_⟩
    exact Inquiry.meets_of_climbs climbs rfl (fun _ => rfl) ⟨rfl, hp.script⟩ short
  fromClient m bound p c := rfl
  fromPort m bound p x := by
    have owned : (Previous.ofPort x).inPortsOf x.clientId = .ok x.portId := if_pos rfl
    have same : p.session.connection.nextPort x.clientId (.ofPort x) =
        p.session.connection.nextPort x.clientId (.id x.portId) := by
      unfold Connection.nextPort
      rw [owned]
      rfl
    simp only [Play.perform_eq, Session.perform, same]
  clientsFused c := Enumeration.fused_of_asksOnce c.asksOnce_nextClient
  portsFused c client := Enumeration.fused_of_asksOnce (c.asksOnce_nextPort client)

/-- Numbers that stand in the tables twice, and negative ones. -/
theorem cursor_traversal_crowded :
    let client (clientId : Int) (name : String) : ClientInfo := { clientId, name }
    let port (clientId portId : Int) (name : String) : PortInfo := { clientId, portId, name }
    let store : Store :=
      { clientId := 128
        clients := [client (-3) "Nobody", client 20 "Keyboard", client 20 "Drums", client 128 "Own"]
        ports := [port 7 0 "Lost", port 20 (-1) "None", port 20 0 "First", port 20 0 "Second",
          port 20 2 "Out"] }
    let p : Play Rehearsal Rehearsal.Change :=
      { session := { mode := .blocking, connection := { clientId := 128 } }
        scene := { sequencer := { store } } }
    (p.CanList 6 ∧ store.Sorted ∧ p.session.mode = .blocking) ∧
      (∃ seq, (seq.Pairwise fun a b : ClientInfo => a.clientId < b.clientId) ∧
        (∀ c, c ∈ seq ↔ store.FirstClient c) ∧
        Inquiry.clients.Meets Rehearsal.simulator 6 p seq) ∧
      ∃ seq, (seq.Pairwise fun a b : PortInfo => a.portId < b.portId) ∧
        (∀ x, x ∈ seq ↔ x.clientId = 20 ∧ store.FirstPort x) ∧
        (Inquiry.portsOf 20).Meets Rehearsal.simulator 6 p seq := by
  intro client port store p
  have lists : p.CanList 6 :=
    { isOpen := rfl
      script := fun row member => by cases member
      clients := by decide
      ports := by decide }
  have sorted : store.Sorted :=
    { clients := by decide
      ports := by simp [store, port, Store.IdsLe, PortInfo.ids] }
  exact ⟨⟨lists, sorted, rfl⟩, cursor_traversal.clients 6 p lists sorted,
    cursor_traversal.ports 6 p 20 lists sorted⟩

end MidiSequencer
