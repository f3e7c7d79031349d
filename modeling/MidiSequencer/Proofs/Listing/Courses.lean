import MidiSequencer.Proofs.Listing.Searches

/-! # Courses of listings

Which calls a listing makes, one after the other, and what comes of them, when each search for a
next entry may also be made to fail. -/
namespace MidiSequencer

/-- The questions for the ports of a client from behind a number on: up to the one that finds no
further port, with all that were found, or to one that fails, with its error. -/
inductive PortCourse (client : Int) : Int → Call.History → Except Error (List PortInfo) → Prop where
  | ended (n : Int) : PortCourse client n [⟨.nextPort client n, .error Status.notFound⟩] (.ok [])
  | failed (n : Int) (s : Status) (negative : s < 0) (other : s ≠ Status.notFound) :
      PortCourse client n [⟨.nextPort client n, .error s⟩]
        (.error (.service (Call.nextPort client n).label s))
  | found (n : Int) (p : PortInfo) {h : Call.History} {ports : Except Error (List PortInfo)}
      (rest : PortCourse client p.portId h ports) :
      PortCourse client n (⟨.nextPort client n, .ok p⟩ :: h) (ports.map (p :: ·))

def PortFilter.kept (f : PortFilter) (c : ClientInfo) (ports : List PortInfo) : List PortInfo :=
  (ports.filter f.acceptsPort).map fun p => { p with clientName := c.name }

/-- The questions of a listing from behind a client on, with what is listed or with the error of the
last of them. Behind a client that is not skipped come the questions for its ports. -/
inductive ListingCourse (f : PortFilter) :
    Int → Call.History → Except Error (List PortInfo) → Prop where
  | ended (n : Int) : ListingCourse f n [⟨.nextClient n, .error Status.notFound⟩] (.ok [])
  | failed (n : Int) (s : Status) (negative : s < 0) (other : s ≠ Status.notFound) :
      ListingCourse f n [⟨.nextClient n, .error s⟩]
        (.error (.service (Call.nextClient n).label s))
  | skipped (n : Int) (c : ClientInfo) (refused : f.acceptsClient c = false) {h : Call.History}
      {listed : Except Error (List PortInfo)} (rest : ListingCourse f c.clientId h listed) :
      ListingCourse f n (⟨.nextClient n, .ok c⟩ :: h) listed
  | visited (n : Int) (c : ClientInfo) (accepted : f.acceptsClient c = true)
      {h h' : Call.History} {ports : List PortInfo} {listed : Except Error (List PortInfo)}
      (visit : PortCourse c.clientId (-1) h (.ok ports))
      (rest : ListingCourse f c.clientId h' listed) :
      ListingCourse f n (⟨.nextClient n, .ok c⟩ :: (h ++ h')) (listed.map (f.kept c ports ++ ·))
  | broken (n : Int) (c : ClientInfo) (accepted : f.acceptsClient c = true) {h : Call.History}
      {e : Error} (visit : PortCourse c.clientId (-1) h (.error e)) :
      ListingCourse f n (⟨.nextClient n, .ok c⟩ :: h) (.error e)

/-- From every state of `I` the program ends in such a state, with a value and calls, which are
logged, that satisfy `P`. -/
def Program.Achieves {Q : Type} {A : Q → Type} {σ α : Type} (m : Machine Q A σ) (I : σ → Prop)
    (log : σ → Call.History) (P : Call.History → α → Prop) (p : Program Q A α) : Prop :=
  ∀ s, I s → ∃ h a, (p.run m s).1 = some a ∧ I (p.run m s).2 ∧
    log (p.run m s).2 = log s ++ h ∧ P h a

namespace Program

variable {Q : Type} {A : Q → Type} {σ α β : Type} {m : Machine Q A σ} {I : σ → Prop}
  {log : σ → Call.History} {P : Call.History → α → Prop} {R : Call.History → β → Prop}

theorem achieves_done {a : α} (h : P [] a) : Achieves m I log P (.done a) :=
  fun _ hs => ⟨[], a, rfl, hs, (List.append_nil _).symm, h⟩

theorem Achieves.bind {p : Program Q A α} {f : α → Program Q A β} (hp : Achieves m I log P p)
    (hf : ∀ h a, P h a → Achieves m I log (fun h' b => R (h ++ h') b) (f a)) :
    Achieves m I log R (p >>= f) := by
  intro s hs
  obtain ⟨h, a, ended, kept, logged, ha⟩ := hp s hs
  obtain ⟨h', b, ended', kept', logged', hb⟩ := hf h a ha _ kept
  have runs : (p >>= f).run m s = (f a).run m (p.run m s).2 := by
    rw [run_bind, ← Prod.eta (p.run m s), ended]
  refine ⟨h ++ h', b, ?_, ?_, ?_, hb⟩
  · rw [runs, ended']
  · rw [runs]
    exact kept'
  · rw [runs, logged', logged, List.append_assoc]

theorem Achieves.mono {P' : Call.History → α → Prop} {p : Program Q A α}
    (hp : Achieves m I log P p) (hP : ∀ h a, P h a → P' h a) : Achieves m I log P' p := by
  intro s hs
  obtain ⟨h, a, ended, kept, logged, ha⟩ := hp s hs
  exact ⟨h, a, ended, kept, logged, hP h a ha⟩

end Program

open Program (Achieves achieves_done)

inductive Found {ι : Type} (c : Call) (entry : Option ι) :
    Except Status ι → Except Error (Option ι) → Prop where
  | entry (a : ι) (there : entry = some a) : Found c entry (.ok a) (.ok (some a))
  | nothing : Found c entry (.error Status.notFound) (.ok none)
  | failed (s : Status) (negative : s < 0) (other : s ≠ Status.notFound) :
      Found c entry (.error s) (.error (.service c.label s))

theorem found_checkNext {ι : Type} (c : Call) {test : ι → Bool} {table : List ι}
    {answer : Except Status ι} (h : answer = Store.find test table ∨ ∃ s < 0, answer = .error s) :
    Found c (table.find? test) answer (checkNext c answer) := by
  have failed (s : Status) (negative : s < 0) :
      Found c (table.find? test) (.error s) (checkNext c (.error s)) := by
    by_cases same : s = Status.notFound
    · subst same
      exact .nothing
    · have reported : checkNext c (.error s : Except Status ι) = .error (.service c.label s) := by
        simp only [checkNext, checkStatus, if_neg same, if_pos negative]
        rfl
      rw [reported]
      exact .failed s negative same
  rcases h with rfl | ⟨s, negative, rfl⟩
  · unfold Store.find
    cases table.find? test with
    | none => exact .nothing
    | some a => exact .entry a rfl
  · exact failed s negative

namespace Enumeration

variable {ι β σ : Type} {e : Enumeration ι} {m : Machine Request Request.Answer σ} {I : σ → Prop}
  {log : σ → Call.History} {stands : Previous → Int → Prop} {number : ι → Int} {table : List ι}
  {exchange : Int → Except Status ι → Program.Exchange Call Call.Answer}

/-- An enumeration that climbs a table, unless a search is made to fail. -/
structure Ventures (e : Enumeration ι) (m : Machine Request Request.Answer σ) (I : σ → Prop)
    (log : σ → Call.History) (stands : Previous → Int → Prop) (number : ι → Int) (table : List ι)
    (exchange : Int → Except Status ι → Program.Exchange Call Call.Answer) : Prop where
  next {previous : Previous} {n : Int} : stands previous n → Achieves m I log
    (fun h result => ∃ answer, h = [exchange n answer] ∧
      Found (exchange n answer).question (table.find? (n < number ·)) answer result)
    (e.next previous).run
  previous {a : ι} : a ∈ table → stands (e.previous a) (number a)

structure Rounds (exchange : Int → Except Status ι → Program.Exchange Call Call.Answer)
    (number : ι → Int) (V : β → ι → Call.History → Except Error β → Prop)
    (course : Int → β → Call.History → Except Error β → Prop) : Prop where
  ended (n : Int) (b : β) : course n b [exchange n (.error Status.notFound)] (.ok b)
  failed (n : Int) (b : β) (s : Status) (negative : s < 0) (other : s ≠ Status.notFound) :
    course n b [exchange n (.error s)]
      (.error (.service (exchange n (.error s)).question.label s))
  visited (n : Int) (b : β) (a : ι) {h h' : Call.History} {b' : β} {result : Except Error β}
    (visit : V b a h (.ok b')) (rest : course (number a) b' h' result) :
    course n b (exchange n (.ok a) :: (h ++ h')) result
  broken (n : Int) (b : β) (a : ι) {h : Call.History} {err : Error}
    (visit : V b a h (.error err)) : course n b (exchange n (.ok a) :: h) (.error err)

/-- By induction on the steps that are granted: each search finds the head of the ascent, or is the
last one. -/
theorem Ventures.fold (he : e.Ventures m I log stands number table exchange)
    {V : β → ι → Call.History → Except Error β → Prop} {visit : β → ι → Action β}
    (hv : ∀ b, ∀ a ∈ table, Achieves m I log (V b a) (visit b a).run)
    {course : Int → β → Call.History → Except Error β → Prop}
    (rounds : Rounds exchange number V course) {steps : Nat} {cursor : Cursor} {n : Int}
    (hn : stands cursor.previous n) (hc : cursor.finished = false)
    (enough : (ascent number n table).length < steps) (b : β) :
    Achieves m I log (course n b) (e.fold visit steps cursor b).run := by
  induction steps generalizing cursor n b with
  | zero => omega
  | succ steps ih =>
    rw [run_fold_succ hc]
    apply (he.next hn).bind
    rintro _ _ ⟨answer, rfl, found⟩
    cases found with
    | nothing => exact achieves_done (rounds.ended n b)
    | failed s negative other => exact achieves_done (rounds.failed n b s negative other)
    | entry a there =>
      have climb := ascent_of_find?_some number there
      have member : a ∈ table := List.mem_of_find?_eq_some there
      have fewer : (ascent number (number a) table).length < steps := by
        rw [climb, List.length_cons] at enough
        omega
      dsimp only
      rw [ExceptT.run_bind]
      apply (hv b a member).bind
      intro h result visited
      cases result with
      | error err =>
        refine achieves_done ?_
        rw [List.append_nil]
        exact rounds.broken n b a visited
      | ok b' =>
        have rest := @ih { cursor with previous := e.previous a } _ (he.previous member) hc fewer b'
        refine rest.mono fun h' r hr => ?_
        show course n b (exchange n (.ok a) :: (h ++ h')) r
        exact rounds.visited n b a visited hr

end Enumeration

/-- In every state of `I` a search is answered by the store, unless it is made to fail; it is
logged, and leaves such a state. -/
structure Tried {σ : Type} (m : Machine Request Request.Answer σ) (I : σ → Prop)
    (log : σ → Call.History) (store : Store) : Prop where
  search {q : Call} {s : σ} : q.isNext = true → I s →
    ((m (.call q) s).1 = (store.answer q).1 ∨ ∃ status < 0, (m (.call q) s).1 = q.forced status) ∧
      I (m (.call q) s).2 ∧ log (m (.call q) s).2 = log s ++ [⟨q, (m (.call q) s).1⟩]

namespace Connection

variable {σ : Type} {m : Machine Request Request.Answer σ} {I : σ → Prop}
  {log : σ → Call.History} {store : Store} (hs : Tried m I log store) {c : Connection}
  (hc : c.isOpen = true)
include hs hc

theorem clients_venture : c.clients.Ventures m I log (fun previous n => previous.inClients = .ok n)
    ClientInfo.clientId store.clients fun n answer => ⟨.nextClient n, answer⟩ where
  next {previous n} hn := by
    show Achieves _ _ _ _ (c.nextClient previous).run
    rw [run_nextClient hc hn]
    intro s hI
    obtain ⟨answered, kept, logged⟩ := hs.search (q := .nextClient n) rfl hI
    exact ⟨_, _, rfl, kept, logged, _, rfl, found_checkNext (.nextClient n) answered⟩
  previous _ := rfl

theorem ports_venture (client : Int) : (c.ports client).Ventures m I log
    (fun previous n => previous.inPortsOf client = .ok n) PortInfo.portId
    (store.ports.filter (·.clientId == client))
    fun n answer => ⟨.nextPort client n, answer⟩ where
  next {previous n} hn := by
    show Achieves _ _ _ _ (c.nextPort client previous).run
    rw [run_nextPort hc hn, store.find?_ports_behind]
    intro s hI
    obtain ⟨answered, kept, logged⟩ := hs.search (q := .nextPort client n) rfl hI
    exact ⟨_, _, rfl, kept, logged, _, rfl, found_checkNext (.nextPort client n) answered⟩
  previous {p} hp := by
    have owner : p.clientId = client := by simpa using (List.mem_filter.1 hp).2
    exact if_pos owner

omit hs hc

variable (f : PortFilter) {bound : Nat}

def Gathers (client : ClientInfo) (n : Int) (found : List PortInfo) (h : Call.History)
    (result : Except Error (List PortInfo)) : Prop :=
  ∃ ports, PortCourse client.clientId n h ports ∧ result = ports.map (found ++ f.kept client ·)

def Visits (found : List PortInfo) (client : ClientInfo) (h : Call.History)
    (result : Except Error (List PortInfo)) : Prop :=
  (f.acceptsClient client = false ∧ h = [] ∧ result = .ok found) ∨
    (f.acceptsClient client = true ∧ Gathers f client (-1) found h result)

def Lists (n : Int) (found : List PortInfo) (h : Call.History)
    (result : Except Error (List PortInfo)) : Prop :=
  ∃ listed, ListingCourse f n h listed ∧ result = listed.map (found ++ ·)

theorem kept_cons (client : ClientInfo) (found : List PortInfo) (p : PortInfo)
    (ports : List PortInfo) :
    (if f.acceptsPort p then found ++ [{ p with clientName := client.name }] else found) ++
      f.kept client ports = found ++ f.kept client (p :: ports) := by
  unfold PortFilter.kept
  split
  · next accepted => simp [accepted]
  · next refused => simp [refused]

theorem rounds_gathers (client : ClientInfo) :
    Enumeration.Rounds (fun n answer => ⟨.nextPort client.clientId n, answer⟩) PortInfo.portId
      (fun found p h result => h = [] ∧ result = .ok (if f.acceptsPort p then
        found ++ [{ p with clientName := client.name }] else found)) (Gathers f client) where
  ended n found := ⟨.ok [], .ended n, by simp [PortFilter.kept, Except.map]⟩
  failed n found s negative other := ⟨_, .failed n s negative other, rfl⟩
  visited n found p := by
    rintro _ h _ _ ⟨rfl, ⟨⟩⟩ ⟨ports, course, rfl⟩
    refine ⟨_, .found n p course, ?_⟩
    cases ports with
    | error e => rfl
    | ok ports => exact congrArg Except.ok (kept_cons f client found p ports)
  broken n found p := by
    rintro _ _ ⟨-, ⟨⟩⟩

theorem rounds_lists : Enumeration.Rounds (fun n answer => ⟨.nextClient n, answer⟩)
    ClientInfo.clientId (Visits f) (Lists f) where
  ended n found := ⟨.ok [], .ended n, by simp [Except.map]⟩
  failed n found s negative other := ⟨_, .failed n s negative other, rfl⟩
  visited n found client := by
    rintro h h' found' _ (⟨refused, rfl, ⟨⟩⟩ | ⟨accepted, ports, course, gathered⟩)
      ⟨listed, rest, rfl⟩
    · exact ⟨listed, .skipped n client refused rest, rfl⟩
    · cases ports with
      | error e => cases gathered
      | ok ports =>
        cases gathered
        refine ⟨_, .visited n client accepted course rest, ?_⟩
        cases listed with
        | error e => rfl
        | ok listed => exact congrArg Except.ok (List.append_assoc ..)
  broken n found client := by
    rintro h e (⟨-, -, ⟨⟩⟩ | ⟨accepted, ports, course, gathered⟩)
    cases ports with
    | error e =>
      cases gathered
      exact ⟨_, .broken n client accepted course, rfl⟩
    | ok ports => cases gathered

include hs hc

theorem achieves_collectPorts (enough : store.ports.length < bound) (found : List PortInfo)
    (client : ClientInfo) :
    Achieves m I log (Visits f found client) (c.collectPorts f bound found client).run := by
  unfold collectPorts
  by_cases ha : f.acceptsClient client = true
  · rw [if_pos ha]
    have short : (ascent PortInfo.portId (-1)
        (store.ports.filter (·.clientId == client.clientId))).length < bound :=
      Nat.lt_of_le_of_lt ((ascent_sublist _ _ _).trans List.filter_sublist).length_le enough
    refine Achieves.mono ?_ fun h result taken => .inr ⟨ha, taken⟩
    exact (ports_venture hs hc client.clientId).fold (fun found p _ => achieves_done ⟨rfl, rfl⟩)
      (rounds_gathers f client) rfl rfl short found
  · rw [if_neg ha]
    exact achieves_done (.inl ⟨Bool.not_eq_true _ ▸ ha, rfl, rfl⟩)

theorem achieves_allPorts (clients : store.clients.length < bound)
    (ports : store.ports.length < bound) :
    Achieves m I log (ListingCourse f (-1)) (c.allPorts f bound).run := by
  have short : (ascent ClientInfo.clientId (-1) store.clients).length < bound :=
    Nat.lt_of_le_of_lt (ascent_sublist _ _ _).length_le clients
  have lists : Achieves m I log (Lists f (-1) []) (c.allPorts f bound).run :=
    (clients_venture hs hc).fold
      (fun found client _ => achieves_collectPorts hs hc f ports found client)
      (rounds_lists f) rfl rfl short []
  refine lists.mono fun h result taken => ?_
  obtain ⟨listed, course, rfl⟩ := taken
  cases listed <;> exact course

end Connection

end MidiSequencer
