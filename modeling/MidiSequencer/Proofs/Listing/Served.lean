import MidiSequencer.Proofs.Listing.Searches
import MidiSequencer.Proofs.Listing.Sorting
import MidiSequencer.Proofs.Simulation.Libraries

/-! # Searches in native tables

A search that the native library serves finds what it would find in a store that has the native
tables in the order of their numbers. -/
namespace MidiSequencer.Native

namespace Kernel

section

variable {α : Type} (number : α → Int)

def numberOrder (a b : α) : Bool := number a ≤ number b

theorem totalPreorder_numberOrder : TotalPreorder (numberOrder number) where
  trans a b c := by
    simp only [numberOrder, decide_eq_true_eq]
    omega
  total a b := by
    simp only [numberOrder, Bool.or_eq_true, decide_eq_true_eq]
    omega

def prefer (a : α) : Option α → α
  | none => a
  | some b => if number b < number a then b else a

theorem prefer_prefer (a b : α) (o : Option α) :
    prefer number (prefer number a (some b)) o = prefer number a (some (prefer number b o)) := by
  cases o with
  | none => rfl
  | some c => grind [prefer]

theorem head?_mergeSort_cons (a : α) (l : List α) :
    ((a :: l).mergeSort (numberOrder number)).head? =
      some (prefer number a (l.mergeSort (numberOrder number)).head?) := by
  have order := totalPreorder_numberOrder number
  have sorted := List.pairwise_mergeSort order.trans order.total (a :: l)
  obtain ⟨before, after, whole, rest, smaller⟩ :=
    List.mergeSort_cons order.trans order.total a l
  rw [whole] at sorted
  rw [whole, rest]
  cases before with
  | nil =>
    cases after with
    | nil => rfl
    | cons b after =>
      have le : numberOrder number a b = true :=
        (List.pairwise_cons.1 sorted).1 b List.mem_cons_self
      rw [numberOrder, decide_eq_true_eq] at le
      simp [prefer, Int.not_lt.2 le]
  | cons b before =>
    have lt := smaller b List.mem_cons_self
    simp only [numberOrder, Bool.not_eq_true', decide_eq_false_iff_not, Int.not_le] at lt
    simp [prefer, lt]

def better (n : Int) (best : Option α) (a : α) : Option α :=
  if number a ≤ n then best
  else match best with
    | none => some a
    | some b => if number a < number b then some a else some b

def above (n : Int) (l : List α) : List α :=
  (l.filter (n < number ·)).mergeSort (numberOrder number)

theorem head?_above_cons (n : Int) (a : α) (l : List α) : (above number n (a :: l)).head? =
    if number a ≤ n then (above number n l).head?
    else some (prefer number a (above number n l).head?) := by
  unfold above
  by_cases ha : number a ≤ n
  · rw [List.filter_cons_of_neg (by simpa using ha), if_pos ha]
  · rw [List.filter_cons_of_pos (by simpa using Int.not_le.1 ha), if_neg ha]
    exact head?_mergeSort_cons number a _

theorem foldl_better_some (n : Int) (a : α) (l : List α) :
    l.foldl (better number n) (some a) = some (prefer number a (above number n l).head?) := by
  induction l generalizing a with
  | nil => simp [above, prefer]
  | cons c l ih =>
    rw [List.foldl_cons, head?_above_cons]
    by_cases hc : number c ≤ n
    · rw [better, if_pos hc, if_pos hc, ih]
    · have chosen : better number n (some a) c = some (prefer number a (some c)) := by
        rw [better, if_neg hc]
        exact (apply_ite some _ _ _).symm
      rw [chosen, if_neg hc, ih, prefer_prefer]

/-- The smallest entry is the first one in the order of the numbers that is large enough. -/
theorem smallestAbove_eq_find? (n : Int) (l : List α) :
    smallestAbove number n l = (l.mergeSort (numberOrder number)).find? (n < number ·) := by
  have searched : l.foldl (better number n) none = (above number n l).head? := by
    induction l with
    | nil => simp [above]
    | cons a l ih =>
      rw [List.foldl_cons, head?_above_cons]
      by_cases ha : number a ≤ n
      · rw [better, if_pos ha, if_pos ha, ih]
      · rw [better, if_neg ha, if_neg ha]
        exact foldl_better_some number n a l
  rw [← List.head?_filter, filter_mergeSort (totalPreorder_numberOrder number)]
  exact searched

end

def store (k : Kernel) : Store where
  clientId := k.clientId
  clients := (k.clients.mergeSort (numberOrder (·.client))).map ClientDescriptor.read
  ports := (k.ports.mergeSort (numberOrder (·.port))).map PortDescriptor.read

theorem filled_fill {δ α : Type} (read : δ → α) (d : δ) (entry : Option δ) :
    Library.filled read (fill d entry) =
      match entry.map read with
      | some a => .ok a
      | none => .error Status.notFound := by
  cases entry <;> rfl

theorem filled_nextClient (k : Kernel) (n : Int) :
    Library.filled ClientDescriptor.read (k.answer (.nextClient { client := n })).1 =
      (k.store.answer (.nextClient n)).1 := by
  have found : ((smallestAbove (·.client) n k.clients).map ClientDescriptor.read) =
      k.store.clients.find? (n < ·.clientId) := by
    rw [smallestAbove_eq_find?, store, List.find?_map]
    rfl
  show Library.filled _ (fill _ _) = Store.find _ _
  rw [filled_fill, found]
  rfl

theorem filled_nextPort (k : Kernel) (client n : Int) :
    Library.filled PortDescriptor.read (k.answer (.nextPort { client, port := n })).1 =
      (k.store.answer (.nextPort client n)).1 := by
  have found : ((smallestAbove (·.port) n (k.ports.filter fun p => p.client == client)).map
      PortDescriptor.read) =
        k.store.ports.find? fun p => p.clientId == client && n < p.portId := by
    rw [smallestAbove_eq_find?, ← filter_mergeSort (totalPreorder_numberOrder _),
      List.find?_filter, store, List.find?_map]
    congr 2
    funext d
    rw [Bool.decide_and, Bool.decide_coe, Bool.decide_coe]
    rfl
  show Library.filled _ (fill _ _) = Store.find _ _
  rw [filled_fill, found]
  rfl

end Kernel

def Searchable : String → Status → Prop :=
  fun name _ => name ∉ ["snd_seq_client_info_malloc", "snd_seq_query_next_client",
    "snd_seq_port_info_malloc", "snd_seq_query_next_port"]

namespace Tables

structure Shows (store : Store) (t : Tables) : Prop where
  store : t.kernel.store = store
  script : t.script.Forces Searchable

structure Under (P : String → Status → Prop) (store : Store) (t : Tables) : Prop where
  store : t.kernel.store = store
  script : t.script.Forces P

def searching : List String :=
  ["snd_seq_client_info_malloc", "snd_seq_query_next_client", "snd_seq_port_info_malloc",
    "snd_seq_query_next_port"]

def Finds (P : String → Status → Prop) (store : Store) (q : Call) (answer : q.Answer) : Prop :=
  answer = (store.answer q).1 ∨
    ∃ name ∈ searching, ∃ status, P name status ∧ answer = q.forced status

variable {P : String → Status → Prop} {store : Store}

theorem ensures_call {c : NativeCall} {R : c.Answer → Prop}
    (forced : ∀ status, P c.name status → R (c.forced status))
    (works : ∀ k : Kernel, k.store = store → R (k.answer c).1 ∧ (k.answer c).2.store = store) :
    Library.Ensures (Under P store) (Library.call library c) R := by
  intro t ht
  obtain ⟨answers, rest⟩ := Tables.answers ht.script c
  cases answers with
  | forced status allowed answered kernel =>
    exact ⟨answered ▸ forced status allowed, kernel ▸ ht.store, rest⟩
  | worked answered kernel =>
    obtain ⟨found, kept⟩ := works t.kernel ht.store
    exact ⟨answered ▸ found, kernel ▸ kept, rest⟩

/-- A search fails where its descriptor cannot be allocated, or where it is made to fail itself; the
descriptor is given back in any case. -/
theorem ensures_descriptor {q : Call} {kind : DescriptorKind} {body : StateM Tables q.Answer}
    (allocates : (NativeCall.allocate kind).name ∈ searching)
    (hb : Library.Ensures (Under P store) body (Finds P store q)) :
    Library.Ensures (Under P store) (Library.withDescriptor library kind q.forced body)
      (Finds P store q) := by
  refine .withDescriptor (ensures_call (fun status allowed _ => ?_) fun k hk => ⟨?_, hk⟩) hb
    (ensures_call (fun _ _ => trivial) fun k hk => ⟨trivial, hk⟩)
  · exact .inr ⟨_, allocates, status, allowed, rfl⟩
  · intro (negative : (0 : Int) < 0)
    exact absurd negative (Int.lt_irrefl 0)

theorem ensures_search (failures : ∀ name ∈ searching, ∀ status, P name status → status < 0)
    {q : Call} (searches : q.isNext = true) :
    Library.Ensures (Under P store) (Library.serve library q) (Finds P store q) := by
  cases q with
  | nextClient n =>
    have called : "snd_seq_query_next_client" ∈ searching := .tail _ (.head _)
    refine ensures_descriptor (q := .nextClient n) (.head _) ?_
    have found : Library.Ensures (Under P store)
        (Library.call library (.nextClient { client := n })) fun answer =>
          Finds P store (.nextClient n) (Library.filled ClientDescriptor.read answer) := by
      refine ensures_call (fun status allowed => ?_) fun k hk =>
        ⟨.inl (hk ▸ k.filled_nextClient n), hk⟩
      exact .inr ⟨_, called, status, allowed, if_pos (failures _ called status allowed)⟩
    exact found.bind fun answer ha => Library.ensures_pure ha
  | nextPort client n =>
    have called : "snd_seq_query_next_port" ∈ searching := .tail _ (.tail _ (.tail _ (.head _)))
    refine ensures_descriptor (q := .nextPort client n) (.tail _ (.tail _ (.head _))) ?_
    have found : Library.Ensures (Under P store)
        (Library.call library (.nextPort { client, port := n })) fun answer =>
          Finds P store (.nextPort client n) (Library.filled PortDescriptor.read answer) := by
      refine ensures_call (fun status allowed => ?_) fun k hk =>
        ⟨.inl (hk ▸ k.filled_nextPort client n), hk⟩
      exact .inr ⟨_, called, status, allowed, if_pos (failures _ called status allowed)⟩
    exact found.bind fun answer ha => Library.ensures_pure ha
  | _ => cases searches

theorem ensures_searched {q : Call} (searches : q.isNext = true) :
    Library.Ensures (Shows store) (Library.serve library q) (· = (store.answer q).1) := by
  intro t ht
  have free (name : String) (called : name ∈ searching) (status : Status) :
      ¬ Searchable name status := fun allowed => allowed called
  obtain ⟨found, kept, script⟩ := ensures_search
    (fun name called status allowed => absurd allowed (free name called status)) searches t
    (Under.mk ht.store ht.script)
  refine ⟨?_, kept, script⟩
  rcases found with found | ⟨name, called, status, allowed, -⟩
  · exact found
  · exact absurd allowed (free name called status)

end Tables

namespace Rehearsal

theorem isHandling_of_isNext {q : Call} (searches : q.isNext = true) : q.isHandling = false := by
  cases q with
  | nextClient n => rfl
  | nextPort client n => rfl
  | _ => cases searches

theorem searched (store : Store) : Searched (Scene.answer simulator)
    (fun s => Tables.Shows store s.sequencer.tables) store where
  search {α q} f searches := by
    intro s hs
    have served := answer_of_isHandling Tables.library s.sequencer (isHandling_of_isNext searches)
    obtain ⟨found, shows_⟩ := Tables.ensures_searched searches s.sequencer.tables hs
    have answered : (Program.ask (.call q) fun answer => .done (f answer) : Dialogue α).run
        (Scene.answer simulator) s = (some (f (s.sequencer.answer Tables.library q).1),
          { s with sequencer := (s.sequencer.answer Tables.library q).2 }) := by
      cases q with
      | nextClient n => rfl
      | nextPort client n => rfl
      | _ => cases searches
    rw [answered, served]
    exact ⟨congrArg (fun r => some (f r)) found, shows_⟩

end Rehearsal

end MidiSequencer.Native
