import MidiSequencer.Proofs.Simulation.Scripts

/-! # Single faults of scripts

What a script forces on a call depends on how many calls of the same name were made before. Without
one of its entries every call answers the same, up to the one that the entry was forced on. -/
namespace MidiSequencer

namespace Script

/-- What is forced on the call that comes behind `k` others of its name. -/
def forcedAt (s : Script) (name : String) (k : Nat) : Option Status :=
  ((s.entries.lookup name).getD [])[k]?.join

def lift (s : Script) (name : String) (k : Nat) : Script :=
  ⟨s.entries.map fun row => if row.1 == name then (row.1, row.2.set k none) else row⟩

theorem lookup_map_row (l : List (String × List (Option Status))) (name other : String)
    (g : List (Option Status) → List (Option Status)) :
    (l.map fun row => if row.1 == name then (row.1, g row.2) else row).lookup other =
      (l.lookup other).map (if other = name then g else id) := by
  induction l with
  | nil => rfl
  | cons row l ih =>
    obtain ⟨key, entries⟩ := row
    rw [List.map_cons]
    by_cases found : other = key
    · subst found
      by_cases same : other = name
      · simp [same]
      · simp [same]
    · have missed : (other == key) = false := beq_false_of_ne found
      by_cases same : key = name
      · rw [if_pos (beq_iff_eq.2 same), List.lookup_cons, List.lookup_cons, missed, ih]
      · rw [if_neg (mt beq_iff_eq.1 same), List.lookup_cons, List.lookup_cons, missed, ih]

variable (s : Script) (name other : String) (k i : Nat)

theorem take_fst : (s.take name).1 = s.forcedAt name 0 := by
  unfold take forcedAt
  split
  · next entry rest found => simp [found]
  · next none_left =>
    cases found : s.entries.lookup name with
    | none => rfl
    | some entries =>
      cases entries with
      | nil => rfl
      | cons entry rest => exact absurd found (none_left entry rest)

theorem forcedAt_take : (s.take name).2.forcedAt other i =
    s.forcedAt other (i + if name == other then 1 else 0) := by
  unfold take
  split
  · next entry rest found =>
    unfold forcedAt
    rw [lookup_map_row]
    by_cases same : other = name
    · simp [same, found]
    · simp [same, Ne.symm same]
  · next none_left =>
    by_cases same : name = other
    · subst same
      unfold forcedAt
      cases found : s.entries.lookup name with
      | none => rfl
      | some entries =>
        cases entries with
        | nil => rfl
        | cons entry rest => exact absurd found (none_left entry rest)
    · simp [same]

theorem forcedAt_lift :
    (s.lift name k).forcedAt other i =
      if other = name ∧ i = k then none else s.forcedAt other i := by
  have mapped := lookup_map_row s.entries name other (·.set k none)
  unfold lift forcedAt
  dsimp only
  rw [mapped]
  by_cases same : other = name
  · subst same
    cases found : s.entries.lookup other with
    | none => simp
    | some entries =>
      by_cases here : i = k
      · subst here
        simp [List.getElem?_set]
        split <;> rfl
      · simp [here, Ne.symm here]
  · simp [same]

end Script

namespace Rehearsal

/-- The same sequencer without what the script forces on the call behind `k` others of a name. -/
structure Lifted (name : String) (k : Nat) (r t : Rehearsal) : Prop where
  store : t.store = r.store
  script (other : String) (i : Nat) : t.script.forcedAt other i =
    if other = name ∧ i = k then none else r.script.forcedAt other i

theorem lifted_lift (r : Rehearsal) (name : String) (k : Nat) :
    Lifted name k r { r with script := r.script.lift name k } where
  store := rfl
  script other i := r.script.forcedAt_lift name other k i

theorem answer_eq {c : Call} (hc : c ≠ .release) (r : Rehearsal) :
    (∀ status, r.script.forcedAt c.name 0 = some status →
        (r.answer c).1 = c.forced status ∧ (r.answer c).2.store = r.store) ∧
      (r.script.forcedAt c.name 0 = none →
        (r.answer c).1 = (r.store.answer c).1 ∧ (r.answer c).2.store = (r.store.answer c).2) ∧
      (r.answer c).2.script = (r.script.take c.name).2 := by
  have front := r.script.take_fst c.name
  simp only [Rehearsal.answer, if_neg hc, front]
  cases r.script.forcedAt c.name 0 <;> simp

theorem forcedAt_answer {c : Call} (hc : c ≠ .release) (r : Rehearsal) (name : String) (k : Nat) :
    (r.answer c).2.script.forcedAt name k =
      r.script.forcedAt name (k + if c.name == name then 1 else 0) := by
  rw [(answer_eq hc r).2.2, Script.forcedAt_take]

variable {name : String} {k : Nat} {r t : Rehearsal} {c : Call}

theorem Lifted.answer (hc : c ≠ .release)
    (lifted : Lifted name (k + if c.name == name then 1 else 0) r t) :
    (t.answer c).1 = (r.answer c).1 ∧ Lifted name k (r.answer c).2 (t.answer c).2 := by
  have same : t.script.forcedAt c.name 0 = r.script.forcedAt c.name 0 := by
    rw [lifted.script]
    refine if_neg ?_
    rintro ⟨named, front⟩
    rw [if_pos (beq_iff_eq.2 named)] at front
    omega
  have rest (other : String) (i : Nat) : (t.answer c).2.script.forcedAt other i =
      if other = name ∧ i = k then none else (r.answer c).2.script.forcedAt other i := by
    rw [forcedAt_answer hc, forcedAt_answer hc, lifted.script]
    by_cases named : other = name
    · subst named
      simp
    · simp [named]
  obtain ⟨forced, worked, -⟩ := answer_eq hc r
  obtain ⟨forced', worked', -⟩ := answer_eq hc t
  rw [same] at forced' worked'
  cases front : r.script.forcedAt c.name 0 with
  | some status =>
    obtain ⟨answered, store⟩ := forced status front
    obtain ⟨answered', store'⟩ := forced' status front
    exact ⟨answered'.trans answered.symm, store'.trans (lifted.store.trans store.symm), rest⟩
  | none =>
    obtain ⟨answered, store⟩ := worked front
    obtain ⟨answered', store'⟩ := worked' front
    rw [lifted.store] at answered' store'
    exact ⟨answered'.trans answered.symm, store'.trans store.symm, rest⟩

theorem Lifted.answer_here (hc : c ≠ .release) (lifted : Lifted c.name 0 r t) :
    (t.answer c).1 = (r.store.answer c).1 := by
  have free : t.script.forcedAt c.name 0 = none := by
    rw [lifted.script]
    exact if_pos ⟨rfl, rfl⟩
  rw [((answer_eq hc t).2.1 free).1, lifted.store]

end Rehearsal

end MidiSequencer
