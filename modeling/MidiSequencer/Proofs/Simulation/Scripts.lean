import MidiSequencer.Proofs.Passages
import MidiSequencer.Simulation.Rehearsal

/-! # What a script forces

A condition on the statuses that a script forces is kept by everything that happens to the script. A
call under a script answers such a status and does nothing, or it answers as the store does. -/
namespace MidiSequencer

namespace Script

def Forces (P : String → Status → Prop) (s : Script) : Prop :=
  ∀ row ∈ s.entries, ∀ status, some status ∈ row.2 → P row.1 status

variable {P : String → Status → Prop} {s : Script}

theorem forces_true (s : Script) : s.Forces fun _ _ => True :=
  fun _ _ _ _ => trivial

theorem Forces.map {f : String × List (Option Status) → String × List (Option Status)}
    (hs : s.Forces P)
    (hf : ∀ row ∈ s.entries, (f row).1 = row.1 ∧
      ∀ status, some status ∈ (f row).2 → some status ∈ row.2 ∨ P row.1 status) :
    Forces P ⟨s.entries.map f⟩ := by
  intro row hrow status hstatus
  obtain ⟨old, hold, rfl⟩ := List.mem_map.1 hrow
  obtain ⟨name, kept⟩ := hf old hold
  rw [name]
  rcases kept status hstatus with before | new
  · exact hs old hold status before
  · exact new

theorem Forces.take (hs : s.Forces P) (name : String) :
    (∀ status, (s.take name).1 = some status → P name status) ∧ (s.take name).2.Forces P := by
  unfold Script.take
  split
  · next entry rest hl =>
    constructor
    · rintro status rfl
      obtain ⟨before, after, entries, -⟩ := List.lookup_eq_some_iff.1 hl
      have listed : (name, some status :: rest) ∈ s.entries := by simp [entries]
      exact hs _ listed status (.head _)
    · apply hs.map
      intro row _
      split
      · exact ⟨rfl, fun status h => .inl (List.mem_of_mem_drop h)⟩
      · exact ⟨rfl, fun status h => .inl h⟩
  · refine ⟨fun status h => ?_, hs⟩
    cases h

theorem Forces.append (hs : s.Forces P) {name : String} {entries : List (Option Status)}
    (hn : ∀ status, some status ∈ entries → P name status) : (s.append name entries).Forces P := by
  unfold Script.append
  split
  · apply hs.map
    intro row _
    by_cases hr : (row.1 == name) = true
    · rw [if_pos hr]
      refine ⟨rfl, fun status h => ?_⟩
      rw [eq_of_beq hr]
      exact (List.mem_append.1 h).imp_right (hn status)
    · rw [if_neg hr]
      exact ⟨rfl, fun status h => .inl h⟩
  · intro row hrow
    rcases List.mem_append.1 hrow with old | new
    · exact hs row old
    · obtain rfl := List.mem_singleton.1 new
      exact hn

theorem Forces.appendAll (hs : s.Forces P) {rows : List (String × List (Option Status))}
    (hr : Script.Forces P ⟨rows⟩) : (s.appendAll rows).Forces P := by
  induction rows generalizing s with
  | nil => exact hs
  | cons row rows ih =>
    obtain ⟨first, later⟩ := List.forall_mem_cons.1 hr
    exact ih (hs.append first) later

end Script

namespace Rehearsal

variable {P : String → Status → Prop} {r : Rehearsal}

def Change.Forces (P : String → Status → Prop) : Change → Prop
  | .force rows => Script.Forces P ⟨rows⟩
  | _ => True

theorem forces_change (hr : r.script.Forces P) {x : Change} (hx : x.Forces P) :
    (r.change x).script.Forces P := by
  cases x with
  | force rows => exact hr.appendAll hx
  | _ => exact hr

inductive Answers (P : String → Status → Prop) (r : Rehearsal) (c : Call) (answer : c.Answer)
    (after : Rehearsal) : Prop where
  | forced (status : Status) (allowed : P c.name status) (answered : answer = c.forced status)
      (store : after.store = r.store)
  | worked (answered : answer = (r.store.answer c).1) (store : after.store = (r.store.answer c).2)

theorem answers (hr : r.script.Forces P) (c : Call) :
    Answers P r c (r.answer c).1 (r.answer c).2 ∧ (r.answer c).2.script.Forces P := by
  by_cases hc : c = .release
  · subst hc
    exact ⟨.worked rfl rfl, hr⟩
  · obtain ⟨allowed, rest⟩ := hr.take c.name
    simp only [Rehearsal.answer, if_neg hc]
    cases ht : (r.script.take c.name).1 with
    | some status => exact ⟨.forced status (allowed status ht) rfl rfl, rest⟩
    | none => exact ⟨.worked rfl rfl, rest⟩

theorem passes_forces {t : Rehearsal} {h : Call.History}
    (p : simulator.Passes (Change.Forces P) r h t) (hr : r.script.Forces P) : t.script.Forces P :=
  p.keeps (I := fun r => r.script.Forces P) (fun c _ hr => (answers hr c).2)
    (fun _ _ allowed hr => forces_change hr allowed) hr

end Rehearsal

end MidiSequencer
