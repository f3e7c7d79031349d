import MidiSequencer.Proofs.Registry.Registrations

/-! # The tables as a map

A sequencer in memory mirrors what was registered: under the number of a port of our own stands what
the last registration about it says, and it stands there iff the port was created and not deleted.
Everything else is as it was at the start. -/
namespace MidiSequencer

open Registration

namespace Store

/-- What is registered changes something that is there. -/
def Admits (s : Store) : Registration → Prop
  | .named _ => (s.client? s.clientId).isSome = true
  | .created .. => True
  | .replaced port _ => (s.port? s.clientId port).isSome = true
  | .deleted port => port < s.nextPort

/-- The tables that come of those at the start by what was registered. -/
structure Mirrors (start : Store) (registrations : List Registration) (s : Store) : Prop where
  clientId : s.clientId = start.clientId
  own (port : Int) : s.port? start.clientId port =
    settled start.clientId start.clientId port none registrations
  present (port : Int) : (s.port? start.clientId port).isSome = true ↔
    (∃ name capability portType, .created port name capability portType ∈ registrations) ∧
      .deleted port ∉ registrations
  foreign {client : Int} (port : Int) : client ≠ start.clientId →
    s.port? client port = start.port? client port
  ours : s.client? start.clientId = (start.client? start.clientId).map fun c =>
    { c with name := lastName c.name registrations }
  known : (∃ name, .named name ∈ registrations) → (start.client? start.clientId).isSome = true
  others : s.clients.filter (·.clientId != start.clientId) =
    start.clients.filter (·.clientId != start.clientId)
  below {r : Registration} {port : Int} : r ∈ registrations → r.port? = some port →
    port < s.nextPort

variable {start s t : Store} {regs : List Registration}

theorem mirrors_start (foreign : ∀ p ∈ start.ports, p.clientId ≠ start.clientId) :
    start.Mirrors [] start := by
  have missing (port : Int) : start.port? start.clientId port = none := by
    refine List.find?_eq_none.2 fun p member here => ?_
    exact foreign p member (Prod.mk.inj (isPort_iff.1 here)).1
  constructor
  · rfl
  · exact missing
  · intro port
    simp [missing]
  · exact fun _ _ => rfl
  · exact Option.map_id'.symm
  · rintro ⟨name, there⟩
    cases there
  · rfl
  · intro r port there
    cases there

theorem find?_clients_others {client ours : Int} (other : client ≠ ours) (s : Store) :
    (s.clients.filter (·.clientId != ours)).find? (·.clientId == client) = s.client? client := by
  unfold client?
  rw [List.find?_filter]
  congr
  funext c
  by_cases here : c.clientId = client <;> simp [here, other]

theorem Mirrors.client?_other (hm : start.Mirrors regs s) {client : Int}
    (other : client ≠ start.clientId) : s.client? client = start.client? client := by
  rw [← find?_clients_others other s, hm.others, find?_clients_others other start]

theorem Mirrors.keep (hm : start.Mirrors regs s) (hr : s.Registers [] t) :
    start.Mirrors regs t := by
  have same (client port : Int) : t.port? client port = s.port? client port := hr.port? client port
  have named := hr.client? start.clientId
  have others := hr.others
  rw [hm.clientId] at named others
  constructor
  · exact hr.clientId.trans hm.clientId
  · exact fun port => (same _ port).trans (hm.own port)
  · exact fun port => by rw [same, hm.present]
  · exact fun port foreign => (same _ port).trans (hm.foreign port foreign)
  · rw [named, hm.ours, Option.map_map]
    refine congrArg (Option.map · _) (funext fun c => ?_)
    exact if_pos rfl
  · exact hm.known
  · exact others.trans hm.others
  · exact fun there about => Int.lt_of_lt_of_le (hm.below there about) hr.nextPort

theorem Mirrors.present_concat (hm : start.Mirrors regs s) {r : Registration}
    (hr : s.Registers [r] t) (admits : s.Admits r) (port : Int) :
    (t.port? start.clientId port).isSome = true ↔
      (∃ name capability portType, .created port name capability portType ∈ regs ++ [r]) ∧
        .deleted port ∉ regs ++ [r] := by
  have before := hm.present port
  have found := hr.port? start.clientId port
  rw [settled_singleton, ← hm.clientId] at found
  rw [← hm.clientId] at before ⊢
  simp only [concerns, beq_self_eq_true, Bool.true_and, beq_iff_eq] at found
  rw [found]
  cases r with
  | named name => simpa [Registration.port?] using before
  | created n name capability portType =>
    by_cases here : n = port
    · subst here
      obtain ⟨fresh, -⟩ := hr.created n name capability portType (.head _)
      have unknown : .deleted n ∉ regs := fun there =>
        absurd (hm.below there rfl) (Int.not_lt.2 fresh)
      refine iff_of_true (by simp [Registration.port?, snapshot?]) ⟨?_, by simpa using unknown⟩
      exact ⟨name, capability, portType, List.mem_append_right _ (.head _)⟩
    · simpa [Registration.port?, here, Ne.symm here] using before
  | replaced n info =>
    by_cases here : n = port
    · subst here
      have there : (s.port? s.clientId n).isSome = true := admits
      simpa [Registration.port?, snapshot?] using before.1 there
    · simpa [Registration.port?, here] using before
  | deleted n =>
    by_cases here : n = port
    · subst here
      simp [Registration.port?, snapshot?]
    · simpa [Registration.port?, here, Ne.symm here] using before

theorem Mirrors.below_concat (hm : start.Mirrors regs s) {r : Registration}
    (hr : s.Registers [r] t) (admits : s.Admits r) {r' : Registration} {port : Int}
    (there : r' ∈ regs ++ [r]) (about : r'.port? = some port) : port < t.nextPort := by
  rcases List.mem_append.1 there with there | there
  · exact Int.lt_of_lt_of_le (hm.below there about) hr.nextPort
  · rw [List.mem_singleton] at there
    subst there
    cases r' with
    | named name => cases about
    | created n name capability portType =>
      cases about
      exact (hr.created _ _ _ _ (.head _)).2
    | replaced n info =>
      cases about
      have found : (s.port? s.clientId port).isSome = true := admits
      rw [hm.clientId, hm.present] at found
      obtain ⟨⟨name, capability, portType, created⟩, -⟩ := found
      exact Int.lt_of_lt_of_le (hm.below created rfl) hr.nextPort
    | deleted n =>
      cases about
      exact Int.lt_of_lt_of_le admits hr.nextPort

theorem Mirrors.concat (hm : start.Mirrors regs s) {r : Registration} (hr : s.Registers [r] t)
    (admits : s.Admits r) : start.Mirrors (regs ++ [r]) t := by
  have settles (client port : Int) := hr.port? client port
  have named := hr.client? start.clientId
  have others := hr.others
  rw [hm.clientId] at settles named others
  constructor
  · exact hr.clientId.trans hm.clientId
  · intro port
    rw [settles, hm.own, settled_append]
  · exact hm.present_concat hr admits
  · intro client port foreign
    rw [settles, settled_foreign foreign, hm.foreign port foreign]
  · rw [named, hm.ours, Option.map_map]
    refine congrArg (Option.map · _) (funext fun c => ?_)
    simp [lastName_append]
  · rintro ⟨name, there⟩
    rcases List.mem_append.1 there with there | there
    · exact hm.known ⟨name, there⟩
    · rw [List.mem_singleton] at there
      subst there
      have known : (s.client? s.clientId).isSome = true := admits
      rw [hm.clientId, hm.ours, Option.isSome_map] at known
      exact known
  · exact others.trans hm.others
  · exact hm.below_concat hr admits

theorem admits_of_registration? (s : Store) {c : Call} {r : Registration}
    (hr : Call.registration? ⟨c, (s.answer c).1⟩ = some r)
    (known : ∀ port, r = .deleted port → port < s.nextPort) : s.Admits r := by
  cases c with
  | command q =>
    cases q with
    | setClientName name =>
      obtain ⟨worked, rfl⟩ := Option.ite_some_none_eq_some.1 hr
      have told : 0 ≤ (s.setClientName name).1 := worked
      rcases s.setClientName_cases name with ⟨clients, h, -⟩ | failed
      · have found : s.client? s.clientId ≠ none := by
          rw [client?, Ne, ← updateFirst_eq_none_iff, h]
          exact Option.some_ne_none _
        exact Option.isSome_iff_ne_none.2 found
      · rw [failed] at told
        cases told
    | createPort name capability portType =>
      obtain ⟨-, rfl⟩ := Option.ite_some_none_eq_some.1 hr
      trivial
    | deletePort port =>
      cases hr
      exact known port rfl
    | setPortInfo port info =>
      obtain ⟨worked, rfl⟩ := Option.ite_some_none_eq_some.1 hr
      have told : 0 ≤ (s.setPortInfo port info).1 := worked
      rcases s.setPortInfo_cases port info with ⟨ports, h, -⟩ | ⟨-, failed⟩
      · have found : s.port? s.clientId port ≠ none := by
          rw [port?, Ne, ← updateFirst_eq_none_iff, h]
          exact Option.some_ne_none _
        exact Option.isSome_iff_ne_none.2 found
      · rw [failed] at told
        cases told
    | _ => cases hr
  | _ => cases hr

theorem Mirrors.answer (hm : start.Mirrors regs s) (hs : s.Tidy) (c : Call)
    (known : ∀ port, .deleted port ∈ Call.registrations [⟨c, (s.answer c).1⟩] →
      port < s.nextPort) :
    start.Mirrors (regs ++ Call.registrations [⟨c, (s.answer c).1⟩]) (s.answer c).2 := by
  obtain ⟨registers, -⟩ := hs.answer c
  cases hr : Call.registration? ⟨c, (s.answer c).1⟩ with
  | none =>
    have nothing : Call.registrations [⟨c, (s.answer c).1⟩] = [] := by
      simp [Call.registrations, hr]
    rw [nothing] at registers ⊢
    rw [List.append_nil]
    exact hm.keep registers
  | some r =>
    have one : Call.registrations [⟨c, (s.answer c).1⟩] = [r] := by
      simp [Call.registrations, hr]
    rw [one] at registers known ⊢
    refine hm.concat registers (s.admits_of_registration? hr fun port deleted => ?_)
    exact known port (deleted ▸ .head _)

end Store

namespace Rehearsal

variable {r t : Rehearsal} {h : Call.History} {start : Store} {regs : List Registration}

/-- At every moment the tables mirror what the calls so far have registered. By induction on the
passage, which may be cut off behind any call. -/
theorem mirrors_passes (hr : r.Orderly) (hm : start.Mirrors regs r.store)
    (p : simulator.Passes Change.Quiet r h t)
    (known : ∀ port, .deleted port ∈ Call.registrations h → port < r.store.nextPort) :
    start.Mirrors (regs ++ Call.registrations h) t.store := by
  induction p with
  | refl =>
    rw [Call.registrations, List.filterMap_nil, List.append_nil]
    exact hm
  | @call h t c before ih =>
    rw [Call.registrations_append] at known ⊢
    have mirrors := ih fun port there => known port (List.mem_append_left _ there)
    obtain ⟨registers, orderly⟩ := hr.passes before
    obtain ⟨answered, store, -⟩ := answer_unforced orderly.script c
    show start.Mirrors _ (t.answer c).2.store
    rw [← List.append_assoc, store]
    have told : Call.registrations [⟨c, (simulator.answer c t).1⟩] =
        Call.registrations [⟨c, (t.store.answer c).1⟩] :=
      congrArg (fun answer => Call.registrations [⟨c, answer⟩]) answered
    rw [told] at known ⊢
    refine mirrors.answer orderly.tidy c fun port there => ?_
    exact Int.lt_of_lt_of_le (known port (List.mem_append_right _ there)) registers.nextPort
  | @change h t x allowed before ih =>
    obtain ⟨-, orderly⟩ := hr.passes before
    exact (ih known).keep (orderly.change allowed).1

end Rehearsal

end MidiSequencer
