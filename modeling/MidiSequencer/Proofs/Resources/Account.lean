import MidiSequencer.Proofs.Recording

/-! # Accounts of ports and queues

Ports and queues are made by a call that answers their number and given back by a call with that
number. Numbers may repeat, so an account says for each return which object it is for. -/
namespace MidiSequencer

inductive Resource where
  | port | queue
  deriving DecidableEq

/-- What a call means for that which is held of the sequencer. -/
inductive Deed where
  | opens
  | refuses
  | makes (resource : Resource) (id : Int)
  | returns (resource : Resource) (id : Int)
  | releases
  | other
  deriving DecidableEq

namespace Deed

/-- Nothing is opened or made by a call that fails, but a failed return is a return all the same. -/
def ofCall : (c : Call) → c.Answer → Deed
  | .command (.openSequencer ..), status => if status < 0 then refuses else opens
  | .command (.createPort ..), id => if id < 0 then other else makes .port id
  | .command (.allocQueue _), id => if id < 0 then other else makes .queue id
  | .command (.deletePort id), _ => returns .port id
  | .command (.freeQueue id), _ => returns .queue id
  | .release, _ => releases
  | _, _ => other

def isOpening : Deed → Bool
  | opens => true
  | refuses => true
  | _ => false

def concerns (r : Resource) : Deed → Bool
  | makes r' _ => r' == r
  | returns r' _ => r' == r
  | _ => false

end Deed

def Call.deeds (log : Call.History) : List Deed :=
  log.map fun x => Deed.ofCall x.question x.answer

/-- The objects are made in their order, and each return is for one made before and not returned
yet: the places of these objects, in the order of the returns, are `settled`. -/
inductive Settles (r : Resource) : List Deed → List Int → List Nat → Prop where
  | nil : Settles r [] [] []
  | makes {deeds objects settled} (id : Int) :
      Settles r deeds objects settled → Settles r (deeds ++ [.makes r id]) (objects ++ [id]) settled
  | returns {deeds objects settled id} (k : Nat) :
      Settles r deeds objects settled → objects[k]? = some id → k ∉ settled →
      Settles r (deeds ++ [.returns r id]) objects (settled ++ [k])
  | other {deeds objects settled d} :
      Settles r deeds objects settled → d.concerns r = false →
      Settles r (deeds ++ [d]) objects settled

def Concluded (deeds : List Deed) : Prop :=
  ∃ before, deeds = before ++ [.releases] ∧ .releases ∉ before

def OpensFirst (deeds : List Deed) : Prop :=
  ∀ d ∈ deeds.tail, d.isOpening = false

theorem OpensFirst.append {deeds rest : List Deed} (h : OpensFirst deeds)
    (hr : ∀ d ∈ rest, d.isOpening = false) : OpensFirst (deeds ++ rest) := by
  intro d hd
  cases deeds with
  | nil => exact hr d (List.mem_of_mem_tail hd)
  | cons first deeds =>
    rcases List.mem_append.1 hd with hd | hd
    · exact h d hd
    · exact hr d hd

@[simp] theorem Call.deeds_append (log rest : Call.History) :
    Call.deeds (log ++ rest) = Call.deeds log ++ Call.deeds rest :=
  List.map_append

namespace Settles

variable {r : Resource} {deeds : List Deed} {objects : List Int} {settled : List Nat}

theorem lt_length (h : Settles r deeds objects settled) : ∀ k ∈ settled, k < objects.length := by
  induction h with
  | nil => simp
  | makes id _ ih =>
    intro k hk
    have := ih k hk
    rw [List.length_append, List.length_singleton]
    omega
  | returns j _ hj _ ih =>
    intro k hk
    rcases List.mem_append.1 hk with hk | hk
    · exact ih k hk
    · rw [List.mem_singleton.1 hk]
      exact (List.getElem?_eq_some_iff.1 hj).1
  | other _ _ ih => exact ih

theorem append_others (h : Settles r deeds objects settled) {rest : List Deed}
    (ho : ∀ d ∈ rest, d.concerns r = false) : Settles r (deeds ++ rest) objects settled := by
  induction rest generalizing deeds with
  | nil => exact (List.append_nil deeds).symm ▸ h
  | cons d rest ih =>
    rw [← List.singleton_append, ← List.append_assoc]
    exact ih (h.other (ho d List.mem_cons_self)) fun e he => ho e (List.mem_cons_of_mem d he)

end Settles

/-! Shelves hold the objects made so far, and agree with the account. -/

structure Held where
  id : Int
  isClosed : Bool
  deriving DecidableEq

/-- A place is empty once its object was dropped. -/
abbrev Shelf := List (Option Held)

namespace Shelf

def dues (shelf : Shelf) : List Int :=
  shelf.filterMap fun place => place.bind fun x => if x.isClosed then none else some x.id

def Fits (objects : List Int) (settled : List Nat) (k : Nat) : Option Held → Prop
  | some x => objects[k]? = some x.id ∧ (x.isClosed = true ↔ k ∈ settled)
  | none => k ∈ settled

structure Agrees (shelf : Shelf) (objects : List Int) (settled : List Nat) : Prop where
  length : shelf.length = objects.length
  places : ∀ k place, shelf[k]? = some place → Fits objects settled k place

variable {shelf : Shelf} {objects : List Int} {settled : List Nat} {k : Nat}

theorem Fits.mono {objects' : List Int} {settled' : List Nat} {place : Option Held}
    (h : Fits objects settled k place) (ho : objects'[k]? = objects[k]?)
    (hs : k ∈ settled' ↔ k ∈ settled) : Fits objects' settled' k place := by
  cases place with
  | none => exact hs.2 h
  | some x => exact ⟨ho.trans h.1, h.2.trans hs.symm⟩

theorem Agrees.make (h : Agrees shelf objects settled) (hs : ∀ k ∈ settled, k < objects.length)
    (id : Int) : Agrees (shelf ++ [some ⟨id, false⟩]) (objects ++ [id]) settled where
  length := by simp [h.length]
  places k place hk := by
    rcases Nat.lt_trichotomy k shelf.length with hlt | heq | hgt
    · rw [List.getElem?_append_left hlt] at hk
      exact (h.places k place hk).mono (List.getElem?_append_left (h.length ▸ hlt)) Iff.rfl
    · rw [heq, List.getElem?_concat_length] at hk
      obtain rfl := Option.some.inj hk
      have fresh : k ∉ settled := fun hm => by
        have := hs k hm
        have := h.length
        omega
      exact ⟨by rw [heq, h.length, List.getElem?_concat_length], by simpa using fresh⟩
    · rw [List.getElem?_eq_none (by simp; omega)] at hk
      cases hk

theorem Agrees.finish (h : Agrees shelf objects settled) {x : Held} {place : Option Held}
    (hx : shelf[k]? = some (some x)) (hp : place = none ∨ place = some { x with isClosed := true })
    {settled' : List Nat} (hs : ∀ j, j ∈ settled' ↔ j ∈ settled ∨ j = k) :
    Agrees (shelf.set k place) objects settled' where
  length := by simp [h.length]
  places j other hj := by
    by_cases hjk : j = k
    · rw [hjk, List.getElem?_set_self (List.getElem?_eq_some_iff.1 hx).1] at hj
      obtain rfl := Option.some.inj hj
      have mem : j ∈ settled' := (hs j).2 (.inr hjk)
      rcases hp with rfl | rfl
      · exact mem
      · exact ⟨hjk ▸ (h.places k _ hx).1, by simpa using mem⟩
    · rw [List.getElem?_set_ne (Ne.symm hjk)] at hj
      exact (h.places j other hj).mono rfl (by simp [hs, hjk])

end Shelf

namespace Settles

variable {r : Resource} {deeds : List Deed} {objects : List Int} {settled : List Nat}

theorem finish (h : Settles r deeds objects settled) {shelf : Shelf}
    (ha : shelf.Agrees objects settled) {k : Nat} {x : Held} (hx : shelf[k]? = some (some x)) :
    ∃ settled', Settles r (deeds ++ if x.isClosed then [] else [.returns r x.id]) objects settled' ∧
      ∀ j, j ∈ settled' ↔ j ∈ settled ∨ j = k := by
  obtain ⟨object, closed⟩ := ha.places k _ hx
  cases hc : x.isClosed with
  | true =>
    refine ⟨settled, by simpa using h, fun j => ⟨.inl, ?_⟩⟩
    rintro (hj | rfl)
    · exact hj
    · exact closed.1 hc
  | false =>
    have fresh : k ∉ settled := fun hk => by simp [closed.2 hk] at hc
    exact ⟨settled ++ [k], by simpa using h.returns k object fresh, by simp⟩

/-- Giving back what is due from place `n` on settles everything, if all before is settled. -/
theorem clear_from (h : Settles r deeds objects settled) (rest : Shelf) (n : Nat)
    (hl : n + rest.length = objects.length) (done : ∀ k < n, k ∈ settled)
    (fits : ∀ j place, rest[j]? = some place → Shelf.Fits objects settled (n + j) place) :
    ∃ settled', Settles r (deeds ++ rest.dues.map (.returns r)) objects settled' ∧
      ∀ k < objects.length, k ∈ settled' := by
  induction rest generalizing deeds settled n with
  | nil =>
    refine ⟨settled, by simpa [Shelf.dues] using h, fun k hk => done k ?_⟩
    simpa [← hl] using hk
  | cons place rest ih =>
    have fit := fits 0 place rfl
    have hl' : n + 1 + rest.length = objects.length := by
      rw [← hl, List.length_cons]
      omega
    by_cases hn : n ∈ settled
    · have nothing : Shelf.dues (place :: rest) = Shelf.dues rest := by
        cases place with
        | none => rfl
        | some x => simp [Shelf.dues, fit.2.2 hn]
      rw [nothing]
      apply ih h (n + 1) hl'
      · intro k hk
        rcases Nat.lt_succ_iff_lt_or_eq.1 hk with hk | rfl
        · exact done k hk
        · exact hn
      · intro j other hj
        have place : n + (j + 1) = n + 1 + j := by omega
        rw [← place]
        exact fits (j + 1) other hj
    · obtain ⟨x, rfl⟩ : ∃ x, place = some x := by
        cases place with
        | none => exact absurd fit hn
        | some x => exact ⟨x, rfl⟩
      have due : Shelf.dues (some x :: rest) = x.id :: Shelf.dues rest := by
        have : x.isClosed = false := by simpa using mt fit.2.1 hn
        simp [Shelf.dues, this]
      rw [due, List.map_cons, ← List.singleton_append, ← List.append_assoc]
      apply ih (h.returns n fit.1 hn) (n + 1) hl'
      · intro k hk
        rcases Nat.lt_succ_iff_lt_or_eq.1 hk with hk | rfl
        · exact List.mem_append_left _ (done k hk)
        · simp
      · intro j other hj
        have place : n + (j + 1) = n + 1 + j := by omega
        have fit := fits (j + 1) other hj
        rw [place] at fit
        refine fit.mono rfl ?_
        have later : n + 1 + j ≠ n := by omega
        rw [List.mem_append, List.mem_singleton, or_iff_left later]

theorem clear (h : Settles r deeds objects settled) {shelf : Shelf}
    (ha : shelf.Agrees objects settled) :
    ∃ settled', Settles r (deeds ++ shelf.dues.map (.returns r)) objects settled' ∧
      ∀ k < objects.length, k ∈ settled' := by
  have all : 0 + shelf.length = objects.length := by rw [Nat.zero_add, ha.length]
  apply h.clear_from shelf 0 all (by simp)
  intro j place hj
  rw [Nat.zero_add]
  exact ha.places j place hj

end Settles

end MidiSequencer
