import MidiSequencer.Proofs.Recording

/-! # Rules of conduct

What every operation has to heed: which calls it may make and only while the connection is open, and
that a call that fails is its last. The rules are checked along the tree of a dialogue, for all
answers. -/
namespace MidiSequencer

namespace Call

/-- The call answers that it failed. A release answers nothing. -/
def Fails (c : Call) (answer : c.Answer) (s : Status) : Prop :=
  s < 0 ∧ c ≠ .release ∧ answer = c.forced s

def isNext : Call → Bool
  | .nextClient _ => true
  | .nextPort _ _ => true
  | _ => false

def isTransfer : Call → Bool
  | .eventInput => true
  | .command (.eventOutput _) => true
  | .command (.eventOutputDirect _) => true
  | .command .drainOutput => true
  | _ => false

def isReturn : Call → Bool
  | .command (.deletePort _) => true
  | .command (.freeQueue _) => true
  | _ => false

end Call

def Request.Fails : (q : Request) → q.Answer → Call → Status → Prop
  | .call c, answer, failed, s => failed = c ∧ c.Fails answer s
  | .now, _, _, _ => False
  | .poll _ _, _, _, _ => False
  | .suspend _ _, _, _, _ => False
  | .clearReady _, _, _, _ => False
  | .pause _, _, _, _ => False

/-- What an operation may ask of the sequencer, and how it takes a call that fails. -/
structure Rules where
  isOpen : Bool
  names : List String
  waits : Bool := false
  drops : Bool := false

namespace Rules

/-- A negative status that does not end the operation. -/
def Exempt (R : Rules) (c : Call) (s : Status) : Prop :=
  (c.isNext = true ∧ s = Status.notFound) ∨
  (R.waits = true ∧ c.isTransfer = true ∧ s = Status.wouldBlock) ∨
  (R.drops = true ∧ c.isReturn = true)

def Allows (R : Rules) : Request → Prop
  | .call c => R.isOpen = true ∧ c.name ∈ R.names
  | _ => True

def Reports (R : Rules) (e : Error) : Prop :=
  ∃ c s, e = .service c.label s ∧ c ≠ .release ∧ c.name ∈ R.names ∧ ¬ R.Exempt c s

end Rules

/-- What has to come out where the connection is closed, and where a call failed with an error. Of a
dialogue that is cut short nothing comes out. -/
structure Duty (α : Type) where
  refused : Option α → Prop
  reported : Error → Option α → Prop

namespace Dialogue

variable {α β : Type}

def Ends (p : Dialogue α) (P : Option α → Prop) : Prop :=
  ∃ o, Program.Traces p [] o ∧ P o

theorem ends_done {a : α} {P : Option α → Prop} (h : P (some a)) : Ends (.done a) P :=
  ⟨some a, .done a, h⟩

theorem ends_unfinished {P : Option α → Prop} (h : P none) : Ends (.unfinished) P :=
  ⟨none, .unfinished, h⟩

theorem Ends.of_traces {p : Dialogue α} {P : Option α → Prop} (hp : Ends p P)
    {h : Dialogue.History} {o : Option α} (ht : Program.Traces p h o) : h = [] ∧ P o := by
  obtain ⟨o', he, hP⟩ := hp
  cases he with
  | done a =>
    obtain ⟨rfl, rfl⟩ := Program.traces_done_iff.1 ht
    exact ⟨rfl, hP⟩
  | unfinished =>
    obtain ⟨rfl, rfl⟩ := Program.traces_unfinished_iff.1 ht
    exact ⟨rfl, hP⟩

theorem Ends.bind {p : Dialogue α} {f : α → Dialogue β} {P : Option α → Prop}
    {S : Option β → Prop} (hp : Ends p P) (hf : ∀ a, P (some a) → Ends (f a) S)
    (hn : P none → S none) : Ends (p >>= f) S := by
  obtain ⟨o, he, hP⟩ := hp
  cases he with
  | done a => exact hf a hP
  | unfinished => exact ends_unfinished (hn hP)

/-- Every question is allowed, and after a failure that is not exempt there is none. -/
def Heeds (R : Rules) (D : Duty α) : Program Request Request.Answer α → Prop
  | .done a => R.isOpen = false → D.refused (some a)
  | .unfinished => R.isOpen = false → D.refused none
  | .ask q next => R.Allows q ∧ ∀ answer, Heeds R D (next answer) ∧
      ∀ c s, q.Fails answer c s → ¬ R.Exempt c s →
        Ends (next answer) (D.reported (.service c.label s))

variable {R : Rules} {D : Duty α} {E : Duty β} {p : Dialogue α} {h : Dialogue.History}
  {o : Option α}

namespace Heeds

/-- By induction on the history: the failure stands at its head or in its rest. -/
theorem failure (hp : Heeds R D p) (ht : Program.Traces p h o) {before after : Dialogue.History}
    {q : Request} {answer : q.Answer} {c : Call} {s : Status}
    (hh : h = before ++ ⟨q, answer⟩ :: after) (hf : q.Fails answer c s) (hx : ¬ R.Exempt c s) :
    after = [] ∧ D.reported (.service c.label s) o := by
  induction ht generalizing before with
  | done a => simp at hh
  | unfinished => simp at hh
  | ask hn ih =>
    obtain ⟨-, rest⟩ := hp
    cases before with
    | nil =>
      obtain ⟨hq, rfl⟩ := List.cons.inj hh
      cases hq
      exact ((rest _).2 c s hf hx).of_traces hn
    | cons x before =>
      obtain ⟨-, hh⟩ := List.cons.inj hh
      exact ih (rest _).1 hh

theorem allowed (hp : Heeds R D p) (ht : Program.Traces p h o) : ∀ x ∈ h, R.Allows x.question := by
  induction ht with
  | done a => simp
  | unfinished => simp
  | ask hn ih =>
    intro x hx
    rcases List.mem_cons.1 hx with rfl | hx
    · exact hp.1
    · exact ih (hp.2 _).1 x hx

theorem names (hp : Heeds R D p) (ht : Program.Traces p h o) :
    ∀ x ∈ Dialogue.calls h, x.question.name ∈ R.names := by
  intro x hx
  obtain ⟨⟨q, answer⟩, hq, hs⟩ := List.mem_filterMap.1 hx
  cases q with
  | call c =>
    cases hs
    exact (hp.allowed ht _ hq).2
  | _ => cases hs

theorem closed (hp : Heeds R D p) (hc : R.isOpen = false) (ht : Program.Traces p h o) :
    Dialogue.calls h = [] ∧ D.refused o := by
  induction ht with
  | done a => exact ⟨rfl, hp hc⟩
  | unfinished => exact ⟨rfl, hp hc⟩
  | @ask q next answer h o hn ih =>
    obtain ⟨silent, refused⟩ := ih (hp.2 answer).1
    refine ⟨?_, refused⟩
    cases q with
    | call c =>
      have isOpen : R.isOpen = true := hp.1.1
      rw [hc] at isOpen
      cases isOpen
    | _ => exact silent

theorem bind {f : α → Dialogue β} (hp : Heeds R D p)
    (next : ∀ a, (R.isOpen = false → D.refused (some a)) → Heeds R E (f a))
    (cut : R.isOpen = false → D.refused none → E.refused none)
    (failed : ∀ e, R.Reports e → ∀ a, D.reported e (some a) → Ends (f a) (E.reported e))
    (failedCut : ∀ e, D.reported e none → E.reported e none) : Heeds R E (p >>= f) := by
  induction p with
  | done a => exact next a hp
  | unfinished => exact fun hc => cut hc (hp hc)
  | ask q k ih =>
    obtain ⟨allowed, rest⟩ := hp
    refine ⟨allowed, fun answer => ⟨ih answer (rest answer).1, ?_⟩⟩
    intro c s hf hx
    have ends := (rest answer).2 c s hf hx
    have reports : R.Reports (.service c.label s) := by
      cases q with
      | call c' =>
        obtain ⟨rfl, -, answers, -⟩ := hf
        exact ⟨c, s, rfl, answers, allowed.2, hx⟩
      | _ => cases hf
    exact ends.bind (failed _ reports) (failedCut _)

end Heeds

theorem heeds_of_isOpen (hc : R.isOpen = true) (a : α) : Heeds R D (.done a) := by
  intro hn
  rw [hc] at hn
  cases hn

theorem heeds_unfinished_of_isOpen (hc : R.isOpen = true) : Heeds R D (.unfinished) := by
  intro hn
  rw [hc] at hn
  cases hn

theorem heeds_ask {q : Request} {f : q.Answer → Dialogue α} (hq : R.Allows q)
    (hs : ∀ answer c s, ¬ q.Fails answer c s) (hf : ∀ answer, Heeds R D (f answer)) :
    Heeds R D (.ask q f) := by
  refine ⟨hq, fun answer => ⟨hf answer, ?_⟩⟩
  intro c s h
  exact absurd h (hs answer c s)

end Dialogue

end MidiSequencer
