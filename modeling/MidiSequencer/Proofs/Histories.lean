import MidiSequencer.Action

/-! # Histories of programs

What a history of a program looks like, constructor by constructor and for programs in sequence, and
rules for programs that ask only certain questions. -/
namespace MidiSequencer

namespace Program

variable {Q : Type} {A : Q → Type} {α β : Type} {h : History Q A}

/-- A history like that of `Runs`, of a program that may be cut short. -/
inductive Traces : Program Q A α → History Q A → Option α → Prop where
  | done (a : α) : Traces (.done a) [] (some a)
  | ask {q : Q} {next : A q → Program Q A α} {r : A q} {h : History Q A} {o : Option α} :
      Traces (next r) h o → Traces (.ask q next) (⟨q, r⟩ :: h) o
  | unfinished : Traces .unfinished [] none

variable {o : Option α}

@[simp] theorem traces_done_iff {a : α} :
    Traces (.done a : Program Q A α) h o ↔ h = [] ∧ o = some a := by
  constructor
  · intro ht
    cases ht
    exact ⟨rfl, rfl⟩
  · rintro ⟨rfl, rfl⟩
    exact .done a

theorem traces_ask_iff {q : Q} {next : A q → Program Q A α} :
    Traces (.ask q next) h o ↔ ∃ r t, h = ⟨q, r⟩ :: t ∧ Traces (next r) t o := by
  constructor
  · intro ht
    cases ht with
    | ask hn => exact ⟨_, _, rfl, hn⟩
  · rintro ⟨r, t, rfl, hn⟩
    exact .ask hn

@[simp] theorem traces_unfinished_iff :
    Traces (.unfinished : Program Q A α) h o ↔ h = [] ∧ o = none := by
  constructor
  · intro ht
    cases ht
    exact ⟨rfl, rfl⟩
  · rintro ⟨rfl, rfl⟩
    exact .unfinished

theorem traces_bind_iff {p : Program Q A α} {f : α → Program Q A β} {o : Option β} :
    Traces (p >>= f) h o ↔
      (∃ h₁ a h₂, h = h₁ ++ h₂ ∧ Traces p h₁ (some a) ∧ Traces (f a) h₂ o) ∨
      (o = none ∧ Traces p h none) := by
  induction p generalizing h with
  | done a =>
    constructor
    · intro ht
      exact .inl ⟨[], a, h, rfl, .done a, ht⟩
    · rintro (⟨h₁, a, h₂, rfl, hp, hf⟩ | ⟨rfl, hp⟩)
      · obtain ⟨rfl, hs⟩ := traces_done_iff.1 hp
        cases hs
        exact hf
      · cases hp
  | ask q next ih =>
    rw [ask_bind, traces_ask_iff]
    constructor
    · rintro ⟨r, t, rfl, hn⟩
      rcases (ih r).1 hn with ⟨h₁, a, h₂, rfl, hp, hf⟩ | ⟨rfl, hp⟩
      · exact .inl ⟨⟨q, r⟩ :: h₁, a, h₂, rfl, .ask hp, hf⟩
      · exact .inr ⟨rfl, .ask hp⟩
    · rintro (⟨h₁, a, h₂, rfl, hp, hf⟩ | ⟨rfl, hp⟩)
      · obtain ⟨r, t, rfl, hn⟩ := traces_ask_iff.1 hp
        exact ⟨r, t ++ h₂, rfl, (ih r).2 (.inl ⟨t, a, h₂, rfl, hn, hf⟩)⟩
      · obtain ⟨r, t, rfl, hn⟩ := traces_ask_iff.1 hp
        exact ⟨r, t, rfl, (ih r).2 (.inr ⟨rfl, hn⟩)⟩
  | unfinished => simp [and_comm]

theorem traces_bind_of_ends {p : Program Q A α} {f : α → Program Q A β} {o : Option β}
    (hp : ∀ h, ¬ Traces p h none) (ht : Traces (p >>= f) h o) :
    ∃ h₁ a h₂, h = h₁ ++ h₂ ∧ Traces p h₁ (some a) ∧ Traces (f a) h₂ o := by
  rcases traces_bind_iff.1 ht with split | ⟨-, cut⟩
  · exact split
  · exact absurd cut (hp h)

theorem traces_some_iff {p : Program Q A α} {a : α} : Traces p h (some a) ↔ Runs p h a := by
  constructor
  · intro ht
    generalize hs : some a = o at ht
    induction ht with
    | done b =>
      obtain rfl := Option.some.inj hs
      exact .done a
    | ask hn ih => exact .ask (ih hs)
    | unfinished => cases hs
  · intro hr
    induction hr with
    | done a => exact .done a
    | ask hn ih => exact .ask ih

@[simp] theorem runs_done_iff {a b : α} :
    Runs (.done a : Program Q A α) h b ↔ h = [] ∧ b = a := by
  rw [← traces_some_iff, traces_done_iff, Option.some.injEq]

theorem runs_ask_iff {q : Q} {next : A q → Program Q A α} {a : α} :
    Runs (.ask q next) h a ↔ ∃ r t, h = ⟨q, r⟩ :: t ∧ Runs (next r) t a := by
  rw [← traces_some_iff, traces_ask_iff]
  simp only [traces_some_iff]

@[simp] theorem not_runs_unfinished {a : α} : ¬ Runs (.unfinished : Program Q A α) h a := by
  intro hr
  cases hr

theorem runs_bind_iff {p : Program Q A α} {f : α → Program Q A β} {b : β} :
    Runs (p >>= f) h b ↔ ∃ h₁ a h₂, h = h₁ ++ h₂ ∧ Runs p h₁ a ∧ Runs (f a) h₂ b := by
  rw [← traces_some_iff, traces_bind_iff]
  simp only [traces_some_iff, reduceCtorEq, false_and, or_false]

/-- Every question has the property `P`, and a value at the end the property `R`, whatever the
answers are. -/
def Meets (P : Q → Prop) (R : α → Prop) : Program Q A α → Prop
  | done a => R a
  | ask q next => P q ∧ ∀ r, (next r).Meets P R
  | unfinished => True

variable {P P' : Q → Prop} {R : α → Prop} {p : Program Q A α}

theorem Meets.bind {S : β → Prop} {f : α → Program Q A β} (hp : p.Meets P R)
    (hf : ∀ a, R a → (f a).Meets P S) : (p >>= f).Meets P S := by
  induction p with
  | done a => exact hf a hp
  | ask q next ih => exact ⟨hp.1, fun r => ih r (hp.2 r)⟩
  | unfinished => trivial

theorem Meets.mono {R' : α → Prop} (hp : p.Meets P R) (hq : ∀ q, P q → P' q)
    (hr : ∀ a, R a → R' a) : p.Meets P' R' := by
  induction p with
  | done a => exact hr a hp
  | ask q next ih => exact ⟨hq q hp.1, fun r => ih r (hp.2 r)⟩
  | unfinished => trivial

theorem Meets.question (hp : p.Meets P R) (ht : Traces p h o) : ∀ x ∈ h, P x.question := by
  induction ht with
  | done a => simp
  | ask hn ih =>
    intro x hx
    rcases List.mem_cons.1 hx with rfl | hx
    · exact hp.1
    · exact ih (hp.2 _) x hx
  | unfinished => simp

theorem Meets.value {a : α} (hp : p.Meets P R) (ht : Traces p h (some a)) : R a := by
  generalize hs : some a = o at ht
  induction ht with
  | done b => exact Option.some.inj hs ▸ hp
  | ask hn ih => exact ih (hp.2 _) hs
  | unfinished => cases hs

theorem exists_traces_run {σ : Type} (m : Machine Q A σ) (p : Program Q A α) (s : σ) :
    ∃ h, Traces p h (p.run m s).1 := by
  induction p generalizing s with
  | done a => exact ⟨[], .done a⟩
  | ask q next ih =>
    obtain ⟨h, ht⟩ := ih (m q s).1 (m q s).2
    exact ⟨⟨q, (m q s).1⟩ :: h, .ask ht⟩
  | unfinished => exact ⟨[], .unfinished⟩

end Program

theorem Action.meets_sequence {α β : Type} {P : Request → Prop} {a : Action α} {f : α → Action β}
    (ha : a.run.Meets P fun _ => True) (hf : ∀ x, (f x).run.Meets P fun _ => True) :
    (a >>= f).run.Meets P fun _ => True := by
  rw [ExceptT.run_bind]
  refine ha.bind fun result _ => ?_
  cases result with
  | ok x => exact hf x
  | error e => trivial

end MidiSequencer
