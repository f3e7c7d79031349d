/-! # Programs that ask questions

A program ends with a value, asks a question and goes on with the answer, or is cut short because
the steps it was granted ran out. A machine answers questions from a state of its own. Programs say
what is asked and in which order; which machine answers is chosen only when a program is run.
-/
namespace MidiSequencer

/-- A run that has not ended within the steps it was granted is `unfinished`. -/
inductive Program (Q : Type) (A : Q → Type) (α : Type) where
  | done (a : α)
  | ask (q : Q) (next : A q → Program Q A α)
  | unfinished

/-- A machine answers every question and moves to its next state. -/
abbrev Machine (Q : Type) (A : Q → Type) (σ : Type) := (q : Q) → σ → A q × σ

namespace Program

variable {Q : Type} {A : Q → Type} {α β γ σ : Type}

def bind : Program Q A α → (α → Program Q A β) → Program Q A β
  | done a, f => f a
  | ask q next, f => ask q fun r => (next r).bind f
  | unfinished, _ => unfinished

instance : Monad (Program Q A) where
  pure := done
  bind := bind

def query (q : Q) : Program Q A (A q) :=
  ask q done

@[simp] theorem pure_eq (a : α) : (pure a : Program Q A α) = done a := rfl

@[simp] theorem done_bind (a : α) (f : α → Program Q A β) : (done a >>= f) = f a := rfl

@[simp] theorem ask_bind (q : Q) (next : A q → Program Q A α) (f : α → Program Q A β) :
    (ask q next >>= f) = ask q fun r => next r >>= f := rfl

@[simp] theorem unfinished_bind (f : α → Program Q A β) :
    ((unfinished : Program Q A α) >>= f) = unfinished := rfl

theorem bind_done (p : Program Q A α) : (p >>= done) = p := by
  induction p with
  | done a => rfl
  | ask q next ih => simp [ih]
  | unfinished => rfl

theorem bind_assoc (p : Program Q A α) (f : α → Program Q A β) (g : β → Program Q A γ) :
    (p >>= f >>= g) = p >>= fun a => f a >>= g := by
  induction p with
  | done a => rfl
  | ask q next ih => simp [ih]
  | unfinished => rfl

instance : LawfulMonad (Program Q A) :=
  LawfulMonad.mk' _ (fun p => bind_done p) (fun _ _ => rfl) bind_assoc

/-- The value is absent when the program was cut short. -/
def run (m : Machine Q A σ) : Program Q A α → σ → Option α × σ
  | done a, s => (some a, s)
  | ask q next, s => run m (next (m q s).1) (m q s).2
  | unfinished, s => (none, s)

theorem run_bind (m : Machine Q A σ) (p : Program Q A α) (f : α → Program Q A β) (s : σ) :
    (p >>= f).run m s = match p.run m s with
      | (some a, t) => (f a).run m t
      | (none, t) => (none, t) := by
  induction p generalizing s with
  | done a => rfl
  | ask q next ih => simpa [run] using ih _ _
  | unfinished => rfl

/-- One question with the answer it was given. -/
structure Exchange (Q : Type) (A : Q → Type) where
  question : Q
  answer : A question

/-- Questions with their answers, in the order in which they were asked. -/
abbrev History (Q : Type) (A : Q → Type) := List (Exchange Q A)

/-- Answered as `h` says, `p` asks exactly the questions of `h` and ends with `a`. -/
inductive Runs : Program Q A α → History Q A → α → Prop where
  | done (a : α) : Runs (.done a) [] a
  | ask {q : Q} {next : A q → Program Q A α} {r : A q} {h : History Q A} {a : α} :
      Runs (next r) h a → Runs (.ask q next) (⟨q, r⟩ :: h) a

end Program

end MidiSequencer
