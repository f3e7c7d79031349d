import MidiSequencer.Proofs.Histories

/-! # Two programs side by side

Two programs are run from two states and compared where both end. The rules follow the programs from
question to question, as long as both are asked and answered the same. -/
namespace MidiSequencer.Program

variable {Q : Type} {A : Q → Type} {σ α β : Type}

theorem run_bind_eq_some {m : Machine Q A σ} {p : Program Q A α} {f : α → Program Q A β} {s u : σ}
    {b : β} (h : (p >>= f).run m s = (some b, u)) :
    ∃ a t, p.run m s = (some a, t) ∧ (f a).run m t = (some b, u) := by
  rw [run_bind] at h
  rcases hp : p.run m s with ⟨_ | a, t⟩
  · rw [hp] at h
    cases h
  · rw [hp] at h
    exact ⟨a, t, rfl, h⟩

/-- From states related by `P`, both programs come to the same value, if they end, and to states
related by `R`. -/
def Couples (m : Machine Q A σ) (P : σ → σ → Prop) (p q : Program Q A α) (R : σ → σ → Prop) :
    Prop :=
  ∀ s t, P s t → ∀ a s' b t', p.run m s = (some a, s') → q.run m t = (some b, t') →
    b = a ∧ R s' t'

namespace Couples

variable {m : Machine Q A σ} {P R : σ → σ → Prop} {p q : Program Q A α}

theorem done (a : α) (h : ∀ s t, P s t → R s t) : Couples m P (.done a) (.done a) R := by
  intro s t hs a' s' b' t' runs runs'
  cases runs
  cases runs'
  exact ⟨rfl, h s t hs⟩

theorem mono {P' R' : σ → σ → Prop} (hp : Couples m P p q R) (before : ∀ s t, P' s t → P s t)
    (behind : ∀ s t, R s t → R' s t) : Couples m P' p q R' := by
  intro s t hs a s' b t' runs runs'
  exact (hp s t (before s t hs) a s' b t' runs runs').imp_right (behind s' t')

theorem bind {f g : α → Program Q A β} {S : σ → σ → Prop} (hp : Couples m P p q R)
    (hf : ∀ a h, Traces p h (some a) → Couples m R (f a) (g a) S) :
    Couples m P (p >>= f) (q >>= g) S := by
  intro s t hs c s' d t' runs runs'
  obtain ⟨a, u, first, rest⟩ := run_bind_eq_some runs
  obtain ⟨b, v, first', rest'⟩ := run_bind_eq_some runs'
  obtain ⟨rfl, related⟩ := hp s t hs a u b v first first'
  obtain ⟨h, ht⟩ := exists_traces_run m p s
  rw [first] at ht
  exact hf b h ht u v related c s' d t' rest rest'

/-- A program asks the same again as long as it is answered the same. -/
theorem lockstep {asked : Q → Prop} (hp : p.Meets asked fun _ => True)
    (answers : ∀ q s t, asked q → P s t → (m q t).1 = (m q s).1 ∧ P (m q s).2 (m q t).2) :
    Couples m P p p P := by
  intro s t hs a s' b t' runs runs'
  induction p generalizing s t with
  | done c =>
    cases runs
    cases runs'
    exact ⟨rfl, hs⟩
  | ask q next ih =>
    obtain ⟨same, related⟩ := answers q s t hp.1 hs
    rw [run] at runs runs'
    rw [same] at runs'
    exact ih _ (hp.2 _) _ _ related runs runs'
  | unfinished => cases runs

end Couples

end MidiSequencer.Program
