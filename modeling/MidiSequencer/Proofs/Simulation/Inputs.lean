import MidiSequencer.Proofs.Commands.Acts
import MidiSequencer.Proofs.Simulation.Faults
import MidiSequencer.Proofs.Simulation.Libraries
import MidiSequencer.Proofs.Waiting.Inputs

/-! # Inputs and all the rest

In a native library inputs and the other calls may have nothing to do with each other: neither sees
in its answers whether the other was made. So it is with the tables, which fall into what waits for
input, with what the script forces on it, and all the rest. -/
namespace MidiSequencer

section

variable {Q : Type} {A : Q → Type} {σ : Type}

def Machine.answers (m : Machine Q A σ) : List Q → σ → Program.History Q A
  | [], _ => []
  | q :: rest, s => ⟨q, (m q s).1⟩ :: Machine.answers m rest (m q s).2

/-- No questions that satisfy `P` tell the one state from the other. -/
def Machine.Alike (m : Machine Q A σ) (P : Q → Prop) (s u : σ) : Prop :=
  ∀ questions : List Q, (∀ q ∈ questions, P q) →
    Machine.answers m questions u = Machine.answers m questions s

namespace Machine.Alike

variable {m : Machine Q A σ} {P : Q → Prop} {s t u : σ}

theorem refl (m : Machine Q A σ) (P : Q → Prop) (s : σ) : Machine.Alike m P s s :=
  fun _ _ => rfl

theorem symm (h : Machine.Alike m P s u) : Machine.Alike m P u s :=
  fun questions hq => (h questions hq).symm

theorem trans (first : Machine.Alike m P s t) (second : Machine.Alike m P t u) :
    Machine.Alike m P s u :=
  fun questions hq => (second questions hq).trans (first questions hq)

theorem next (h : Machine.Alike m P s u) {q : Q} (hq : P q) :
    (m q u).1 = (m q s).1 ∧ Machine.Alike m P (m q s).2 (m q u).2 := by
  have both (rest : List Q) (hr : ∀ q ∈ rest, P q) :=
    h (q :: rest) (List.forall_mem_cons.2 ⟨hq, hr⟩)
  constructor
  · have first := (List.cons.inj (both [] nofun)).1
    injection first
  · exact fun rest hr => (List.cons.inj (both rest hr)).2

/-- By induction on the questions: a relation that they keep, and under which they are answered the
same, is between states that are alike. -/
theorem of_related {R : σ → σ → Prop}
    (step : ∀ q s u, P q → R s u → (m q u).1 = (m q s).1 ∧ R (m q s).2 (m q u).2) (h : R s u) :
    Machine.Alike m P s u := by
  intro questions
  induction questions generalizing s u with
  | nil => exact fun _ => rfl
  | cons q rest ih =>
    intro hq
    obtain ⟨asked, later⟩ := List.forall_mem_cons.1 hq
    obtain ⟨same, related⟩ := step q s u asked h
    show _ :: _ = _ :: _
    rw [same, ih related later]

end Machine.Alike

end

namespace Native

def NativeCall.isInput : NativeCall → Bool
  | .eventInput => true
  | .dropInput => true
  | .dropInputBuffer => true
  | _ => false

theorem NativeCall.name_of_isInput {c : NativeCall} (hc : c.isInput = false) :
    c.name ≠ NativeCall.eventInput.name := by
  cases c with
  | eventInput | dropInput | dropInputBuffer => cases hc
  | allocate kind | free kind => cases kind <;> decide
  | _ => exact fun same => absurd same (by simp [NativeCall.name])

namespace Kernel

theorem answer_withInput (k : Kernel) (input : List (Option Record)) {c : NativeCall}
    (hc : c.isInput = false) :
    { k with input }.answer c = ((k.answer c).1, { (k.answer c).2 with input }) := by
  cases c with
  | eventInput | dropInput | dropInputBuffer => cases hc
  | deletePort port =>
    simp only [answer, deletePort]
    by_cases found : k.ports.any (k.isOurs port) = true
    · rw [if_pos found]
      exact if_pos found
    · rw [if_neg found]
      exact if_neg found
  | setPortInfo port d =>
    simp only [answer, setPortInfo]
    by_cases found : k.ports.any (k.isOurs port) = true
    · rw [if_pos found]
      exact if_pos found
    · rw [if_neg found]
      exact if_neg found
  | _ => rfl

theorem input_answer (k : Kernel) {c : NativeCall} (hc : c.isInput = false) :
    (k.answer c).2.input = k.input :=
  congrArg (fun r => r.2.input) (k.answer_withInput k.input hc)

theorem takeInput_snd (k : Kernel) : k.takeInput.2 = { k with input := k.takeInput.2.input } := by
  unfold takeInput
  split <;> rfl

end Kernel

namespace Tables

theorem library_eq (c : NativeCall) (t : Tables) :
    (∀ status, t.script.forcedAt c.name 0 = some status →
        (library c t).1 = c.forced status ∧ (library c t).2.kernel = t.kernel) ∧
      (t.script.forcedAt c.name 0 = none →
        (library c t).1 = (t.kernel.answer c).1 ∧
          (library c t).2.kernel = (t.kernel.answer c).2) ∧
      (library c t).2.script = (t.script.take c.name).2 := by
  rw [← t.script.take_fst]
  unfold library
  rcases t.script.take c.name with ⟨_ | status, script⟩ <;> simp

theorem forcedAt_library (c : NativeCall) (t : Tables) (name : String) (k : Nat) :
    (library c t).2.script.forcedAt name k =
      t.script.forcedAt name (k + if c.name == name then 1 else 0) := by
  rw [(library_eq c t).2.2, Script.forcedAt_take]

theorem library_leaves {R : Kernel → Prop} {c : NativeCall} {t : Tables} (kept : R t.kernel)
    (works : R (t.kernel.answer c).2) : R (library c t).2.kernel := by
  obtain ⟨forced, worked, -⟩ := library_eq c t
  cases front : t.script.forcedAt c.name 0 with
  | some status =>
    rw [(forced status front).2]
    exact kept
  | none =>
    rw [(worked front).2]
    exact works

theorem library_both {R : Kernel → Kernel → Prop} {c : NativeCall} {t u : Tables}
    (front : u.script.forcedAt c.name 0 = t.script.forcedAt c.name 0) (kept : R t.kernel u.kernel)
    (works : (u.kernel.answer c).1 = (t.kernel.answer c).1 ∧
      R (t.kernel.answer c).2 (u.kernel.answer c).2) :
    (library c u).1 = (library c t).1 ∧ R (library c t).2.kernel (library c u).2.kernel := by
  obtain ⟨forced, worked, -⟩ := library_eq c t
  obtain ⟨forced', worked', -⟩ := library_eq c u
  rw [front] at forced' worked'
  cases same : t.script.forcedAt c.name 0 with
  | some status =>
    obtain ⟨answered, kernel⟩ := forced status same
    obtain ⟨answered', kernel'⟩ := forced' status same
    rw [kernel, kernel']
    exact ⟨answered'.trans answered.symm, kept⟩
  | none =>
    obtain ⟨answered, kernel⟩ := worked same
    obtain ⟨answered', kernel'⟩ := worked' same
    rw [kernel, kernel']
    exact ⟨answered'.trans (works.1.trans answered.symm), works.2⟩

structure SameInputs (t u : Tables) : Prop where
  input : u.kernel.input = t.kernel.input
  forced (k : Nat) : u.script.forcedAt NativeCall.eventInput.name k =
    t.script.forcedAt NativeCall.eventInput.name k

structure SameBeside (t u : Tables) : Prop where
  kernel : u.kernel = { t.kernel with input := u.kernel.input }
  forced (name : String) (k : Nat) : name ≠ NativeCall.eventInput.name →
    u.script.forcedAt name k = t.script.forcedAt name k

variable {t u : Tables} {c : NativeCall}

theorem sameInputs_library (t : Tables) (hc : c.isInput = false) :
    SameInputs t (library c t).2 where
  input := library_leaves (R := fun k => k.input = t.kernel.input) rfl (t.kernel.input_answer hc)
  forced k := by
    rw [forcedAt_library, if_neg (mt beq_iff_eq.1 (NativeCall.name_of_isInput hc))]
    rfl

theorem SameBeside.library (h : SameBeside t u) (hc : c.isInput = false) :
    (library c u).1 = (library c t).1 ∧ SameBeside (library c t).2 (library c u).2 := by
  have works := t.kernel.answer_withInput u.kernel.input hc
  rw [← h.kernel] at works
  obtain ⟨answered, kernel⟩ := library_both (c := c)
    (R := fun k k' => k' = { k with input := k'.input })
    (h.forced c.name 0 (NativeCall.name_of_isInput hc)) h.kernel
    ⟨by rw [works], by rw [works]⟩
  refine ⟨answered, kernel, fun name k hn => ?_⟩
  rw [forcedAt_library, forcedAt_library]
  exact h.forced name _ hn

theorem sameBeside_input (t : Tables) : SameBeside t (library .eventInput t).2 where
  kernel := library_leaves (R := fun k => k = { t.kernel with input := k.input }) rfl
    t.kernel.takeInput_snd
  forced name k hn := by
    rw [forcedAt_library, if_neg (mt beq_iff_eq.1 hn.symm)]
    rfl

theorem SameInputs.input_library (h : SameInputs t u) :
    (library .eventInput u).1 = (library .eventInput t).1 ∧
      SameInputs (library .eventInput t).2 (library .eventInput u).2 := by
  have works : (u.kernel.answer .eventInput).1 = (t.kernel.answer .eventInput).1 ∧
      (u.kernel.answer .eventInput).2.input = (t.kernel.answer .eventInput).2.input := by
    simp only [Kernel.answer, Kernel.takeInput, h.input]
    split <;> simp [h.input, *]
  obtain ⟨answered, input⟩ := library_both (R := fun k k' => k'.input = k.input) (h.forced 0)
    h.input works
  refine ⟨answered, input, fun k => ?_⟩
  rw [forcedAt_library, forcedAt_library]
  exact h.forced _

end Tables

/-- Inputs and the other calls do not see each other in their answers. -/
structure Library.InputsApart {σ : Type} (m : Library σ) : Prop where
  input (s : σ) : Machine.Alike m (fun c => c.isInput = false) s (m .eventInput s).2
  beside {c : NativeCall} (s : σ) : c.isInput = false →
    Machine.Alike m (· = .eventInput) s (m c s).2

theorem Tables.library_inputsApart : Library.InputsApart Tables.library where
  input t := .of_related (R := SameBeside) (fun _ _ _ hc same => same.library hc)
    (sameBeside_input t)
  beside {c} t hc := by
    refine .of_related (R := SameInputs) (fun c' t u asked same => ?_) (sameInputs_library t hc)
    obtain rfl : c' = .eventInput := asked
    exact same.input_library

def NativeCall.beside (log : NativeCall.History) : NativeCall.History :=
  log.filter fun x => x.question != .eventInput

end Native

def Call.isInput : Call → Bool
  | .eventInput => true
  | .command .dropInput => true
  | .command .dropInputBuffer => true
  | _ => false

namespace Native

open Library (Keeps)

section

variable {σ : Type}

/-- The same library, were it never asked for input. -/
def Library.deaf (m : Library σ) : Library σ := fun c s =>
  if c.isInput then (c.forced 0, s) else m c s

theorem Served.answer_deaf (m : Library σ) (s : Served σ) {c : Call} (hc : c.isInput = false) :
    s.answer m.deaf c = s.answer m c := by
  obtain ⟨tables, held⟩ := s
  cases c with
  | command q =>
    cases q with
    | dropInput | dropInputBuffer => cases hc
    | allocQueue name => cases name <;> rfl
    | _ => rfl
  | eventInput => cases hc
  | release => cases held <;> rfl
  | _ => rfl

theorem Served.keeps_beside {m : Library σ} {I : σ → Prop}
    (hm : ∀ c, c.isInput = false → Keeps I (Library.call m c)) {c : Call} (hc : c.isInput = false)
    {s : Served σ} (hs : I s.tables) : I (s.answer m c).2.tables := by
  have deaf (c : NativeCall) : Keeps I (Library.call m.deaf c) := by
    intro t ht
    cases taken : c.isInput with
    | true =>
      have silent : m.deaf c t = (c.forced 0, t) := if_pos taken
      refine ⟨trivial, ?_⟩
      show I (m.deaf c t).2
      rw [silent]
      exact ht
    | false =>
      have same : m.deaf c t = m c t := if_neg (by simp [taken])
      refine ⟨trivial, ?_⟩
      show I (m.deaf c t).2
      rw [same]
      exact (hm c taken t ht).2
  rw [← s.answer_deaf m hc]
  exact Library.keeps_answer deaf c hs

end

structure Served.Beside {σ : Type} (m : Library σ) (s u : Served (σ × NativeCall.History)) :
    Prop where
  tables : Machine.Alike m (fun c => c.isInput = false) s.tables.1 u.tables.1
  log : NativeCall.beside u.tables.2 = NativeCall.beside s.tables.2
  held : u.held = s.held

namespace Served

open NativeCall (beside)

/-- A library as a simulated sequencer whose native calls are written down. -/
abbrev rehearsal {σ χ : Type} (m : Library σ) (change : χ → σ → σ) :
    Simulator (Served (σ × NativeCall.History)) χ :=
  simulator (Machine.recorded m) (unrecorded change)

section

variable {σ χ : Type} {m : Library σ} {s t u : Served (σ × NativeCall.History)}

theorem Beside.refl (m : Library σ) (s : Served (σ × NativeCall.History)) : Beside m s s :=
  ⟨.refl m _ _, rfl, rfl⟩

theorem Beside.symm (h : Beside m s u) : Beside m u s :=
  ⟨h.tables.symm, h.log.symm, h.held.symm⟩

theorem Beside.trans (first : Beside m s t) (second : Beside m t u) : Beside m s u :=
  ⟨first.tables.trans second.tables, second.log.trans first.log, second.held.trans first.held⟩

variable (apart : m.InputsApart) (change : χ → σ → σ)

theorem answer_input (m : Library σ) (change : χ → σ → σ)
    (s : Served (σ × NativeCall.History)) :
    (rehearsal m change).answer .eventInput s = (received (m .eventInput s.tables.1).1,
      { s with tables := (Machine.recorded m .eventInput s.tables).2 }) :=
  congrArg (fun r => (r.1, { s with tables := r.2 }))
    (Library.eventInput_eq (Machine.recorded m) s.tables)

theorem inputAt_congr (h : Machine.Alike m (· = .eventInput) s.tables.1 u.tables.1) (k : Nat) :
    (rehearsal m change).inputAt u k = (rehearsal m change).inputAt s k := by
  obtain ⟨same, later⟩ := h.next rfl
  induction k generalizing s u with
  | zero =>
    show ((rehearsal m change).answer .eventInput u).1 =
      ((rehearsal m change).answer .eventInput s).1
    rw [answer_input, answer_input, same]
  | succ k ih =>
    have left : Machine.Alike m (· = .eventInput)
        ((rehearsal m change).answer .eventInput s).2.tables.1
        ((rehearsal m change).answer .eventInput u).2.tables.1 := by
      rw [answer_input, answer_input]
      exact later
    obtain ⟨same', later'⟩ := left.next rfl
    exact ih left same' later'

include apart

theorem beside_input (s : Served (σ × NativeCall.History)) :
    Beside m s ((rehearsal m change).answer .eventInput s).2 := by
  rw [answer_input]
  exact ⟨apart.input s.tables.1, (List.filter_append ..).trans (List.append_nil _), rfl⟩

theorem beside_afterInputs (s : Served (σ × NativeCall.History)) (k : Nat) :
    Beside m s ((rehearsal m change).afterInputs s k) := by
  induction k generalizing s with
  | zero => exact .refl m s
  | succ k ih => exact (beside_input apart change s).trans (ih _)

theorem inputAt_answer {c : Call} (hc : c.isInput = false)
    (s : Served (σ × NativeCall.History)) :
    (rehearsal m change).inputAt ((rehearsal m change).answer c s).2 =
      (rehearsal m change).inputAt s := by
  have native (c : NativeCall) (hc : c.isInput = false) : Keeps
      (fun t : σ × NativeCall.History => Machine.Alike m (· = .eventInput) s.tables.1 t.1)
      (Library.call (Machine.recorded m) c) :=
    fun t ht => ⟨trivial, ht.trans (apart.beside t.1 hc)⟩
  exact funext (inputAt_congr change (Served.keeps_beside native hc (s := s) (.refl m _ _)))

end

section

variable {σ χ : Type} {m : Library σ} (change : χ → σ → σ)
  {s u : Served (σ × NativeCall.History)}

theorem Beside.native (h : Beside m s u) {c : NativeCall} (hc : c.isInput = false) :
    (Machine.recorded m c u.tables).1 = (Machine.recorded m c s.tables).1 ∧
      Beside m { s with tables := (Machine.recorded m c s.tables).2 }
        { u with tables := (Machine.recorded m c u.tables).2 } := by
  obtain ⟨answered, left⟩ := h.tables.next hc
  refine ⟨answered, left, ?_, h.held⟩
  show beside (u.tables.2 ++ [⟨c, (m c u.tables.1).1⟩]) =
    beside (s.tables.2 ++ [⟨c, (m c s.tables.1).1⟩])
  rw [answered]
  unfold beside
  rw [List.filter_append, List.filter_append]
  exact congrArg (· ++ _) h.log

theorem Beside.deletePort (h : Beside m s u) (port : Int) :
    let c : Call := .command (.deletePort port)
    ((rehearsal m change).answer c u).1 = ((rehearsal m change).answer c s).1 ∧
      Beside m ((rehearsal m change).answer c s).2 ((rehearsal m change).answer c u).2 :=
  h.native rfl

theorem Beside.release (h : Beside m s u) :
    Beside m ((rehearsal m change).answer .release s).2
      ((rehearsal m change).answer .release u).2 := by
  obtain ⟨tables, held⟩ := s
  obtain ⟨tables', held'⟩ := u
  obtain rfl : held' = held := h.held
  cases held' with
  | false => exact h
  | true =>
    have closed := (h.native (c := .closeHandle) rfl).2
    exact ⟨closed.tables, closed.log, rfl⟩

end

/-! Inputs from the tables. -/

section

variable {χ : Type} (change : χ → Tables → Tables) {s : Served (Tables × NativeCall.History)}

def Unforced (s : Served (Tables × NativeCall.History)) : Prop :=
  ∀ k, s.tables.1.script.forcedAt NativeCall.eventInput.name k = none

theorem Unforced.answer (free : s.Unforced) :
    let r := (rehearsal Tables.library change).answer .eventInput s
    r.1 = received s.tables.1.kernel.takeInput.1 ∧
      r.2.tables.1.kernel = s.tables.1.kernel.takeInput.2 ∧ r.2.Unforced := by
  obtain ⟨-, worked, -⟩ := Tables.library_eq .eventInput s.tables.1
  obtain ⟨answered, kernel⟩ := worked (free 0)
  intro r
  have taken : r = _ := answer_input Tables.library change s
  rw [taken]
  refine ⟨congrArg received answered, kernel, fun k => ?_⟩
  show (Tables.library .eventInput s.tables.1).2.script.forcedAt _ k = none
  rw [Tables.forcedAt_library]
  exact free _

theorem Unforced.blocks (free : s.Unforced) (nothing : s.tables.1.kernel.input = []) (k : Nat) :
    (rehearsal Tables.library change).inputAt s k = .error Status.wouldBlock := by
  have takes (k : Kernel) (h : k.input = []) : k.takeInput = ((Status.wouldBlock, none), k) := by
    unfold Kernel.takeInput
    rw [h]
  induction k generalizing s with
  | zero =>
    refine (free.answer change).1.trans ?_
    rw [takes _ nothing]
    rfl
  | succ k ih =>
    obtain ⟨-, kernel, later⟩ := free.answer change
    rw [takes _ nothing] at kernel
    exact ih later (by rw [kernel]; exact nothing)

/-- Where nothing is forced, what waits comes first, and then nothing. -/
theorem Unforced.fair (free : s.Unforced) (ready : Prop) :
    Waiting.Fair ready ((rehearsal Tables.library change).inputAt s) := by
  generalize waiting : s.tables.1.kernel.input = input
  induction input generalizing s with
  | nil => exact fun k _ _ => .inl fun j _ => free.blocks change waiting j
  | cons record rest ih =>
    obtain ⟨answered, kernel, later⟩ := free.answer change
    have takes : s.tables.1.kernel.takeInput =
        (((rest.length : Int), record), { s.tables.1.kernel with input := rest }) := by
      unfold Kernel.takeInput
      rw [waiting]
    rw [takes] at answered kernel
    have first : (rehearsal Tables.library change).inputAt s 0 ≠ .error Status.wouldBlock := by
      intro blocks
      have positive : ¬ (rest.length : Int) < 0 := by omega
      have same := answered.symm.trans blocks
      unfold received at same
      rw [if_neg positive] at same
      cases record <;> cases same
    exact .cons (fun blocks => absurd blocks first) (ih later (by rw [kernel]))

end

end Served

end Native

end MidiSequencer
