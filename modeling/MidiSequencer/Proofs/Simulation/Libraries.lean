import MidiSequencer.Proofs.Resources.Handles
import MidiSequencer.Proofs.Simulation.Scripts

/-! # What serving keeps

Each call of a connection is carried out by native calls one after the other, so that it keeps what
every native call keeps. Under a script a native call answers what is forced, or it works. -/
namespace MidiSequencer.Native

namespace Library

variable {σ α β : Type} {m : Library σ} {I : σ → Prop} {P : α → Prop} {R : β → Prop}

/-- Answers what has the property `P`, and keeps what holds of the state of the library. -/
def Ensures (I : σ → Prop) (x : StateM σ α) (P : α → Prop) : Prop :=
  ∀ s, I s → P (x s).1 ∧ I (x s).2

theorem ensures_pure {a : α} (ha : P a) : Ensures I (pure a) P :=
  fun _ hs => ⟨ha, hs⟩

theorem Ensures.bind {x : StateM σ α} {f : α → StateM σ β} (hx : Ensures I x P)
    (hf : ∀ a, P a → Ensures I (f a) R) : Ensures I (x >>= f) R := by
  intro s hs
  obtain ⟨answered, kept⟩ := hx s hs
  exact hf _ answered _ kept

theorem Ensures.withDescriptor {kind : DescriptorKind} {failed : Status → α} {body : StateM σ α}
    (allocated : Ensures I (m.call (.allocate kind)) fun status : Int =>
      status < 0 → P (failed status))
    (hb : Ensures I body P) (freed : Ensures I (m.call (.free kind)) fun _ => True) :
    Ensures I (m.withDescriptor kind failed body) P := by
  refine allocated.bind fun status h => ?_
  split
  · next negative => exact ensures_pure (h negative)
  · exact hb.bind fun a ha => freed.bind fun _ _ => ensures_pure ha

def Keeps (I : σ → Prop) (x : StateM σ α) : Prop :=
  Ensures I x fun _ => True

theorem keeps_pure (a : α) : Keeps I (pure a : StateM σ α) :=
  ensures_pure trivial

theorem keeps_bind {x : StateM σ α} {f : α → StateM σ β} (hx : Keeps I x)
    (hf : ∀ a, Keeps I (f a)) : Keeps I (x >>= f) :=
  hx.bind fun a _ => hf a

variable (hm : ∀ c, Keeps I (m.call c))
include hm

theorem keeps_withDescriptor {kind : DescriptorKind} {failed : Status → α} {body : StateM σ α}
    (hb : Keeps I body) : Keeps I (m.withDescriptor kind failed body) := by
  refine Ensures.withDescriptor (fun s hs => ?_) hb (hm _)
  exact ⟨fun _ => trivial, (hm _ s hs).2⟩

theorem keeps_command (c : Command) : Keeps I (m.command c) := by
  cases c with
  | openSequencer name streams mode => exact keeps_bind (hm _) fun _ => keeps_pure _
  | allocQueue name => cases name <;> exact hm _
  | setQueueTempo queue tempo resolution => exact keeps_withDescriptor hm (hm _)
  | setPortInfo port info =>
    apply keeps_withDescriptor hm
    split
    · exact keeps_pure _
    · exact hm _
  | subscribe s => exact keeps_withDescriptor hm (hm _)
  | unsubscribe s => exact keeps_withDescriptor hm (hm _)
  | _ => exact hm _

theorem keeps_serve (c : Call) : Keeps I (m.serve c) := by
  cases c with
  | command c => exact keeps_command hm c
  | pollDescriptors =>
    apply keeps_bind (hm _)
    intro count
    split
    · exact keeps_pure _
    · apply keeps_bind (hm _)
      rintro ⟨found, reported⟩
      simp only
      split <;> exact keeps_pure _
  | eventInput =>
    apply keeps_bind (hm _)
    rintro ⟨status, record⟩
    simp only
    split
    · exact keeps_pure _
    · cases record <;> exact keeps_pure _
  | release => exact keeps_bind (hm _) fun _ => keeps_pure _
  | _ => exact keeps_withDescriptor hm (keeps_bind (hm _) fun _ => keeps_pure _)

theorem keeps_answer (c : Call) {s : Served σ} (hs : I s.tables) :
    I (s.answer m c).2.tables := by
  cases hc : c.isHandling with
  | false =>
    rw [answer_of_isHandling m s hc]
    exact (keeps_serve hm c _ hs).2
  | true =>
    obtain ⟨tables, held⟩ := s
    cases c with
    | command c =>
      cases c with
      | openSequencer name streams mode => exact (hm (.openHandle name streams.code mode) _ hs).2
      | _ => cases hc
    | release =>
      cases held with
      | false => exact hs
      | true => exact (keeps_serve hm .release _ hs).2
    | _ => cases hc

end Library

namespace Tables

variable {P : String → Status → Prop} {t : Tables}

inductive Answers (P : String → Status → Prop) (t : Tables) (c : NativeCall) (answer : c.Answer)
    (after : Tables) : Prop where
  | forced (status : Status) (allowed : P c.name status) (answered : answer = c.forced status)
      (kernel : after.kernel = t.kernel)
  | worked (answered : answer = (t.kernel.answer c).1)
      (kernel : after.kernel = (t.kernel.answer c).2)

theorem answers (ht : t.script.Forces P) (c : NativeCall) :
    Answers P t c (library c t).1 (library c t).2 ∧ (library c t).2.script.Forces P := by
  obtain ⟨allowed, rest⟩ := ht.take c.name
  unfold library
  rcases hs : t.script.take c.name with ⟨_ | status, script⟩
  · rw [hs] at rest
    exact ⟨.worked rfl rfl, rest⟩
  · rw [hs] at allowed rest
    exact ⟨.forced status (allowed status rfl) rfl rfl, rest⟩

end Tables

namespace Rehearsal

variable {P : String → Status → Prop}

def Change.Forces (P : String → Status → Prop) : Change → Prop
  | .force rows => Script.Forces P ⟨rows⟩
  | _ => True

theorem passes_forces {r t : Rehearsal} {h : Call.History}
    (p : simulator.Passes (Change.Forces P) r h t) (hr : r.tables.script.Forces P) :
    t.tables.script.Forces P := by
  have call (c : NativeCall) : Library.Keeps (fun t : Tables => t.script.Forces P)
      (Library.call Tables.library c) :=
    fun t ht => ⟨trivial, (Tables.answers ht c).2⟩
  refine p.keeps (I := fun r => r.tables.script.Forces P) ?_ ?_ hr
  · intro c r hr
    exact Library.keeps_answer call c hr
  · intro x r allowed hr
    cases x with
    | force rows => exact hr.appendAll allowed
    | _ => exact hr

end Rehearsal

end MidiSequencer.Native
