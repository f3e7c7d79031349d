import MidiSequencer.Proofs.Simulation.Scripts
import MidiSequencer.Proofs.Simulation.Stores

/-! # Accepted output

What a sequencer in memory has sent can be read off the calls that were made of it. -/
namespace MidiSequencer

namespace Call

/-- The event of an output that answered a status other than a failure. -/
def accepted? : Program.Exchange Call Call.Answer → Option Event
  | ⟨.command q, status⟩ => if 0 ≤ status then q.record?.map Record.decode else none
  | _ => none

def accepted (h : History) : List Event :=
  h.filterMap accepted?

@[simp] theorem accepted_append (h t : History) : accepted (h ++ t) = accepted h ++ accepted t :=
  List.filterMap_append

theorem accepted?_forced {c : Call} {status : Status} (hs : status < 0) :
    accepted? ⟨c, c.forced status⟩ = none := by
  have failed : ¬ 0 ≤ status := Int.not_le.2 hs
  cases c with
  | command q => exact if_neg failed
  | _ => rfl

theorem name_of_accepted? {x : Program.Exchange Call Call.Answer} {e : Event}
    (h : accepted? x = some e) : x.question.name ∈ ["event_output", "event_output_direct"] := by
  obtain ⟨c, answer⟩ := x
  cases c with
  | command q =>
    by_cases ha : (0 : Int) ≤ answer
    · simp only [accepted?, if_pos ha] at h
      cases q with
      | eventOutput record => exact .head _
      | eventOutputDirect record => exact .tail _ (.head _)
      | _ => cases h
    · simp only [accepted?, if_neg ha] at h
      cases h
  | _ => cases h

end Call

namespace Store

variable (s : Store)

theorem output_of_record?_none {q : Command} (hq : q.record? = none) :
    (s.command q).2.output = s.output := by
  cases hr : q.registers with
  | true => exact s.output_of_registers hr
  | false => exact (s.command_leaves hr hq).output

theorem answer_output (c : Call) : (s.answer c).2.output =
    s.output ++ Call.accepted [⟨c, (s.answer c).1⟩] := by
  cases c with
  | command q =>
    cases hq : q.record? with
    | none =>
      have nothing : Call.accepted [⟨.command q, (s.answer (.command q)).1⟩] = [] := by
        simp [Call.accepted, Call.accepted?, hq]
      rw [nothing, List.append_nil]
      exact s.output_of_record?_none hq
    | some record =>
      have sends : s.command q = s.send record := by
        cases q <;> cases hq <;> rfl
      simp only [answer, sends, send_output]
      by_cases ha : (0 : Int) ≤ (s.send record).1
      · simp [Call.accepted, Call.accepted?, hq, ha]
      · simp [Call.accepted, Call.accepted?, ha]
  | eventInput => exact s.takeInput_leaves.output.trans (List.append_nil _).symm
  | _ => exact (List.append_nil _).symm

end Store

namespace Rehearsal

def Failing : String → Status → Prop :=
  fun _ status => status < 0

variable {r t : Rehearsal} {h : Call.History}

theorem change_output (r : Rehearsal) (x : Change) :
    (r.change x).store.output = r.store.output := by
  cases x with
  | setup clients ports =>
    have added := r.store.foldl_leaves (f := Store.addClient) (g := Store.output)
      (fun _ _ => rfl) clients
    exact (Store.foldl_leaves _ (f := Store.addPort) (fun _ _ => rfl) ports).trans added
  | _ => rfl

theorem answer_output (hr : r.script.Forces Failing) (c : Call) :
    (r.answer c).2.store.output = r.store.output ++ Call.accepted [⟨c, (r.answer c).1⟩] := by
  obtain ⟨answers, -⟩ := Rehearsal.answers hr c
  cases answers with
  | forced status allowed answered store =>
    have negative : status < 0 := allowed
    simp [store, answered, Call.accepted, Call.accepted?_forced negative]
  | worked answered store => rw [store, answered, Store.answer_output]

theorem passes_output (hr : r.script.Forces Failing)
    (p : simulator.Passes (Change.Forces Failing) r h t) :
    t.store.output = r.store.output ++ Call.accepted h ∧ t.script.Forces Failing := by
  refine ⟨?_, passes_forces p hr⟩
  induction p with
  | refl => exact (List.append_nil _).symm
  | @call h t c before output =>
    rw [Call.accepted_append, ← List.append_assoc, ← output]
    exact answer_output (passes_forces before hr) c
  | @change h t x allowed before output =>
    rw [← output]
    exact t.change_output x

end Rehearsal

end MidiSequencer
