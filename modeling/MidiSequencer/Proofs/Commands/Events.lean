import MidiSequencer.Proofs.Commands.Ports
import MidiSequencer.Proofs.Waiting.Agreement
import MidiSequencer.Proofs.Waiting.Tries

/-! # Events that are printed

A command that prints events connects its sources one after the other, up to the first that fails,
and then takes events until none comes in time or an input fails. It prints what it took. -/
namespace MidiSequencer.Cli

open Native (Act)
open Native.Act (ofCalls ofCalls_append Shows)
open Program (Traces)

def events (acts : List Act) : List Event :=
  acts.filterMap fun
    | .receives (.ok e) => some e
    | _ => none

namespace DumpOptions

/-- The sources are connected in their order, up to the first that fails. Natively the one that
fails need not have been asked for. -/
inductive Connects (dest : Address) : List Address → List Act → Option Failure → Prop where
  | all : Connects dest [] [] none
  | next {sender rest acts failure} {status : Status} : 0 ≤ status →
      Connects dest rest acts failure →
      Connects dest (sender :: rest) (.connects { sender, dest } status :: acts) failure
  | failed {sender rest acts} (error : Error) :
      acts = [] ∨ (∃ status : Status, status < 0 ∧ acts = [.connects { sender, dest } status]) →
      Connects dest (sender :: rest) acts (some (.listening sender error))

theorem Connects.shows {dest : Address} {sources : List Address} {acts shown : List Act}
    {failure : Option Failure} (h : Connects dest sources acts failure) (hs : Shows acts shown) :
    Connects dest sources shown failure := by
  induction h generalizing shown with
  | all =>
    cases hs
    exact .all
  | next positive _ ih =>
    obtain ⟨rest, rfl, shows⟩ := hs.required (Int.not_lt.2 positive)
    exact .next positive (ih shows)
  | failed error attempt =>
    refine .failed error ?_
    rcases attempt with rfl | ⟨status, negative, rfl⟩
    · exact .inl (List.sublist_nil.1 hs.sublist)
    · exact (List.sublist_singleton.1 hs.sublist).imp_right fun shown => ⟨status, negative, shown⟩

/-- What a client hears, behind the lines that it printed before: inputs that would block are made
again, an event is printed, and any other answer is the end. -/
inductive Listens : List String → List Act → Option Report → Prop where
  | cut (lines : List String) : Listens lines [] none
  | ceased (lines : List String) : Listens lines [] (some { lines })
  | broken (lines : List String) (number : Int) :
      Listens lines [] (some { lines, failure := some (.failed (.poll number)) })
  | waits {lines acts report} : Listens lines acts report →
      Listens lines (.receives (.error Status.wouldBlock) :: acts) report
  | hears {lines acts report} (e : Event) : Listens (lines ++ [e.line]) acts report →
      Listens lines (.receives (.ok e) :: acts) report
  | fails (lines : List String) {status : Status} : status ≠ Status.wouldBlock →
      Listens lines [.receives (.error status)]
        (some { lines, failure := some (.failed (.service Call.eventInput.label status)) })

namespace Listens

variable {lines : List String} {acts more : List Act} {report : Option Report}

theorem inputs (h : Listens lines acts report) : ∀ a ∈ acts, ∃ answer, a = .receives answer := by
  induction h with
  | cut | ceased | broken => exact List.forall_mem_nil _
  | waits _ ih => exact List.forall_mem_cons.2 ⟨⟨_, rfl⟩, ih⟩
  | hears e _ ih => exact List.forall_mem_cons.2 ⟨⟨_, rfl⟩, ih⟩
  | fails => exact List.forall_mem_singleton.2 ⟨_, rfl⟩

theorem prints (h : Listens lines acts report) {r : Report} (hr : report = some r) :
    r.lines = lines ++ (events acts).map Event.line := by
  induction h with
  | cut => cases hr
  | ceased | broken | fails =>
    cases hr
    exact (List.append_nil _).symm
  | waits _ ih => exact ih hr
  | hears e _ ih => rw [ih hr, List.append_assoc]; rfl

end Listens

variable {c : Connection} {h : Dialogue.History}

theorem connects_connectAll (hc : c.isOpen = true) (p : Port) {sources : List Address}
    {o : Option (Option Failure)} (ht : Traces (connectAll p c sources) h o) :
    ∃ failure, o = some failure ∧
      Connects p.address sources (ofCalls (Dialogue.calls h)) failure := by
  induction sources generalizing h with
  | nil =>
    obtain ⟨rfl, rfl⟩ := Program.traces_done_iff.1 ht
    exact ⟨none, rfl, .all⟩
  | cons sender rest ih =>
    cases closed : p.isClosed with
    | true =>
      have refused : (p.connectFrom c sender).run = .done (.error .closed) := by
        unfold Port.connectFrom Port.checkOpen
        rw [if_pos closed]
        rfl
      unfold connectAll at ht
      rw [refused] at ht
      obtain ⟨rfl, rfl⟩ := Program.traces_done_iff.1 ht
      exact ⟨_, rfl, .failed .closed (.inl rfl)⟩
    | false =>
      have asks : (p.connectFrom c sender).run =
          (c.execute (.subscribe ⟨sender, p.address, {}⟩)).run := by
        unfold Port.connectFrom Port.checkOpen
        rw [if_neg (by simp [closed])]
        rfl
      unfold connectAll at ht
      rw [asks] at ht
      have ordered := Action.orders_execute c (.subscribe ⟨sender, p.address, {}⟩)
      obtain ⟨h₁, r, h₂, rfl, ht₁, ht₂⟩ := Program.traces_bind_of_ends ordered.ends ht
      obtain ⟨status, rfl, hr⟩ := Connection.traces_execute hc ht₁
      by_cases negative : status < 0
      · rw [if_pos negative] at hr
        cases hr
        obtain ⟨rfl, rfl⟩ := Program.traces_done_iff.1 ht₂
        exact ⟨_, rfl, .failed _ (.inr ⟨status, negative, rfl⟩)⟩
      · rw [if_neg negative] at hr
        cases hr
        obtain ⟨failure, rfl, connects⟩ := ih ht₂
        exact ⟨failure, rfl, .next (Int.not_lt.1 negative) connects⟩

def Listens.Follows (lines : List String) (acts : List Act) (report : Option Report) :
    Option (Except Error (Option Event)) → Prop
  | none => acts = [] ∧ report = none
  | some (.ok none) => acts = [] ∧ report = some { lines }
  | some (.ok (some e)) => Listens (lines ++ [e.line]) acts report
  | some (.error e) => acts = [] ∧ report = some { lines, failure := some (.failed e) }

theorem Listens.of_tried {calls : Call.History} {result : Option (Except Error (Option Event))}
    (ht : Waiting.Tried .eventInput (checkAnswer .eventInput) calls result) {lines : List String}
    {more : List Act} {report : Option Report} (rest : Follows lines more report result) :
    Listens lines (ofCalls calls ++ more) report := by
  induction ht with
  | @ceased result gives =>
    rcases result with _ | error | (_ | e)
    · obtain ⟨rfl, rfl⟩ := rest
      exact .cut lines
    · obtain ⟨number, rfl⟩ := gives _ rfl
      obtain ⟨rfl, rfl⟩ := rest
      exact .broken lines number
    · obtain ⟨rfl, rfl⟩ := rest
      exact .ceased lines
    · exact (gives _ rfl).elim
  | @decided answer final =>
    cases answer with
    | ok e => exact .hears e rest
    | error status =>
      obtain ⟨rfl, rfl⟩ := rest
      refine .fails lines fun blocks => ?_
      subst blocks
      cases final
  | @blocked answer calls result blocks _ ih =>
    obtain ⟨call, failed⟩ := Waiting.blocked_iff.1 blocks
    cases answer with
    | ok e => cases failed
    | error status =>
      cases failed
      exact .waits (ih rest)

/-- By induction on the events that are taken. -/
theorem listens_listen (hc : c.isOpen = true) {mode : Mode} {timeout : Option Duration}
    {attempts steps : Nat} {lines : List String} {report : Option Report}
    (ht : Traces (listen c mode timeout attempts steps lines) h report) :
    Listens lines.reverse (ofCalls (Dialogue.calls h)) report := by
  induction steps generalizing lines h with
  | zero =>
    obtain ⟨rfl, rfl⟩ := Program.traces_unfinished_iff.1 ht
    exact .cut _
  | succ steps ih =>
    have tries := Connection.attempts_tryInput hc
    rcases Program.traces_bind_iff.1 ht with ⟨h₁, result, h₂, rfl, ht₁, ht₂⟩ | ⟨rfl, cut⟩
    · rw [Dialogue.calls_append, ofCalls_append]
      refine Listens.of_tried (Waiting.tried_wait tries _ _ _ _ ht₁) ?_
      rcases result with error | (_ | e)
      · obtain ⟨rfl, rfl⟩ := Program.traces_done_iff.1 ht₂
        exact ⟨rfl, rfl⟩
      · obtain ⟨rfl, rfl⟩ := Program.traces_done_iff.1 ht₂
        exact ⟨rfl, rfl⟩
      · have later := ih ht₂
        rw [List.reverse_cons] at later
        exact later
    · have listens : Listens lines.reverse (ofCalls (Dialogue.calls h) ++ []) none :=
        Listens.of_tried (Waiting.tried_wait tries _ _ _ _ cut) ⟨rfl, rfl⟩
      rw [List.append_nil] at listens
      exact listens

/-- What the work of the command does and reports, with this port. -/
inductive Hears (sources : List Address) (p : Port) : List Act → Option Report → Prop where
  | refused {acts} (failure : Failure) : Connects p.address sources acts (some failure) →
      Hears sources p acts (some (.failed failure))
  | listens {connected acts report} : Connects p.address sources connected none →
      Listens [] acts report → Hears sources p (connected ++ acts) report

variable {sources : List Address}

theorem hears_work {p : Port} {mode : Mode} {timeout : Option Duration} {steps : Nat}
    (hc : c.isOpen = true) {report : Option Report}
    (ht : Traces (do
      match ← connectAll p c sources with
      | some f => return .failed f
      | none => listen c mode timeout steps steps []) h report) :
    Hears sources p (ofCalls (Dialogue.calls h)) report := by
  have ends (h : Dialogue.History) : ¬ Traces (connectAll p c sources) h none := by
    intro cut
    obtain ⟨failure, same, -⟩ := connects_connectAll hc p cut
    cases same
  obtain ⟨h₁, result, h₂, rfl, ht₁, ht₂⟩ := Program.traces_bind_of_ends ends ht
  obtain ⟨failure, same, connects⟩ := connects_connectAll hc p ht₁
  cases same
  rw [Dialogue.calls_append, ofCalls_append]
  cases result with
  | some f =>
    obtain ⟨rfl, rfl⟩ := Program.traces_done_iff.1 ht₂
    have nothing : ofCalls (Dialogue.calls []) = [] := rfl
    rw [nothing, List.append_nil]
    exact .refused f connects
  | none => exact .listens connects (listens_listen hc ht₂)

theorem Hears.shows {p : Port} {acts shown : List Act} {report : Option Report}
    (h : Hears sources p acts report) (hs : Shows acts shown) : Hears sources p shown report := by
  cases h with
  | refused failure connects => exact .refused failure (connects.shows hs)
  | listens connects listens =>
    obtain ⟨first, second, rfl, begins, ends⟩ := hs.of_append
    have same := ends.eq_of_required fun a ha => by
      obtain ⟨answer, rfl⟩ := listens.inputs a ha
      exact id
    exact .listens (connects.shows begins) (same ▸ listens)

variable {acts : List Act} {r : Report}

theorem Connects.events_eq_nil {dest : Address} {failure : Option Failure}
    (h : Connects dest sources acts failure) : events acts = [] := by
  induction h with
  | all => rfl
  | next _ _ ih => exact ih
  | failed error attempt =>
    rcases attempt with rfl | ⟨status, -, rfl⟩ <;> rfl

theorem Hears.prints {p : Port} (h : Hears sources p acts (some r)) :
    r.lines = (events acts).map Event.line := by
  generalize same : some r = report at h
  cases h with
  | refused failure connects =>
    cases same
    rw [connects.events_eq_nil]
    rfl
  | @listens connected heard report connects listens =>
    have silent : events (connected ++ heard) = events heard := by
      unfold events
      rw [List.filterMap_append]
      exact congrArg (· ++ _) connects.events_eq_nil
    rw [silent]
    exact listens.prints same.symm

theorem prints_onPort (h : OnPort (Hears sources) acts (some r)) :
    r.lines = (events acts).map Event.line := by
  generalize same : some r = report at h
  cases h with
  | unmade failure closed =>
    cases same
    have silent : events acts = [] := List.filterMap_eq_nil_iff.2 fun a ha => by
      rw [closed a ha]
    rw [silent]
    rfl
  | @made p acts _ closing hears closed =>
    cases same
    have around : events (.creates p.id :: acts ++ .deletes p.id :: closing) = events acts := by
      have ended : events (.deletes p.id :: closing) = [] := by
        rcases closed with rfl | rfl <;> rfl
      unfold events at ended ⊢
      rw [List.filterMap_append, ended, List.append_nil]
      rfl
    rw [around]
    exact hears.prints
  | cut begun => cases same

end DumpOptions

end MidiSequencer.Cli
