import MidiSequencer.Proofs.Conduct.Actions
import MidiSequencer.Proofs.Resources.Openings

/-! # Checks of an opening

An opening is a list of checks, some of them of the answer to a call. What is asked and what comes
of it can be read off the list: everything up to the first check that fails. -/
namespace MidiSequencer

structure Check where
  asked : Call.History := []
  error : Option Error

namespace Check

def ofName (name : String) : Check where
  error := (Misuse.ofName? name).map Error.usage

def ofStatus (c : Command) (status : Status) : Check where
  asked := [⟨.command c, status⟩]
  error := if status < 0 then some (.service (Call.label (.command c)) status) else none

def ofDescriptors (answer : Except Status (List UInt16)) : Check where
  asked := [⟨.pollDescriptors, answer⟩]
  error := match answer with
    | .ok _ => none
    | .error status => some (.service "snd_seq_poll_descriptors" status)

def ofCount (reported : List UInt16) : Check where
  error := if reported.length = 1 then none else some (.pollDescriptors reported.length)

@[simp] theorem ofName_of_none {name : String} (h : Misuse.ofName? name = none) :
    (ofName name).error = none := by
  simp [ofName, h]

theorem ofStatus_of_neg {c : Command} {status : Status} (h : status < 0) :
    (ofStatus c status).error = some (.service (Call.label (.command c)) status) :=
  if_pos h

theorem ofStatus_of_not_neg {c : Command} {status : Status} (h : ¬ status < 0) :
    (ofStatus c status).error = none :=
  if_neg h

def ofInterest (streams : Streams) (reported : List UInt16) : Check where
  error := reported.head?.bind fun got =>
    if got &&& streams.interest = streams.interest then none
    else some (.pollEvents streams.interest got)

def verdict (checks : List Check) : Option Error :=
  checks.findSome? error

def made : List Check → Call.History
  | [] => []
  | check :: rest => check.asked ++ if check.error.isSome then [] else made rest

def conclude {α : Type} (checks : List Check) (a : α) : Except Error α :=
  match verdict checks with
  | none => .ok a
  | some e => .error e

/-- What is asked where the first checks are made before the sequencer is open: it is released if
one of the others fails. -/
def calls (front rest : List Check) : Call.History :=
  made (front ++ rest) ++
    if verdict front = none ∧ verdict rest ≠ none then [⟨.release, ()⟩] else []

variable {checks rest : List Check} {check : Check} {e : Error}

@[simp] theorem verdict_nil : verdict [] = none := rfl

theorem verdict_cons_of_error (h : check.error = some e) : verdict (check :: rest) = some e := by
  simp [verdict, h]

theorem verdict_cons_of_none (h : check.error = none) : verdict (check :: rest) = verdict rest := by
  simp [verdict, h]

theorem made_cons_of_error (h : check.error = some e) : made (check :: rest) = check.asked := by
  simp [made, h]

theorem made_cons_of_none (h : check.error = none) :
    made (check :: rest) = check.asked ++ made rest := by
  simp [made, h]

theorem conclude_cons_of_error {α : Type} {a : α} (h : check.error = some e) :
    conclude (check :: rest) a = .error e := by
  simp [conclude, verdict_cons_of_error h]

theorem conclude_cons_of_none {α : Type} {a : α} (h : check.error = none) :
    conclude (check :: rest) a = conclude rest a := by
  simp [conclude, verdict_cons_of_none h]

theorem made_of_silent (h : ∀ check ∈ checks, check.asked = []) : made checks = [] := by
  induction checks with
  | nil => rfl
  | cons check checks ih =>
    obtain ⟨silent, later⟩ := List.forall_mem_cons.1 h
    rw [made, silent, ih later, ite_self]
    rfl

theorem verdict_append (checks rest : List Check) :
    verdict (checks ++ rest) = (verdict checks).or (verdict rest) :=
  List.findSome?_append

theorem verdict_eq_none_iff : verdict checks = none ↔ ∀ check ∈ checks, check.error = none :=
  List.findSome?_eq_none_iff

theorem made_append_of_passes (h : verdict checks = none) :
    made (checks ++ rest) = made checks ++ made rest := by
  induction checks with
  | nil => rfl
  | cons check checks ih =>
    obtain ⟨passed, later⟩ := List.forall_mem_cons.1 (verdict_eq_none_iff.1 h)
    rw [List.cons_append, made_cons_of_none passed, made_cons_of_none passed,
      ih (verdict_eq_none_iff.2 later), List.append_assoc]

theorem made_append_of_fails (h : verdict checks ≠ none) : made (checks ++ rest) = made checks := by
  induction checks with
  | nil => exact absurd rfl h
  | cons check checks ih =>
    cases hc : check.error with
    | none =>
      rw [verdict_cons_of_none hc] at h
      rw [List.cons_append, made_cons_of_none hc, made_cons_of_none hc, ih h]
    | some e => rw [List.cons_append, made_cons_of_error hc, made_cons_of_error hc]

theorem conclude_append_of_passes {α : Type} {a : α} (h : verdict checks = none) :
    conclude (checks ++ rest) a = conclude rest a := by
  simp [conclude, verdict_append, h]

theorem conclude_append_of_fails {α : Type} {a : α} (h : verdict checks = some e) :
    conclude (checks ++ rest) a = .error e := by
  simp [conclude, verdict_append, h]

theorem calls_nil_of_passes (h : verdict rest = none) : calls [] rest = made rest := by
  simp [calls, h]

theorem calls_nil_of_fails (h : verdict rest ≠ none) :
    calls [] rest = made rest ++ [⟨.release, ()⟩] := by
  simp [calls, h]

theorem calls_of_fails {front : List Check} (h : verdict front ≠ none) :
    calls front rest = made front := by
  rw [calls, made_append_of_fails h, if_neg fun hn => h hn.1, List.append_nil]

theorem calls_of_passes {front : List Check} (h : verdict front = none) :
    calls front rest = made front ++ calls [] rest := by
  simp [calls, made_append_of_passes h, h]

theorem made_isPrefix (checks : List Check) : made checks <+: checks.flatMap asked := by
  induction checks with
  | nil => exact List.prefix_rfl
  | cons check checks ih =>
    rw [made, List.flatMap_cons, List.prefix_append_right_inj]
    split
    · exact List.nil_prefix
    · exact ih

theorem made_of_passes (h : verdict checks = none) : made checks = checks.flatMap asked := by
  induction checks with
  | nil => rfl
  | cons check checks ih =>
    obtain ⟨passed, later⟩ := List.forall_mem_cons.1 (verdict_eq_none_iff.1 h)
    rw [made_cons_of_none passed, ih (verdict_eq_none_iff.2 later), List.flatMap_cons]

theorem verdict_eq_some_iff : verdict checks = some e ↔
    ∃ before check after, checks = before ++ check :: after ∧ check.error = some e ∧
      ∀ c ∈ before, c.error = none :=
  List.findSome?_eq_some_iff

end Check

/-- What a sequencer answers to an opening. What it is not asked does not matter. -/
structure OpeningAnswers where
  opened : Status := 0
  named : Status := 0
  clientId : Status := 0
  descriptors : Except Status (List UInt16) := .ok []

namespace OpeningAnswers

/-- What the descriptors report, of which there are none if they could not be had. -/
def reported (a : OpeningAnswers) : List UInt16 :=
  a.descriptors.toOption.getD []

def taking (a : OpeningAnswers) (clientName : String) (streams : Streams) : List Check :=
  [.ofName clientName, .ofStatus (.setClientName clientName) a.named,
    .ofStatus .clientId a.clientId, .ofDescriptors a.descriptors, .ofCount a.reported,
    .ofInterest streams a.reported]

def front (a : OpeningAnswers) (config : Config) : List Check :=
  [.ofName config.sequencer,
    .ofStatus (.openSequencer config.sequencer config.streams config.mode) a.opened]

def checks (a : OpeningAnswers) (config : Config) : List Check :=
  a.front config ++ a.taking config.clientName config.streams

section

variable {config : Config} (hn : Misuse.ofName? config.sequencer = none) (a : OpeningAnswers)
include hn

theorem made_front : Check.made (a.front config) =
    [⟨.command (.openSequencer config.sequencer config.streams config.mode), a.opened⟩] := by
  rw [front, Check.made_cons_of_none (Check.ofName_of_none hn), Check.made, Check.made, ite_self]
  rfl

theorem verdict_front : Check.verdict (a.front config) =
    if a.opened < 0 then some (.service "snd_seq_open" a.opened) else none := by
  rw [front, Check.verdict_cons_of_none (Check.ofName_of_none hn)]
  by_cases negative : a.opened < 0
  · rw [Check.verdict_cons_of_error (Check.ofStatus_of_neg negative), if_pos negative]
    rfl
  · rw [Check.verdict_cons_of_none (Check.ofStatus_of_not_neg negative), if_neg negative,
      Check.verdict_nil]

end

def connection (a : OpeningAnswers) : Connection :=
  { clientId := a.clientId }

end OpeningAnswers

def Call.requests (calls : Call.History) : Dialogue.History :=
  calls.map fun x => ⟨.call x.question, x.answer⟩

@[simp] theorem Dialogue.calls_requests (calls : Call.History) :
    Dialogue.calls (Call.requests calls) = calls := by
  induction calls with
  | nil => rfl
  | cons x calls ih => exact congrArg (x :: ·) ih

@[simp] theorem Call.requests_append (calls more : Call.History) :
    Call.requests (calls ++ more) = Call.requests calls ++ Call.requests more :=
  List.map_append

end MidiSequencer
