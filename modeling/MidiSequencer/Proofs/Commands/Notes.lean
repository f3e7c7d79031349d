import MidiSequencer.Proofs.Commands.Ports
import MidiSequencer.Proofs.Waiting.Tries

/-! # Notes that are sent

A command that sends a note hands over its two ends, each again and again until it is accepted, and
the second only once the first was. -/
namespace MidiSequencer.Native

def Act.accepted? : Act → Option Record
  | .sends record status => if 0 ≤ status then some record else none
  | _ => none

def Act.accepted (acts : List Act) : List Record := acts.filterMap accepted?

/-- Hands over one record after the other, each until it is accepted, so that some are left. -/
inductive Offers : List Record → List Act → List Record → Prop where
  | rest (left : List Record) : Offers left [] left
  | refused {record records acts left} {status : Status} : status < 0 →
      Offers (record :: records) acts left →
      Offers (record :: records) (.sends record status :: acts) left
  | accepted {record records acts left} {status : Status} : 0 ≤ status →
      Offers records acts left → Offers (record :: records) (.sends record status :: acts) left

namespace Offers

open Act (accepted accepted?)

variable {records between left : List Record} {acts more : List Act}

theorem append (first : Offers records acts between) (second : Offers between more left) :
    Offers records (acts ++ more) left := by
  induction first with
  | rest => exact second
  | refused negative _ ih => exact .refused negative (ih second)
  | accepted positive _ ih => exact .accepted positive (ih second)

theorem sends (h : Offers records acts left) :
    ∀ a ∈ acts, ∃ record status, a = .sends record status := by
  induction h with
  | rest => exact List.forall_mem_nil _
  | refused _ _ ih => exact List.forall_mem_cons.2 ⟨⟨_, _, rfl⟩, ih⟩
  | accepted _ _ ih => exact List.forall_mem_cons.2 ⟨⟨_, _, rfl⟩, ih⟩

theorem split (h : Offers records acts left) : Act.accepted acts ++ left = records := by
  induction h with
  | rest left => rfl
  | @refused record records acts left status negative _ ih =>
    have nothing : accepted? (.sends record status) = none := if_neg (Int.not_le.2 negative)
    rw [Act.accepted, List.filterMap_cons_none nothing]
    exact ih
  | @accepted record records acts left status positive _ ih =>
    have taken : accepted? (.sends record status) = some record := if_pos positive
    rw [Act.accepted, List.filterMap_cons_some taken]
    exact congrArg (record :: ·) ih

theorem next (h : Offers records acts left) {before after : List Act} {record : Record}
    {status : Status} (at_ : acts = before ++ .sends record status :: after) :
    Act.accepted before ++ [record] <+: records := by
  induction h generalizing before with
  | rest left => simp at at_
  | @refused first records acts left other negative _ ih =>
    cases before with
    | nil =>
      cases at_
      exact ⟨records, rfl⟩
    | cons a before =>
      cases at_
      have nothing : accepted? (.sends first other) = none := if_neg (Int.not_le.2 negative)
      rw [Act.accepted, List.filterMap_cons_none nothing]
      exact ih rfl
  | @accepted first records acts left other positive _ ih =>
    cases before with
    | nil =>
      cases at_
      exact ⟨records, rfl⟩
    | cons a before =>
      cases at_
      have taken : accepted? (.sends first other) = some first := if_pos positive
      rw [Act.accepted, List.filterMap_cons_some taken]
      exact (List.prefix_cons_inj first).2 (ih rfl)

end Offers

end MidiSequencer.Native

namespace MidiSequencer.Cli

open Native (Act Offers)
open Native.Act (ofCalls ofCalls_append ofLog Shows)
open Program (Traces)

namespace SendOptions

variable {c : Connection} {h : Dialogue.History}

theorem offers_of_tried {record : Record} {calls : Call.History}
    {result : Option (Except Error (Option Status))}
    (ht : Waiting.Tried (.command (.eventOutputDirect record))
      (checkStatus (.command (.eventOutputDirect record))) calls result) (records : List Record) :
    ((∃ status, result = some (.ok (some status))) ∧
        Offers (record :: records) (ofCalls calls) records) ∨
      ((∀ status, result ≠ some (.ok (some status))) ∧
        Offers (record :: records) (ofCalls calls) (record :: records)) := by
  have refused {status : Status} {calls : Call.History} {left : List Record}
      (negative : status < 0) (later : Offers (record :: records) (ofCalls calls) left) :
      Offers (record :: records)
        (ofCalls (⟨.command (.eventOutputDirect record), status⟩ :: calls)) left :=
    .refused negative later
  induction ht with
  | ceased gives =>
    refine .inr ⟨fun status same => ?_, .rest _⟩
    exact gives _ same
  | @decided status final =>
    by_cases negative : status < 0
    · have failed : checkStatus (.command (.eventOutputDirect record)) status = .error _ :=
        if_pos negative
      rw [failed]
      exact .inr ⟨nofun, refused negative (.rest _)⟩
    · have worked : checkStatus (.command (.eventOutputDirect record)) status = .ok status :=
        if_neg negative
      rw [worked]
      exact .inl ⟨⟨status, rfl⟩, .accepted (Int.not_lt.1 negative) (.rest _)⟩
  | @blocked status calls result blocks _ ih =>
    have negative : status < 0 := by
      by_contra positive
      have worked : checkStatus (.command (.eventOutputDirect record)) status = .ok status :=
        if_neg positive
      rw [worked] at blocks
      cases blocks
    exact ih.imp (And.imp_right (refused negative)) (And.imp_right (refused negative))

theorem offers_sendDirect (hc : c.isOpen = true) {e : Event} {route : Route} {late : Failure}
    {attempts : Nat} {o : Option (Option Failure)}
    (ht : Traces (sendDirect c e route late attempts) h o) (records : List Record) :
    (o = some none ∧ Offers (e.encode route :: records) (ofCalls (Dialogue.calls h)) records) ∨
      (o ≠ some none ∧ Offers (e.encode route :: records) (ofCalls (Dialogue.calls h))
        (e.encode route :: records)) := by
  have tries := Connection.attempts_command hc (.eventOutputDirect (e.encode route))
  rcases Program.traces_bind_iff.1 ht with ⟨h₁, result, h₂, rfl, ht₁, ht₂⟩ | ⟨rfl, cut⟩
  · have offers := offers_of_tried (Waiting.tried_wait tries _ _ _ _ ht₁) records
    rcases offers with ⟨⟨status, sent⟩, offers⟩ | ⟨unsent, offers⟩
    · cases sent
      obtain ⟨rfl, rfl⟩ := Program.traces_done_iff.1 ht₂
      rw [List.append_nil]
      exact .inl ⟨rfl, offers⟩
    · rcases result with error | (_ | status)
      · obtain ⟨rfl, rfl⟩ := Program.traces_done_iff.1 ht₂
        rw [List.append_nil]
        exact .inr ⟨by simp, offers⟩
      · obtain ⟨rfl, rfl⟩ := Program.traces_done_iff.1 ht₂
        rw [List.append_nil]
        exact .inr ⟨by simp, offers⟩
      · exact absurd rfl (unsent status)
  · have offers := offers_of_tried (Waiting.tried_wait tries _ _ _ _ cut) records
    rcases offers with ⟨⟨status, sent⟩, -⟩ | ⟨-, offers⟩
    · cases sent
    · exact .inr ⟨nofun, offers⟩

/-- The record for an end of the note: it is for the destination alone and not for a queue. -/
def endOf (o : SendOptions) (port : Int) (kind : NoteKind) (velocity : UInt8) : Record where
  type := (Kind.note kind).code
  flags := Record.fixedLength
  tag := 0
  queue := 253
  time := {}
  source := ⟨0, Address.lowByte port⟩
  dest := o.dest
  data := { first := ⟨o.channel, o.note, velocity, 0⟩ }
  ext := none

def ends (o : SendOptions) (port : Int) : List Record :=
  [o.endOf port .noteOn o.velocity, o.endOf port .noteOff 0]

/-- What the work of the command does and reports, with a port of this number. -/
structure Plays (o : SendOptions) (port : Int) (acts : List Act) (report : Option Report) :
    Prop where
  sends : ∀ a ∈ acts, ∃ record status, a = .sends record status
  next {before after : List Act} {record : Record} {status : Status} :
    acts = before ++ .sends record status :: after → Act.accepted before ++ [record] <+: o.ends port
  accepted : Act.accepted acts <+: o.ends port
  succeeds : (∃ r, report = some r ∧ r.failure = none) ↔ Act.accepted acts = o.ends port

theorem plays_of_offers {o : SendOptions} {port : Int} {acts : List Act} {report : Option Report}
    {left : List Record} (offers : Offers (o.ends port) acts left)
    (succeeds : (∃ r, report = some r ∧ r.failure = none) ↔ left = []) :
    o.Plays port acts report where
  sends := offers.sends
  next := offers.next
  accepted := ⟨left, offers.split⟩
  succeeds := by
    rw [succeeds]
    have split := offers.split
    constructor
    · rintro rfl
      rwa [List.append_nil] at split
    · intro all
      rw [all] at split
      exact List.append_right_eq_self.1 split

theorem encode_end (o : SendOptions) (port : Int) (kind : NoteKind) (velocity : UInt8) :
    ({ data := .note kind { channel := o.channel, note := o.note, velocity } } : Event).encode
      ((Route.withPort {} port).withDest o.dest) = o.endOf port kind velocity := by
  have flags : (Record.fixedLength ||| 0 ||| 0 ||| 0 : UInt8) = Record.fixedLength := by decide
  have duration : Word.ofUInt32 0 = .zero := by decide
  unfold endOf
  rw [← flags]
  unfold Event.encode
  simp only [EventData.encode, NoteData.encode, duration]
  rfl

/-- The second end is not even tried unless the first was accepted. -/
theorem plays_work {o : SendOptions} {port : Int} {attempts : Nat} (hc : c.isOpen = true)
    {report : Option Report}
    (ht : Traces (do
      let route := (Route.withPort {} port).withDest o.dest
      let on := Event.noteOn o.channel o.note o.velocity
      match ← sendDirect c on route .noteOnTimedOut attempts with
      | some f => return Report.failed f
      | none =>
        Dialogue.ask (.pause o.duration)
        let off := Event.noteOff o.channel o.note 0
        return { failure := ← sendDirect c off route .noteOffTimedOut attempts }) h report) :
    o.Plays port (ofCalls (Dialogue.calls h)) report := by
  have begun {h₁ : Dialogue.History} {result : Option (Option Failure)}
      (ht : Traces (sendDirect c (Event.noteOn o.channel o.note o.velocity)
        ((Route.withPort {} port).withDest o.dest) .noteOnTimedOut attempts) h₁ result) :=
    offers_sendDirect hc ht [o.endOf port .noteOff 0]
  have ended {h₁ : Dialogue.History} {result : Option (Option Failure)}
      (ht : Traces (sendDirect c (Event.noteOff o.channel o.note 0)
        ((Route.withPort {} port).withDest o.dest) .noteOffTimedOut attempts) h₁ result) :=
    offers_sendDirect hc ht []
  unfold Event.noteOn at begun
  unfold Event.noteOff at ended
  rw [encode_end] at begun ended
  rcases Program.traces_bind_iff.1 ht with ⟨h₁, result, h₂, rfl, ht₁, ht₂⟩ | ⟨rfl, cut⟩
  · rcases begun ht₁ with ⟨sent, offers⟩ | ⟨unsent, offers⟩
    · cases sent
      obtain ⟨_, h₃, rfl, ht₃⟩ := Program.traces_ask_iff.1 ht₂
      change Traces (sendDirect _ _ _ _ _ >>= fun failure => .done { failure }) h₃ report at ht₃
      have paused : Dialogue.calls (⟨.pause o.duration, ‹_›⟩ :: h₃) = Dialogue.calls h₃ := rfl
      rw [Dialogue.calls_append, ofCalls_append, paused]
      rcases Program.traces_bind_iff.1 ht₃ with ⟨h₄, failure, h₅, rfl, ht₄, ht₅⟩ | ⟨rfl, cut⟩
      · obtain ⟨rfl, rfl⟩ := Program.traces_done_iff.1 ht₅
        rw [List.append_nil]
        rcases ended ht₄ with ⟨sent, others⟩ | ⟨unsent, others⟩
        · cases sent
          exact plays_of_offers (offers.append others) (by simp)
        · refine plays_of_offers (offers.append others) ?_
          have failed : failure ≠ none := fun none_ => unsent (congrArg some none_)
          simpa using failed
      · rcases ended cut with ⟨sent, -⟩ | ⟨-, others⟩
        · cases sent
        · exact plays_of_offers (offers.append others) (by simp)
    · cases result with
      | none => exact absurd rfl unsent
      | some f =>
        obtain ⟨rfl, rfl⟩ := Program.traces_done_iff.1 ht₂
        rw [List.append_nil]
        exact plays_of_offers offers (by simp [Report.failed])
  · rcases begun cut with ⟨sent, -⟩ | ⟨-, offers⟩
    · cases sent
    · exact plays_of_offers offers (by simp)

end SendOptions

open Native (Library Served Tables NativeCall ClosedOnce unrecorded)

/-- Whatever the native library is, a note is sent end by end or not at all. -/
theorem notes_sent {σ χ : Type} (m : Library σ) (change : χ → σ → σ) (bound : Nat)
    (clientName sequencer : String) (o : SendOptions) (s : Scene σ χ) :
    let n := Served.simulator (Machine.recorded m) (unrecorded change)
    let i : Invocation := { clientName, sequencer, task := .send o }
    let r := (i.perform bound).run (Scene.answer n) (Native.Scene.served s)
    let log := r.2.sequencer.tables.2
    ((15 < o.channel ∨ 127 < o.note ∨ 127 < o.velocity) ∧
        log = [] ∧ r.1 = some (.failed .noteRange)) ∨
      ((o.channel ≤ 15 ∧ o.note ≤ 127 ∧ o.velocity ≤ 127) ∧
        OnPort (fun p => o.Plays p.id) (ofLog log) r.1 ∧
        ∀ report, r.1 = some report → ClosedOnce (NativeCall.handling log)) := by
  intro n i r log
  cases inRange : o.isInRange with
  | false =>
    have refused : i.perform bound = .done (.failed .noteRange) := by
      unfold Invocation.perform
      exact if_neg (by simp [inRange])
    have outside : 15 < o.channel ∨ 127 < o.note ∨ 127 < o.velocity := by
      simpa [SendOptions.isInRange, ← UInt8.not_le, or_assoc, Classical.or_iff_not_imp_left] using
        inRange
    have nothing : r = (some (.failed .noteRange), Native.Scene.served s) :=
      congrArg (fun p => Program.run (Scene.answer n) p (Native.Scene.served s)) refused
    exact .inl ⟨outside, congrArg (fun r => r.2.sequencer.tables.2) nothing,
      congrArg Prod.fst nothing⟩
  | true =>
    have checked : o.channel ≤ 15 ∧ o.note ≤ 127 ∧ o.velocity ≤ 127 := by
      simpa [SendOptions.isInRange, and_assoc] using inRange
    have performs : i.perform bound = withConnection i.config (o.perform bound) := by
      unfold Invocation.perform
      exact if_pos inRange
    refine .inr ⟨checked, ?_, fun report => Native.command_handles m change bound i s report⟩
    refine onPort_run m change s (fun p => o.Plays p.id) performs
      (fun c p h report isOpen ht => SendOptions.plays_work isOpen ht) ?_
    intro p acts shown report plays shows
    have all : shown = acts := shows.eq_of_required fun a ha => by
      obtain ⟨record, status, rfl⟩ := plays.sends a ha
      exact id
    exact all ▸ plays

/-- The first end is handed over twice, as it would block once. -/
theorem notes_sent_again :
    let o : SendOptions := { dest := ⟨129, 0⟩ }
    let script : Script := ⟨[("snd_seq_event_output_direct", [some Status.wouldBlock])]⟩
    let s : Scene Tables Unit := { sequencer := { kernel := {}, script } }
    let n := Served.simulator (Machine.recorded Tables.library) (unrecorded fun _ t => t)
    let i : Invocation := { task := .send o }
    let r := (i.perform 2).run (Scene.answer n) (Native.Scene.served s)
    let acts := ofLog r.2.sequencer.tables.2
    OnPort (fun p => o.Plays p.id) acts r.1 ∧ r.1 = some {} ∧ acts.length = 6 ∧
      Act.accepted acts = [o.endOf 0 .noteOn 100, o.endOf 0 .noteOff 0] := by
  intro o script s n i r acts
  rcases notes_sent Tables.library (fun (_ : Unit) t => t) 2 "aseq" "default" o s with
    ⟨outside, -⟩ | ⟨-, plays, -⟩
  · exact absurd outside (by decide)
  · exact ⟨plays, by decide, by decide, by decide⟩

end MidiSequencer.Cli
