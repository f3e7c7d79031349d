import MidiSequencer.Proofs.Commands.Durations
import MidiSequencer.Proofs.Commands.Events
import MidiSequencer.Proofs.Couples
import MidiSequencer.Proofs.Simulation.Inputs

/-! # Printing events in both modes

Two clients print the events of the same sequencer, one blocking and one suspending. They make the
same calls up to the first input, see the same events where the answers to inputs are fair, and make
the same calls again to come to their end. -/
namespace MidiSequencer

open Program (Couples Traces)
open Waiting (Fair Prompt)

namespace Connection

variable {P : Request → Prop} (c : Connection) {q : Command} (hq : P (.call (.command q)))
include hq

theorem meets_command : (c.command q).run.Meets P fun _ => True := by
  refine Action.meets_sequence ?_ fun status => trivial
  unfold Connection.call
  split
  · exact ⟨hq, fun _ => trivial⟩
  · trivial

theorem meets_execute : (c.execute q).run.Meets P fun _ => True :=
  Action.meets_sequence (c.meets_command hq) fun _ => trivial

end Connection

namespace Cli

variable {σ χ : Type} {m : Simulator σ χ} {ready : Prop} {c : Connection} {mode mode' : Mode}
  {timeout : Option Duration} {attempts attempts' : Nat}

/-- By induction on the events that one of them may print. -/
theorem couples_listen (hc : c.isOpen = true) (prompt : ready → Prompt timeout)
    (steps steps' : Nat) (lines : List String) :
    Couples (Scene.answer m) (Scene.Abreast m ready)
      (DumpOptions.listen c mode timeout attempts steps lines)
      (DumpOptions.listen c mode' timeout attempts' steps' lines)
      fun s t => ∃ u k l, s.sequencer = m.afterInputs u k ∧ t.sequencer = m.afterInputs u l := by
  induction steps generalizing steps' lines with
  | zero =>
    intro s t abreast r s' r' t' runs
    cases runs
  | succ steps ih =>
    intro s t abreast r s' r' t' runs runs'
    cases steps' with
    | zero => cases runs'
    | succ steps' =>
      obtain ⟨result, u, waits, rest⟩ := Program.run_bind_eq_some runs
      obtain ⟨result', v, waits', rest'⟩ := Program.run_bind_eq_some runs'
      obtain ⟨rfl, ⟨k, l, left, left'⟩, goesOn⟩ := abreast.input hc prompt waits waits'
      rcases result' with error | (_ | e)
      · cases rest
        cases rest'
        exact ⟨rfl, s.sequencer, k, l, left, left'⟩
      · cases rest
        cases rest'
        exact ⟨rfl, s.sequencer, k, l, left, left'⟩
      · exact ih steps' (e.line :: lines) u v (goesOn e rfl) r s' r' t' rest rest'

/-! What is asked before the first input, and behind the last. -/

def AsksBeside : Request → Prop
  | .call c => c.isInput = false
  | _ => False

def AsksReturn : Request → Prop
  | .call (.command (.deletePort _)) => True
  | .call .release => True
  | _ => False

variable {α : Type}

theorem beside_establish (config : Config) :
    (Connection.establish config).run.Meets AsksBeside fun _ => True := by
  refine (Opening.names_establish config).mono (fun q named => ?_) fun _ _ => trivial
  cases q with
  | call c =>
    cases c with
    | command q =>
      cases q with
      | dropInput | dropInputBuffer => simp [Request.Named, Opening.callNames, Call.name,
          Command.name] at named
      | _ => exact rfl
    | eventInput => simp [Request.Named, Opening.callNames, Call.name] at named
    | _ => exact rfl
  | _ => exact named.elim

theorem beside_createPort (c : Connection) (name : String) (capability : PortCapabilities)
    (portType : PortType) :
    (c.createPort name capability portType).run.Meets AsksBeside fun _ => True := by
  refine Action.meets_sequence ?_ fun name => ?_
  · cases checkName name <;> trivial
  · exact Action.meets_sequence (c.meets_command rfl) fun _ => trivial

theorem beside_connectAll (p : Port) (c : Connection) (sources : List Address) :
    (DumpOptions.connectAll p c sources).Meets AsksBeside fun _ => True := by
  induction sources with
  | nil => trivial
  | cons sender rest ih =>
    have connects : (p.connectFrom c sender).run.Meets AsksBeside fun _ => True := by
      refine Action.meets_sequence ?_ fun _ => c.meets_execute rfl
      cases p.checkOpen <;> trivial
    refine connects.bind fun result _ => ?_
    cases result with
    | ok _ => exact ih
    | error e => trivial

theorem return_drop (p : Port) (c : Connection) :
    (p.drop c).Meets AsksReturn fun _ => True := by
  refine Program.Meets.bind (R := fun _ => True) ?_ fun _ _ => trivial
  unfold Port.close
  split
  · trivial
  · exact (c.meets_execute trivial).bind fun _ _ => trivial

theorem return_close (c : Connection) : c.close.Meets AsksReturn fun _ => True := by
  unfold Connection.close
  split
  · exact ⟨trivial, fun _ => trivial⟩
  · trivial

section

open Native (Library Served NativeCall)

variable {σ χ : Type} (m : Library σ) (change : χ → σ → σ) (ready : Prop)

/-- Two clients in one scene, with fair inputs before them. -/
def Together (s t : Scene (Served (σ × NativeCall.History)) χ) : Prop :=
  t = s ∧ Scene.Abreast (Served.rehearsal m change) ready s s

/-- Two clients that took inputs and did the same besides. -/
def Apart (s t : Scene (Served (σ × NativeCall.History)) χ) : Prop :=
  Served.Beside m s.sequencer t.sequencer

variable {m change ready} {c : Connection} {work work' : Port → Dialogue Report}

theorem Together.apart {s t : Scene (Served (σ × NativeCall.History)) χ}
    (h : Together m change ready s t) : Apart m s t :=
  h.1 ▸ .refl m s.sequencer

theorem couples_together (apart : m.InputsApart) {p : Dialogue α}
    (hp : p.Meets AsksBeside fun _ => True) :
    Couples (Scene.answer (Served.rehearsal m change)) (Together m change ready) p p
      (Together m change ready) := by
  refine .lockstep hp fun q s t asked together => ?_
  obtain ⟨rfl, abreast⟩ := together
  refine ⟨rfl, rfl, ?_⟩
  cases q with
  | call c =>
    obtain ⟨line, watched, called⟩ := Scene.call_eq (Served.rehearsal m change) c t
    rw [called]
    exact {
      sequencer := rfl
      awaited := abreast.awaited
      fair := by
        rw [Served.inputAt_answer apart change asked]
        exact abreast.fair
      watched := fun isReady => (abreast.watched isReady).imp watched watched }
  | _ => exact asked.elim

theorem couples_apart {p : Dialogue α} (hp : p.Meets AsksReturn fun _ => True) :
    Couples (Scene.answer (Served.rehearsal m change)) (Apart m) p p (Apart m) := by
  refine .lockstep hp fun q s t asked apart => ?_
  cases q with
  | call c =>
    cases c with
    | command q =>
      cases q with
      | deletePort port => exact apart.deletePort change port
      | _ => exact asked.elim
    | release => exact ⟨rfl, apart.release change⟩
    | _ => exact asked.elim
  | _ => exact asked.elim

variable (apart : m.InputsApart)
include apart

/-- What differs in the inputs alone leaves the same to be given back. -/
theorem couples_withPort (name : String) (capability : PortCapabilities)
    (hw : ∀ p, Couples (Scene.answer (Served.rehearsal m change)) (Together m change ready) (work p)
      (work' p) (Apart m)) :
    Couples (Scene.answer (Served.rehearsal m change)) (Together m change ready)
      (withPort c name capability work) (withPort c name capability work') (Apart m) := by
  refine (couples_together apart (beside_createPort c name capability _)).bind fun made _ _ => ?_
  cases made with
  | error e => exact .done _ fun s t together => together.apart
  | ok p =>
    refine (hw p).bind fun report _ _ => ?_
    refine (couples_apart (return_drop p c)).bind fun _ _ _ => ?_
    exact .done _ fun s t apart => apart

theorem couples_withConnection (config : Config) {work work' : Connection → Dialogue Report}
    (hw : ∀ c, c.isOpen = true → Couples (Scene.answer (Served.rehearsal m change))
      (Together m change ready) (work c) (work' c) (Apart m)) :
    Couples (Scene.answer (Served.rehearsal m change)) (Together m change ready)
      (withConnection config work) (withConnection config work') (Apart m) := by
  refine (couples_together apart (beside_establish config)).bind fun opened h ht => ?_
  cases opened with
  | error e => exact .done _ fun s t together => together.apart
  | ok c =>
    refine (hw c (Connection.isOpen_of_establish ht)).bind fun report _ _ => ?_
    refine (couples_apart (return_close c)).bind fun _ _ _ => ?_
    exact .done _ fun s t apart => apart

theorem couples_dump (config : Config) (o : DumpOptions)
    {timeout : Option Duration} (prompt : ready → Prompt timeout) (mode mode' : Mode)
    (bound bound' : Nat) :
    Couples (Scene.answer (Served.rehearsal m change)) (Together m change ready)
      (withConnection config (DumpOptions.perform { o with mode } timeout bound))
      (withConnection config (DumpOptions.perform { o with mode := mode' } timeout bound'))
      (Apart m) := by
  refine couples_withConnection apart config fun c hc => ?_
  refine couples_withPort apart "dump" .writePort fun p => ?_
  refine (couples_together apart (beside_connectAll p c o.sources)).bind fun failure _ _ => ?_
  cases failure with
  | some f => exact .done _ fun s t together => together.apart
  | none =>
    refine (couples_listen hc prompt bound bound' []).mono (fun s t together => ?_) ?_
    · obtain ⟨rfl, abreast⟩ := together
      exact abreast
    · rintro s t ⟨u, k, l, left, left'⟩
      unfold Apart
      rw [left, left']
      exact (Served.beside_afterInputs apart change u k).symm.trans
        (Served.beside_afterInputs apart change u l)

end

open Native (Act Library Served Tables NativeCall ClosedOnce unrecorded)
open Native.Act (ofCalls ofLog Shows)
open Native.NativeCall (beside)

theorem perform_dump (clientName sequencer : String) (o : DumpOptions) (mode : Mode)
    (bound : Nat) :
    let i : Invocation := { clientName, sequencer, task := .dump { o with mode } }
    (∀ timeout, o.duration = .ok timeout → i.perform bound =
      withConnection { clientName, sequencer }
        (DumpOptions.perform { o with mode } timeout bound)) ∧
      ∀ failure, o.duration = .error failure → i.perform bound = .done (.failed failure) := by
  intro i
  constructor
  · intro timeout checked
    have same : ({ o with mode } : DumpOptions).duration = .ok timeout := checked
    simp only [i, Invocation.perform, same]
    rfl
  · intro failure checked
    have same : ({ o with mode } : DumpOptions).duration = .error failure := checked
    simp only [i, Invocation.perform, same]
    rfl

/-- Whatever the native library is, events are printed as they are taken, and everything that was
made is given back. -/
theorem dump_prints {σ χ : Type} (m : Library σ) (change : χ → σ → σ)
    (clientName sequencer : String) (o : DumpOptions) {timeout : Option Duration}
    (checked : o.duration = .ok timeout) (mode : Mode) (bound : Nat) (s : Scene σ χ) :
    let n := Served.simulator (Machine.recorded m) (unrecorded change)
    let i : Invocation := { clientName, sequencer, task := .dump { o with mode } }
    let r := (i.perform bound).run (Scene.answer n) (Native.Scene.served s)
    let log := r.2.sequencer.tables.2
    OnPort (DumpOptions.Hears o.sources) (ofLog log) r.1 ∧
      ∀ report, r.1 = some report →
        report.lines = (events (ofLog log)).map Event.line ∧
          ClosedOnce (NativeCall.handling log) := by
  intro n i r log
  have hears : OnPort (DumpOptions.Hears o.sources) (ofLog log) r.1 :=
    onPort_run m change s (DumpOptions.Hears o.sources)
      ((perform_dump clientName sequencer o mode bound).1 timeout checked)
      (fun c p h report isOpen ht => DumpOptions.hears_work isOpen ht)
      fun p acts shown report hears shows => hears.shows shows
  refine ⟨hears, fun report ended => ?_⟩
  rw [ended] at hears
  exact ⟨DumpOptions.prints_onPort hears,
    Native.command_handles m change bound i s report ended⟩

/-- What the command prints and does in each mode. Over a timeout that it cannot use it ends before
anything is called. Else both modes print and do the same where the library keeps inputs apart and
the answers to them are fair: an input would block only where nothing else would ever come, or once
before another answer, with the descriptor readable and more than a reading of the clock to go. -/
theorem dumps_agree {σ χ : Type} (m : Library σ) (change : χ → σ → σ)
    (clientName sequencer : String) (o : DumpOptions) (s : Scene σ χ) :
    let n := Served.rehearsal m change
    let r (mode : Mode) (bound : Nat) :=
      (Invocation.perform { clientName, sequencer, task := .dump { o with mode } } bound).run
        (Scene.answer n) (Native.Scene.served s)
    let log (mode : Mode) (bound : Nat) := (r mode bound).2.sequencer.tables.2
    DumpOptions.Takes o.timeout o.duration ∧
      ((∃ failure, o.duration = .error failure ∧
          (failure.exitCode = 101 ↔
            ∃ seconds v, o.timeout = some seconds ∧ seconds.value? = some v ∧ 2 ^ 64 ≤ v) ∧
          ∀ mode bound, log mode bound = [] ∧ (r mode bound).1 = some (.failed failure)) ∨
        ∃ timeout, o.duration = .ok timeout ∧
          (∀ mode bound, OnPort (DumpOptions.Hears o.sources) (ofLog (log mode bound))
              (r mode bound).1 ∧
            ∀ report, (r mode bound).1 = some report →
              report.lines = (events (ofLog (log mode bound))).map Event.line ∧
                ClosedOnce (NativeCall.handling (log mode bound))) ∧
          (m.InputsApart → s.awaited = [] → Fair (s.line.Watched ∧ Prompt timeout)
              (n.inputAt (Native.Scene.served s).sequencer) →
            ∀ bound bound' report report', (r .blocking bound).1 = some report →
              (r .suspending bound').1 = some report' →
              report' = report ∧
                beside (log .suspending bound') = beside (log .blocking bound))) := by
  intro n r log
  have takes := o.takes_duration
  refine ⟨takes, ?_⟩
  cases checked : o.duration with
  | error failure =>
    rw [checked] at takes
    refine .inl ⟨failure, rfl, takes.exitCode_iff, fun mode bound => ?_⟩
    have refused : r mode bound = (some (.failed failure), Native.Scene.served s) :=
      congrArg (fun p => Program.run (Scene.answer n) p (Native.Scene.served s))
        ((perform_dump clientName sequencer o mode bound).2 failure checked)
    exact ⟨congrArg (fun r => r.2.sequencer.tables.2) refused, congrArg Prod.fst refused⟩
  | ok timeout =>
    refine .inr ⟨timeout, rfl, fun mode bound =>
      dump_prints m change clientName sequencer o checked mode bound s, ?_⟩
    intro apart alone fair bound bound' report report' ended ended'
    have together : Together m change (s.line.Watched ∧ Prompt timeout) (Native.Scene.served s)
        (Native.Scene.served s) :=
      ⟨rfl, rfl, ⟨alone, alone⟩, fair, fun ready => ⟨ready.1, ready.1⟩⟩
    have coupled := couples_dump apart { clientName, sequencer } o
      (And.right : s.line.Watched ∧ Prompt timeout → _) .blocking .suspending bound bound' _ _
      together report (r .blocking bound).2 report' (r .suspending bound').2
    rw [← (perform_dump clientName sequencer o .blocking bound).1 timeout checked,
      ← (perform_dump clientName sequencer o .suspending bound').1 timeout checked] at coupled
    obtain ⟨same, behind⟩ := coupled (Prod.ext ended rfl) (Prod.ext ended' rfl)
    exact ⟨same, behind.log⟩

/-- An event comes behind an input that would block once, with the descriptor readable and three
more readings of the clock to go. -/
theorem dumps_agree_blocked :
    let record : Record := (Event.noteOn 0 60 1).encode {}
    let script : Script := ⟨[("snd_seq_event_input", [some Status.wouldBlock])]⟩
    let s : Scene Tables Unit :=
      { sequencer := { kernel := { input := [some record] }, script }
        line := { readable := true } }
    let o : DumpOptions := { sources := [⟨129, 0⟩], timeout := some (.finite false 1 (-18)) }
    let n := Served.rehearsal Tables.library fun (_ : Unit) t => t
    let r (mode : Mode) (bound : Nat) :=
      (Invocation.perform { task := .dump { o with mode } } bound).run (Scene.answer n)
        (Native.Scene.served s)
    let log (mode : Mode) (bound : Nat) := (r mode bound).2.sequencer.tables.2
    let report : Report := { lines := [record.decode.line] }
    Library.InputsApart Tables.library ∧
      Fair (s.line.Watched ∧ Prompt (some 3815)) (n.inputAt (Native.Scene.served s).sequencer) ∧
      o.duration = .ok (some 3815) ∧
      (r .blocking 9).1 = some report ∧ (r .suspending 3).1 = some report ∧
      beside (log .suspending 3) = beside (log .blocking 9) ∧
      ∀ mode bound,
        OnPort (DumpOptions.Hears o.sources) (ofLog (log mode bound)) (r mode bound).1 := by
  intro record script s o n r log report
  have duration : o.duration = .ok (some 3815) := by decide
  have blocking : (r .blocking 9).1 = some report := by decide
  have suspending : (r .suspending 3).1 = some report := by decide
  have isReady : s.line.Watched ∧ Prompt (some 3815) := by
    refine ⟨⟨rfl, .inr rfl⟩, fun d hd => .inr ?_⟩
    cases hd
    decide
  have fair : Fair (s.line.Watched ∧ Prompt (some 3815))
      (n.inputAt (Native.Scene.served s).sequencer) := by
    refine .cons (fun _ => ⟨isReady, nofun⟩) (Served.Unforced.fair _ (fun k => ?_) _)
    cases k <;> rfl
  obtain ⟨-, ⟨failure, refused, -⟩ | ⟨timeout, checked, hears, agree⟩⟩ :=
    dumps_agree Tables.library (fun (_ : Unit) t => t) "aseq" "default" o s
  · cases duration.symm.trans refused
  · cases duration.symm.trans checked
    obtain ⟨-, same⟩ :=
      agree Tables.library_inputsApart rfl fair 9 3 report report blocking suspending
    exact ⟨Tables.library_inputsApart, fair, duration, blocking, suspending, same,
      fun mode bound => (hears mode bound).1⟩

/-- Would block is answered only where no event is left, or once before an event with the descriptor
readable. -/
def Sparing (readable : Prop) (answers : Nat → Except Status Event) : Prop :=
  ∀ k, answers k = .error Status.wouldBlock →
    (∀ j, k ≤ j → ∀ e, answers j ≠ .ok e) ∨ readable ∧ ∃ e, answers (k + 1) = .ok e

/-- So sparing answers are not yet fair. A client that polls makes another attempt when its time is
over, and one that suspends does not: a failure that comes then is reported by the first alone. With
no more than a reading of the clock to go, an event that is there is printed by the second alone. -/
theorem dumps_differ :
    let n := Served.rehearsal Tables.library fun (_ : Unit) t => t
    let run (o : DumpOptions) (s : Scene Tables Unit) (mode : Mode) :=
      ((Invocation.perform { task := .dump { o with mode } } 3).run (Scene.answer n)
        (Native.Scene.served s)).1
    let inputs (s : Scene Tables Unit) := n.inputAt (Native.Scene.served s).sequencer
    let failing : Scene Tables Unit :=
      { sequencer := { kernel := {}, script := ⟨[("snd_seq_event_input", [none, some (-5)])]⟩ } }
    let record : Record := (Event.noteOn 0 60 1).encode {}
    let late : Scene Tables Unit :=
      { sequencer := { kernel := { input := [some record] }
                       script := ⟨[("snd_seq_event_input", [some Status.wouldBlock])]⟩ }
        line := { readable := true } }
    -- one fiftieth of a second
    let o : DumpOptions := { timeout := some (.finite false 5764607523034235 (-58)) }
    -- less than a microsecond
    let o' : DumpOptions := { timeout := some (.finite false 1 (-20)) }
    (Sparing (failing.line.readable = true) (inputs failing) ∧
        run o failing .blocking =
          some { failure := some (.failed (.service Call.eventInput.label (-5))) } ∧
        run o failing .suspending = some {}) ∧
      Sparing (late.line.readable = true) (inputs late) ∧
        run o' late .blocking = some {} ∧
        run o' late .suspending = some { lines := [record.decode.line] } := by
  intro n run inputs failing record late o o'
  have rest (s : Scene Tables Unit)
      (free : (n.afterInputs (Native.Scene.served s).sequencer 2).Unforced)
      (nothing : (n.afterInputs (Native.Scene.served s).sequencer 2).tables.1.kernel.input = [])
      (k : Nat) : inputs s (k + 2) = .error Status.wouldBlock :=
    free.blocks _ nothing k
  refine ⟨⟨fun k _ => .inl fun j _ e => ?_, by decide, by decide⟩, fun k blocks => ?_,
    by decide, by decide⟩
  · rcases j with _ | _ | j
    · exact nofun
    · exact nofun
    · rw [rest failing (fun k => by cases k <;> rfl) rfl]
      exact nofun
  · rcases k with _ | _ | k
    · exact .inr ⟨rfl, _, rfl⟩
    · cases blocks
    · refine .inl fun j later e => ?_
      obtain ⟨j, rfl⟩ := Nat.exists_eq_add_of_le' (Nat.le_trans (Nat.le_add_left 2 k) later)
      rw [rest late (fun k => by cases k <;> rfl) rfl]
      exact nofun

end Cli

end MidiSequencer
