import MidiSequencer.Cli.Perform
import MidiSequencer.Proofs.Failures.Reporting
import MidiSequencer.Proofs.Listing.Questions
import MidiSequencer.Proofs.Opening.Names

/-! # Listings that break off

A listing ends with the error of the search that fails. A command that lists ports or clients then
prints nothing: it reports the error, and closes its connection. -/
namespace MidiSequencer

structure Program.Exchange.Breaks (x : Program.Exchange Call Call.Answer) (status : Status) :
    Prop where
  searches : x.question.isNext = true
  fails : x.question.Fails x.answer status
  other : status ≠ Status.notFound

theorem Program.Exchange.Breaks.not_exempt {x : Program.Exchange Call Call.Answer}
    {status : Status} (breaks : x.Breaks status) {R : Rules} (waits : R.waits = false)
    (drops : R.drops = false) : ¬ R.Exempt x.question status := by
  rintro (⟨-, ended⟩ | ⟨waited, -⟩ | ⟨dropped, -⟩)
  · exact breaks.other ended
  · simp [waits] at waited
  · simp [drops] at dropped

theorem Opening.not_named_of_isNext {c : Call} (searches : c.isNext = true) :
    c.name ∉ Opening.callNames := by
  cases c with
  | nextClient previous => simp [Opening.callNames, Call.name]
  | nextPort client previous => simp [Opening.callNames, Call.name]
  | _ => cases searches

namespace Connection

def listing (c : Connection) : Rules where
  isOpen := c.isOpen
  names := ["query_next_client", "query_next_port"]

variable {c : Connection} {α β : Type} {a : Action α} {h : Dialogue.History} {o : Option β}
  {before after : Call.History} {x : Program.Exchange Call Call.Answer} {status : Status}

theorem heeds_listing (f : PortFilter) (bound : Nat) :
    Action.Heeds c.listing True (c.allPorts f bound) :=
  heeds_allPorts rfl (.tail _ (.head _)) (.head _) f fun _ _ => trivial

theorem heeds_entries (bound : Nat) : Action.Heeds c.listing True (Cli.entries c.clients bound) :=
  Enumeration.heeds_fold (fun previous => heeds_nextClient rfl (.head _) previous)
    (fun isOpen _ _ => Action.heeds_pure isOpen _) (fun _ _ => trivial) rfl []

theorem broken_off (ha : Action.Heeds c.listing True a) {f : Except Error α → Dialogue β}
    (hf : ∀ result, ∃ b, f result = .done b) (ht : Program.Traces (a.run >>= f) h o)
    (made : Dialogue.calls h = before ++ x :: after) (breaks : x.Breaks status) :
    after = [] ∧ ∃ b, f (.error (.service x.question.label status)) = .done b ∧ o = some b := by
  have last {h : Dialogue.History} {o : Option (Except Error α)}
      (ht : Program.Traces a.run h o) (made : Dialogue.calls h = before ++ x :: after) :
      after = [] ∧ o = some (.error (.service x.question.label status)) :=
    ha.failed_call ht made breaks.fails (breaks.not_exempt rfl rfl)
  rcases Program.traces_bind_iff.1 ht with ⟨h₁, result, h₂, rfl, ht₁, ht₂⟩ | ⟨rfl, cut⟩
  · obtain ⟨b, ends⟩ := hf result
    rw [ends] at ht₂
    obtain ⟨rfl, rfl⟩ := Program.traces_done_iff.1 ht₂
    rw [List.append_nil] at made
    obtain ⟨rfl, failed⟩ := last ht₁ made
    cases failed
    exact ⟨rfl, b, ends, rfl⟩
  · obtain ⟨-, failed⟩ := last cut made
    cases failed

end Connection

namespace Play

/-- Whatever the sequencer is, a search that fails is the last one, and the listing its error. -/
theorem perform_breaks {σ χ : Type} (m : Simulator σ χ) {bound : Nat}
    {p : Play (σ × Call.History) χ} {l : Listing} {f : PortFilter} {before after : Call.History}
    {x : Program.Exchange Call Call.Answer} {status : Status}
    (made : (p.perform m.recorded bound (l.operation f)).2.scene.sequencer.2 =
      p.scene.sequencer.2 ++ (before ++ x :: after)) (breaks : x.Breaks status) :
    after = [] ∧ (p.perform m.recorded bound (l.operation f)).1 =
      some (.error (.service x.question.label status)) := by
  rw [perform_scene, l.perform_operation] at made
  obtain ⟨h, ht, logged⟩ := Dialogue.run_recorded m (p.session.arranged f bound (l.arrange f))
    p.scene
  obtain ⟨rfl, ended, failed, answered⟩ := Connection.broken_off
    (Connection.heeds_listing f bound) (fun _ => ⟨_, rfl⟩) ht
    (List.append_cancel_left (logged.symm.trans made)) breaks
  cases failed
  refine ⟨rfl, ?_⟩
  rw [perform_eq, l.perform_operation]
  exact congrArg (Option.map Prod.fst) answered

end Play

namespace Cli

variable {h : Dialogue.History} {o : Option Report} {before after : Call.History}
  {x : Program.Exchange Call Call.Answer} {status : Status}

def brokenReport (x : Program.Exchange Call Call.Answer) (status : Status) : Report :=
  .failed (.failed (.service x.question.label status))

theorem reportLines_breaks {c : Connection} {a : Action (List String)}
    (ha : Action.Heeds c.listing True a) (ht : Program.Traces (reportLines .failed a) h o)
    (made : Dialogue.calls h = before ++ x :: after) (breaks : x.Breaks status) :
    after = [] ∧ o = some (brokenReport x status) := by
  obtain ⟨rfl, report, failed, rfl⟩ :=
    Connection.broken_off ha (fun result => by cases result <;> exact ⟨_, rfl⟩) ht made breaks
  cases failed
  exact ⟨rfl, rfl⟩

theorem withConnection_breaks {config : Config} {work : Connection → Dialogue Report}
    (hw : ∀ c : Connection, c.isOpen = true → ∀ {h o before after},
      Program.Traces (work c) h o → Dialogue.calls h = before ++ x :: after →
      after = [] ∧ o = some (brokenReport x status))
    (ht : Program.Traces (withConnection config work) h o)
    (made : Dialogue.calls h = before ++ x :: after) (breaks : x.Breaks status) :
    (∀ y ∈ after, y.question = .release) ∧ o = some (brokenReport x status) := by
  obtain ⟨h₁, result, h₂, rfl, ht₁, ht₂⟩ :=
    Program.traces_bind_of_ends (Opening.establish config).ends ht
  have opened : x ∉ Dialogue.calls h₁ := fun hx =>
    Opening.not_named_of_isNext breaks.searches
      ((Opening.names_establish config).question ht₁ _ (Dialogue.mem_calls hx))
  rw [Dialogue.calls_append] at made
  obtain ⟨later, rfl, made'⟩ := split_second made opened
  cases result with
  | error e =>
    obtain ⟨rfl, -⟩ := Program.traces_done_iff.1 ht₂
    simp [Dialogue.calls] at made'
  | ok c =>
    have isOpen := Connection.isOpen_of_establish ht₁
    rcases Program.traces_bind_iff.1 ht₂ with ⟨h₃, report, h₄, rfl, ht₃, ht₄⟩ | ⟨rfl, cut⟩
    · obtain ⟨released, rfl⟩ := Connection.traces_close isOpen ht₄
      rw [Dialogue.calls_append, released] at made'
      have closed : x ∉ [(⟨.release, ()⟩ : Program.Exchange Call Call.Answer)] := by
        intro hx
        obtain rfl := List.mem_singleton.1 hx
        cases breaks.searches
      obtain ⟨rest, made₃, rfl⟩ := split_first made' closed
      obtain ⟨rfl, reported⟩ := hw c isOpen ht₃ made₃
      refine ⟨fun y hy => ?_, reported⟩
      obtain rfl := List.mem_singleton.1 hy
      rfl
    · obtain ⟨-, reported⟩ := hw c isOpen cut made'
      cases reported

def Task.Lists (t : Task) : Prop :=
  (∃ o, t = .list o) ∨ ∃ json, t = .clients json

theorem perform_breaks {i : Invocation} {bound : Nat} (lists : i.task.Lists)
    (ht : Program.Traces (i.perform bound) h o)
    (made : Dialogue.calls h = before ++ x :: after) (breaks : x.Breaks status) :
    (∀ y ∈ after, y.question = .release) ∧ o = some (brokenReport x status) := by
  unfold Invocation.perform at ht
  rcases lists with ⟨options, task⟩ | ⟨json, task⟩
  · rw [task] at ht
    refine withConnection_breaks (fun c _ h o before after ht made => ?_) ht made breaks
    have heeds : Action.Heeds c.listing True (c.listPorts options.filter bound) :=
      Action.heeds_return (Connection.heeds_listing options.filter bound) _
    exact reportLines_breaks (Action.heeds_return heeds _) ht made breaks
  · rw [task] at ht
    refine withConnection_breaks (fun c _ h o before after ht made => ?_) ht made breaks
    exact reportLines_breaks (Action.heeds_return (Connection.heeds_entries bound) _) ht made breaks

theorem run_breaks {σ χ : Type} (m : Simulator σ χ) {i : Invocation} {bound : Nat}
    (lists : i.task.Lists) {s : Scene (σ × Call.History) χ}
    (made : ((i.perform bound).run (Scene.answer m.recorded) s).2.sequencer.2 =
      s.sequencer.2 ++ (before ++ x :: after)) (breaks : x.Breaks status) :
    (∀ y ∈ after, y.question = .release) ∧
      ((i.perform bound).run (Scene.answer m.recorded) s).1 = some (brokenReport x status) := by
  obtain ⟨h, ht, logged⟩ := Dialogue.run_recorded m (i.perform bound) s
  exact perform_breaks lists ht (List.append_cancel_left (logged.symm.trans made)) breaks

end Cli

end MidiSequencer
