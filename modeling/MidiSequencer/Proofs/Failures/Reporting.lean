import MidiSequencer.Proofs.Conduct.Sessions
import MidiSequencer.Proofs.Passages
import MidiSequencer.Proofs.Resources.Openings
import MidiSequencer.Proofs.Waiting.Patience
import MidiSequencer.Simulation.Rehearsal

/-! # Failures are reported

A call that fails is the last one of its operation, and the operation ends with the status and the
name of this call. Exempt are the end of an enumeration, a transfer that would block during a wait,
and giving back by what drops. -/
namespace MidiSequencer

variable {σ χ α : Type}

/-! Histories. -/

namespace Dialogue

variable {R : Rules} {D : Duty α} {p : Dialogue α} {h : Dialogue.History} {o : Option α}

theorem Heeds.failed_call (hp : Heeds R D p) (ht : Program.Traces p h o)
    {before after : Call.History} {x : Program.Exchange Call Call.Answer} {s : Status}
    (hc : Dialogue.calls h = before ++ x :: after) (hf : x.question.Fails x.answer s)
    (hx : ¬ R.Exempt x.question s) :
    after = [] ∧ D.reported (.service x.question.label s) o := by
  obtain ⟨b, a, hh, rfl⟩ := Dialogue.calls_eq_append_cons hc
  obtain ⟨rfl, reported⟩ := hp.failure ht hh ⟨rfl, hf⟩ hx
  exact ⟨rfl, reported⟩

end Dialogue

/-! Single steps of enumerations. -/

namespace Enumeration

variable {ι : Type} {e : Enumeration ι} {cursor : Cursor}

def ReportsStep (e : Enumeration ι) (cursor : Cursor) : Prop :=
  ∀ h o before (x : Program.Exchange Call Call.Answer) after s,
    Program.Traces (e.step cursor) h o → Dialogue.calls h = before ++ x :: after →
    x.question.Fails x.answer s → s ≠ Status.notFound →
    after = [] ∧ ∃ cursor', o = some (some (.error (.service x.question.label s)), cursor') ∧
      cursor'.finished = true

def EndsNormally (e : Enumeration ι) (cursor : Cursor) : Prop :=
  ∀ h o before (x : Program.Exchange Call Call.Answer),
    Program.Traces (e.step cursor) h o → Dialogue.calls h = before ++ [x] →
    x.answer = x.question.forced Status.notFound → o = some (none, { cursor with finished := true })

theorem reportsStep {R : Rules} (hw : R.waits = false) (hd : R.drops = false) (he : e.Heeds R) :
    e.ReportsStep cursor := by
  intro h o before x after s ht hc hf hs
  cases hf' : cursor.finished with
  | true =>
    rw [step_of_finished hf'] at ht
    obtain ⟨rfl, -⟩ := Program.traces_done_iff.1 ht
    simp [Dialogue.calls] at hc
  | false =>
    have heeds := heeds_step he hf'
    refine heeds.failed_call ht hc hf ?_
    rintro (⟨-, hn⟩ | ⟨hn, -⟩ | ⟨hn, -⟩)
    · exact hs hn
    · simp [hw] at hn
    · simp [hd] at hn

def AsksOnce (a : Action (Option ι)) : Prop :=
  (∃ err, a.run = .done (.error err)) ∨
  ∃ (c : Call) (check : c.Answer → Except Error (Option ι)),
    a.run = .ask (.call c) (fun answer => .done (check answer)) ∧
      check (c.forced Status.notFound) = .ok none

theorem AsksOnce.traces {a : Action (Option ι)} (ha : AsksOnce a) {h : Dialogue.History}
    {o : Option (Except Error (Option ι))} (ht : Program.Traces a.run h o) :
    o ≠ none ∧ ∀ before x, Dialogue.calls h = before ++ [x] →
      x.answer = x.question.forced Status.notFound → o = some (.ok none) := by
  rcases ha with ⟨err, hn⟩ | ⟨c, check, hn, none_found⟩
  · rw [hn] at ht
    obtain ⟨rfl, rfl⟩ := Program.traces_done_iff.1 ht
    refine ⟨Option.some_ne_none _, fun before x hc => ?_⟩
    simp [Dialogue.calls] at hc
  · rw [hn] at ht
    obtain ⟨answer, t, rfl, hd⟩ := Program.traces_ask_iff.1 ht
    obtain ⟨rfl, rfl⟩ := Program.traces_done_iff.1 hd
    refine ⟨Option.some_ne_none _, fun before x hc hx => ?_⟩
    have single : [] ++ [⟨c, answer⟩] = before ++ [x] := hc
    obtain ⟨-, same⟩ := List.append_inj' single rfl
    cases same
    exact congrArg some ((congrArg check hx).trans none_found)

theorem AsksOnce.length_le {a : Action (Option ι)} (ha : AsksOnce a) {h : Dialogue.History}
    {o : Option (Except Error (Option ι))} (ht : Program.Traces a.run h o) : h.length ≤ 1 := by
  rcases ha with ⟨err, hn⟩ | ⟨c, check, hn, -⟩
  · rw [hn] at ht
    obtain ⟨rfl, -⟩ := Program.traces_done_iff.1 ht
    exact Nat.zero_le 1
  · rw [hn] at ht
    obtain ⟨answer, t, rfl, hd⟩ := Program.traces_ask_iff.1 ht
    obtain ⟨rfl, -⟩ := Program.traces_done_iff.1 hd
    exact Nat.le_refl 1

theorem endsNormally_of_asksOnce (he : ∀ previous, AsksOnce (e.next previous)) :
    e.EndsNormally cursor := by
  intro h o before x ht hc hx
  cases hf : cursor.finished with
  | true =>
    rw [step_of_finished hf] at ht
    obtain ⟨rfl, -⟩ := Program.traces_done_iff.1 ht
    simp [Dialogue.calls] at hc
  | false =>
    rw [step_of_unfinished hf] at ht
    have whole (h : Dialogue.History) :
        ¬ Program.Traces (e.next cursor.previous).run h none := by
      intro cut
      exact ((he _).traces cut).1 rfl
    obtain ⟨h₁, r, h₂, rfl, ht₁, ht₂⟩ := Program.traces_bind_of_ends whole ht
    have last : h₂ = [] := by
      rcases r with err | (_ | a) <;> exact (Program.traces_done_iff.1 ht₂).1
    subst last
    rw [List.append_nil] at hc
    have ended := ((he _).traces ht₁).2 before x hc hx
    cases ended
    exact (Program.traces_done_iff.1 ht₂).2

end Enumeration

namespace Connection

variable (c : Connection)

theorem asksOnce_nextClient (previous : Previous) :
    Enumeration.AsksOnce (c.nextClient previous) := by
  cases hn : previous.inClients with
  | error err =>
    refine .inl ⟨err, ?_⟩
    unfold nextClient
    rw [hn]
    rfl
  | ok n =>
    cases hc : c.isOpen with
    | false =>
      refine .inl ⟨.closed, ?_⟩
      unfold nextClient Connection.call
      rw [hn, hc]
      rfl
    | true => exact .inr ⟨.nextClient n, _, run_nextClient hc hn, rfl⟩

theorem asksOnce_nextPort (client : Int) (previous : Previous) :
    Enumeration.AsksOnce (c.nextPort client previous) := by
  cases hn : previous.inPortsOf client with
  | error err =>
    refine .inl ⟨err, ?_⟩
    unfold nextPort
    rw [hn]
    rfl
  | ok n =>
    cases hc : c.isOpen with
    | false =>
      refine .inl ⟨.closed, ?_⟩
      unfold nextPort Connection.call
      rw [hn, hc]
      rfl
    | true => exact .inr ⟨.nextPort client n, _, run_nextPort hc hn, rfl⟩

end Connection

/-! Openings. -/

namespace Connection

def registering : Rules where
  isOpen := true
  names := ["set_client_name", "client_id", "poll_descriptors"]

theorem heeds_perform {q : Call} (hq : q.name ∈ registering.names)
    {check : q.Answer → Except Error α}
    (checked : ∀ answer s, q.Fails answer s → check answer = .error (.service q.label s))
    {β : Type} {f : α → Action β} (hf : ∀ a, Action.Heeds registering False (f a)) :
    Action.Heeds registering False
      (Action.perform q >>= fun answer => liftM (check answer) >>= f) := by
  have call : Action.Heeds registering False
      (Action.perform q >>= fun answer => liftM (check answer)) :=
    heeds_call (c := ⟨0, true⟩) rfl hq fun answer s hs _ => checked answer s hs
  have both := Action.heeds_bind call fun _ => hf
  rw [bind_assoc] at both
  exact both

theorem heeds_register (clientName : String) (streams : Streams) :
    Action.Heeds registering False (register clientName streams) := by
  have command (q : Command) (answer : Status) (s : Status) :
      (Call.command q).Fails answer s →
        checkStatus (.command q) answer = .error (.service (Call.command q).label s) := by
    rintro ⟨negative, -, rfl⟩
    exact if_pos negative
  apply Action.heeds_checked (fun _ => checkName_error)
  intro name _
  apply heeds_perform (q := .command (.setClientName name)) (.head _) (command _)
  intro _
  apply heeds_perform (q := .command .clientId) (.tail _ (.head _)) (command _)
  intro clientId
  apply heeds_perform (q := .pollDescriptors) (.tail _ (.tail _ (.head _)))
  · rintro _ s ⟨-, -, rfl⟩
    rfl
  · intro reported
    cases hd : checkDescriptors streams reported with
    | ok u => exact Action.heeds_pure rfl _
    | error e => exact Dialogue.heeds_of_isOpen rfl _

theorem registering_exempt {c : Call} (hc : c.name ∈ registering.names) (s : Status) :
    ¬ registering.Exempt c s := by
  rintro (⟨hn, -⟩ | ⟨hn, -⟩ | ⟨hn, -⟩)
  · cases c with
    | nextClient previous => simp [registering, Call.name] at hc
    | nextPort client previous => simp [registering, Call.name] at hc
    | _ => cases hn
  · cases hn
  · cases hn

def ReportsOpening (a : Action Connection) : Prop :=
  ∀ h o before (x : Program.Exchange Call Call.Answer) after s,
    Program.Traces a.run h o → Dialogue.calls h = before ++ x :: after →
    x.question.Fails x.answer s →
    (∀ y ∈ after, y.question = .release) ∧ o = some (.error (.service x.question.label s))

theorem adopt_reports (clientName : String) (streams : Streams) :
    ReportsOpening (adopt clientName streams) := by
  intro h o before x after s ht hc hf
  have heeds := heeds_register clientName streams
  rw [run_adopt] at ht
  obtain ⟨h₁, r, h₂, rfl, ht₁, ht₂⟩ :=
    Program.traces_bind_of_ends (plainly_register clientName streams).ends ht
  rw [Dialogue.calls_append] at hc
  -- the last call is a release, which cannot fail, or belongs to registering
  have releases : ∀ y ∈ Dialogue.calls h₂, y.question = .release := by
    cases r with
    | ok c =>
      obtain ⟨rfl, -⟩ := Program.traces_done_iff.1 ht₂
      simp [Dialogue.calls]
    | error e =>
      obtain ⟨answer, t, rfl, hd⟩ := Program.traces_ask_iff.1 ht₂
      obtain ⟨rfl, -⟩ := Program.traces_done_iff.1 hd
      intro y hy
      obtain rfl : y = ⟨.release, answer⟩ := List.mem_singleton.1 hy
      rfl
  have called : x ∉ Dialogue.calls h₂ := fun hx => hf.2.1 (releases x hx)
  obtain ⟨rest, hr, rfl⟩ := split_first hc called
  have named : x.question.name ∈ registering.names := by
    apply heeds.names ht₁
    rw [hr]
    simp
  obtain ⟨rfl, reported⟩ := heeds.failed_call ht₁ hr hf (registering_exempt named s)
  cases reported
  obtain ⟨answer, t, rfl, hd⟩ := Program.traces_ask_iff.1 ht₂
  obtain ⟨rfl, rfl⟩ := Program.traces_done_iff.1 hd
  exact ⟨releases, rfl⟩

theorem establish_reports (config : Config) : ReportsOpening (establish config) := by
  intro h o before x after s ht hc hf
  cases hn : checkName config.sequencer with
  | error e =>
    unfold establish at ht
    rw [hn] at ht
    obtain ⟨rfl, -⟩ := Program.traces_done_iff.1 ht
    simp [Dialogue.calls] at hc
  | ok sequencer =>
    rw [run_establish hn] at ht
    obtain ⟨status, t, rfl, hd⟩ := Program.traces_ask_iff.1 ht
    let opening := Command.openSequencer sequencer config.streams config.mode
    have hc : ⟨.command opening, status⟩ :: Dialogue.calls t = before ++ x :: after := hc
    cases before with
    | nil =>
      obtain ⟨rfl, rfl⟩ := List.cons.inj hc
      obtain ⟨negative, -, rfl⟩ := hf
      rw [if_pos negative] at hd
      obtain ⟨rfl, rfl⟩ := Program.traces_done_iff.1 hd
      exact ⟨by simp [Dialogue.calls], rfl⟩
    | cons y before =>
      obtain ⟨-, hc⟩ := List.cons.inj hc
      by_cases hs : status < 0
      · rw [if_pos hs] at hd
        obtain ⟨rfl, -⟩ := Program.traces_done_iff.1 hd
        simp [Dialogue.calls] at hc
      · rw [if_neg hs] at hd
        exact adopt_reports _ _ t o before x after s hd hc hf

end Connection

/-! Waits. -/

def Outcome.GivesUp : Outcome → Prop
  | .value (.event? none) => True
  | .value (.status? none) => True
  | .error (.poll _) => True
  | _ => False

namespace Session

variable {s : Session} {bound : Nat} {h : Dialogue.History} {x : Outcome × Session}

def Waits (h : Dialogue.History) (o : Outcome) : Prop :=
  (∀ call, o ≠ .error (.service call Status.wouldBlock)) ∧
    (Call.LastBlocked False (Dialogue.calls h) → o.GivesUp)

theorem waits_report {f : Option α → Value} (hf : (Outcome.value (f none)).GivesUp)
    {a : Action (Option α)} (ha : Waiting.Patient False a.run)
    (ht : Program.Traces (s.report f a) h (some x)) : Waits h x.1 := by
  rcases Program.traces_bind_iff.1 ht with ⟨h₁, r, h₂, rfl, ht₁, ht₂⟩ | ⟨hn, -⟩
  · obtain ⟨rfl, same⟩ := Program.traces_done_iff.1 ht₂
    cases same
    rw [List.append_nil]
    obtain ⟨unblocked, gives⟩ := ha.traces ht₁
    constructor
    · intro call he
      cases r with
      | ok v => cases he
      | error e =>
        cases he
        cases unblocked
    · intro hl
      have given := gives hl
      rcases r with e | (_ | v)
      · obtain ⟨number, rfl⟩ := given
        trivial
      · exact hf
      · cases given
  · cases hn

theorem perform_waits {operation : Operation} (hw : operation.waits = true)
    (hc : s.connection.isOpen = true)
    (ht : Program.Traces (s.perform bound operation) h (some x)) : Waits h x.1 := by
  cases operation with
  | input timeout =>
    exact waits_report (f := .event?) trivial
      (Waiting.patient_wait (Connection.attempts_tryInput hc) _ _ _ _ _) ht
  | output direct event routing timeout =>
    simp only [perform] at ht
    cases hr : s.route routing with
    | none =>
      rw [hr] at ht
      obtain ⟨rfl, same⟩ := Program.traces_done_iff.1 ht
      cases same
      constructor
      · intro call he
        cases he
      · intro hl
        cases hl
    | some route =>
      rw [hr] at ht
      exact waits_report (f := .status?) trivial
        (Waiting.patient_wait (Connection.attempts_command hc _) _ _ _ _ _) ht
  | drain timeout =>
    exact waits_report (f := .status?) trivial
      (Waiting.patient_wait (Connection.attempts_command hc _) _ _ _ _ _) ht
  | _ => cases hw

end Session

structure FailuresReported : Prop where
  /-- Of the calls that a step makes, one that fails and is not exempt is the last, and the
  operation answers with its error. Only an enumeration that is read to its end can lack the step
  that it takes to see that nothing follows the error. -/
  operations {σ χ : Type} (m : Simulator σ χ) (bound : Nat) (p : Play (σ × Call.History) χ)
    (step : Step χ) (operation : Operation) (before after : Call.History)
    (x : Program.Exchange Call Call.Answer) (s : Status) :
    step.Performs p.session operation →
    let r := p.step m.recorded bound step
    r.2.scene.sequencer.2 = p.scene.sequencer.2 ++ (before ++ x :: after) →
    x.question.Fails x.answer s → ¬ (p.session.rules operation).Exempt x.question s →
    after = [] ∧ match r.1 with
      | some o => o.Reports (.service x.question.label s)
      | none => operation.reads = true
  iterators (c : Connection) (cursor : Cursor) :
    (c.clients.ReportsStep cursor ∧ c.clients.EndsNormally cursor) ∧
      ∀ client, (c.ports client).ReportsStep cursor ∧ (c.ports client).EndsNormally cursor
  /-- A wait never answers that a call would block: it goes on, or gives up. -/
  waits {σ χ : Type} (m : Simulator σ χ) (bound : Nat) (p : Play (σ × Call.History) χ)
    (step : Step χ) (operation : Operation) (o : Outcome) :
    step.Performs p.session operation → operation.waits = true →
    p.session.connection.isOpen = true →
    let r := p.step m.recorded bound step
    r.1 = some o → (∀ call, o ≠ .error (.service call Status.wouldBlock)) ∧
      ∀ before x, r.2.scene.sequencer.2 = p.scene.sequencer.2 ++ (before ++ [x]) →
        x.answer = x.question.forced Status.wouldBlock → o.GivesUp
  /-- While a connection is opened, nothing follows a failure but the release of the sequencer. -/
  openings {σ χ : Type} (m : Simulator σ χ) (opening : Action Connection)
    (s : Scene (σ × Call.History) χ) (before after : Call.History)
    (x : Program.Exchange Call Call.Answer) (status : Status) :
    ((∃ config, opening = Connection.establish config) ∨
      ∃ name streams, opening = Connection.adopt name streams) →
    let r := opening.run.run (Scene.answer m.recorded) s
    r.2.sequencer.2 = s.sequencer.2 ++ (before ++ x :: after) → x.question.Fails x.answer status →
    (∀ y ∈ after, y.question = .release) ∧
      r.1 = some (.error (.service x.question.label status))

/-- No failure of a call goes unreported. -/
theorem failures_reported : FailuresReported where
  operations m bound p step operation before after x s := by
    intro hs r hl hf hx
    obtain ⟨h, result, ht, ho, -, passes⟩ :=
      Play.step_performs m.recorded bound p.scene.within_true step.within_true hs
    have calls : Dialogue.calls h = before ++ x :: after :=
      List.append_cancel_left (passes.log.symm.trans hl)
    have heeds := p.session.perform_heeds bound operation
    obtain ⟨last, reported⟩ := heeds.failed_call ht calls hf hx
    refine ⟨last, ?_⟩
    have outcome : r.1 = result.map Prod.fst := ho
    rw [outcome]
    cases result with
    | none => exact reported
    | some y => exact reported
  iterators c cursor :=
    ⟨⟨Enumeration.reportsStep rfl rfl c.heeds_clients,
      Enumeration.endsNormally_of_asksOnce c.asksOnce_nextClient⟩, fun client =>
      ⟨Enumeration.reportsStep rfl rfl (c.heeds_ports client),
        Enumeration.endsNormally_of_asksOnce (c.asksOnce_nextPort client)⟩⟩
  waits m bound p step operation o := by
    intro hs hw hc r ho
    obtain ⟨h, result, ht, ho', -, passes⟩ :=
      Play.step_performs m.recorded bound p.scene.within_true step.within_true hs
    have answered : result.map Prod.fst = some o := ho'.symm.trans ho
    obtain ⟨y, rfl, rfl⟩ := Option.map_eq_some_iff.1 answered
    obtain ⟨never, gives⟩ := Session.perform_waits hw hc ht
    refine ⟨never, fun before x hl hx => gives ?_⟩
    have calls : Dialogue.calls h = before ++ [x] :=
      List.append_cancel_left (passes.log.symm.trans hl)
    rw [calls]
    exact (Call.lastBlocked_append False before x).2 hx
  openings m opening s before after x status := by
    intro hopening r hl hf
    obtain ⟨h, ht, hlog⟩ := Dialogue.run_recorded m opening.run s
    have calls : Dialogue.calls h = before ++ x :: after :=
      List.append_cancel_left (hlog.symm.trans hl)
    rcases hopening with ⟨config, rfl⟩ | ⟨name, streams, rfl⟩
    · exact Connection.establish_reports config h _ before x after status ht calls hf
    · exact Connection.adopt_reports name streams h _ before x after status ht calls hf

/-- The second question of a listing is not answered. -/
theorem failures_reported_listing :
    let p : Play (Rehearsal × Call.History) Rehearsal.Change :=
      { session := { mode := .blocking, connection := { clientId := 128 } }
        scene := { sequencer := ({
          store := .initial 128
          script := ⟨[("query_next_client", [none, some (-5)])]⟩ }, []) } }
    let listing : Operation := .listPorts {}
    let system : ClientInfo := { clientId := 0, name := "System", clientType := some .kernel }
    let answered : Program.Exchange Call Call.Answer := ⟨.nextClient (-1), .ok system⟩
    let failed : Program.Exchange Call Call.Answer := ⟨.nextClient 0, .error (-5)⟩
    let r := p.step Rehearsal.simulator.recorded 9 (.perform listing)
    (r.2.scene.sequencer.2 = [answered, failed] ∧ failed.question.Fails failed.answer (-5) ∧
        ¬ (p.session.rules listing).Exempt failed.question (-5)) ∧
      r.1 = some (.error (.service failed.question.label (-5))) := by
  intro p listing system answered failed r
  have log : r.2.scene.sequencer.2 = [answered, failed] := rfl
  have fails : failed.question.Fails failed.answer (-5) := by
    refine ⟨by decide, ?_, rfl⟩
    intro release
    cases release
  have strict : ¬ (p.session.rules listing).Exempt failed.question (-5) := by
    simp [Rules.Exempt, Session.rules, Operation.waits, Operation.drops, listing, Status.notFound]
  obtain ⟨-, reported⟩ := failures_reported.operations Rehearsal.simulator 9 p (.perform listing)
    listing [answered] [] failed (-5) rfl log fails strict
  refine ⟨⟨log, fails, strict⟩, ?_⟩
  exact congrArg (fun e => some (Outcome.error e)) reported

end MidiSequencer
