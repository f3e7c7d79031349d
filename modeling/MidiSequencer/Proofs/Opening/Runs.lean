import MidiSequencer.Proofs.Opening.Checks

/-! # Runs of an opening

Opening and taking over ask what their checks say, and release what is open if one of them fails. -/
namespace MidiSequencer

open Program

theorem Action.run_checked_command {α : Type} (c : Command) (f : Status → Action α) :
    (Action.perform (.command c) >>= fun status =>
      liftM (checkStatus (.command c) status) >>= f).run =
      .ask (.call (.command c)) fun (status : Status) =>
        if status < 0 then .done (.error (.service (Call.label (.command c)) status))
        else (f status).run := by
  refine congrArg (Program.ask _) (funext fun (status : Status) => ?_)
  show (liftM (checkStatus (.command c) status) >>= f : Action α).run = _
  by_cases negative : status < 0
  · simp only [checkStatus, if_pos negative]
    rfl
  · simp only [checkStatus, if_neg negative]
    rfl

theorem Connection.run_register {clientName : String} (streams : Streams)
    (hn : Misuse.ofName? clientName = none) :
    (register clientName streams).run =
      .ask (.call (.command (.setClientName clientName))) fun (named : Status) =>
        if named < 0 then
          .done (.error (.service (Call.label (.command (.setClientName clientName))) named))
        else .ask (.call (.command .clientId)) fun (clientId : Status) =>
          if clientId < 0 then .done (.error (.service (Call.label (.command .clientId)) clientId))
          else .ask (.call .pollDescriptors) fun (answer : Except Status (List UInt16)) =>
            .done ((checkAnswer .pollDescriptors answer >>= checkDescriptors streams).map fun _ =>
              { clientId }) := by
  have described (clientId : Status) : (Action.perform .pollDescriptors >>= fun answer =>
      liftM (checkAnswer .pollDescriptors answer) >>= fun reported =>
        liftM (checkDescriptors streams reported) >>= fun _ =>
          (pure { clientId } : Action Connection)).run =
      .ask (.call .pollDescriptors) fun (answer : Except Status (List UInt16)) =>
        .done ((checkAnswer .pollDescriptors answer >>= checkDescriptors streams).map fun _ =>
          { clientId }) := by
    refine congrArg (Program.ask _) (funext fun (answer : Except Status (List UInt16)) => ?_)
    cases answer with
    | error status => rfl
    | ok reported =>
      show (liftM (checkDescriptors streams reported) >>= fun _ => _ : Action Connection).run =
        .done ((checkDescriptors streams reported).map _)
      cases checkDescriptors streams reported <;> rfl
  unfold register
  rw [checkName_eq, hn]
  refine (Action.run_checked_command _ _).trans ?_
  refine congrArg (Program.ask _) (funext fun (named : Status) => congrArg (ite _ _) ?_)
  refine (Action.run_checked_command _ _).trans ?_
  refine congrArg (Program.ask _) (funext fun (clientId : Status) => congrArg (ite _ _) ?_)
  exact described clientId

namespace OpeningAnswers

variable (a : OpeningAnswers)

theorem conclude_described {α : Type} (streams : Streams) (c : α) :
    Check.conclude [.ofDescriptors a.descriptors, .ofCount a.reported,
      .ofInterest streams a.reported] c =
      (checkAnswer .pollDescriptors a.descriptors >>= Connection.checkDescriptors streams).map
        fun _ => c := by
  unfold reported
  cases a.descriptors with
  | error status => rfl
  | ok reported =>
    show _ = (Connection.checkDescriptors streams reported).map _
    match reported with
    | [] => rfl
    | [got] =>
      unfold Connection.checkDescriptors
      by_cases h : got &&& streams.interest = streams.interest
      · simp [Check.conclude, Check.verdict, Check.ofDescriptors, Check.ofCount, Check.ofInterest,
          Except.toOption, Except.map, h]
      · simp [Check.conclude, Check.verdict, Check.ofDescriptors, Check.ofCount, Check.ofInterest,
          Except.toOption, Except.map, h]
    | first :: second :: more => rfl

theorem made_described (streams : Streams) :
    Check.made [.ofDescriptors a.descriptors, .ofCount a.reported,
      .ofInterest streams a.reported] = [⟨.pollDescriptors, a.descriptors⟩] := by
  have silent : Check.made [.ofCount a.reported, .ofInterest streams a.reported] = [] :=
    Check.made_of_silent (by simp [Check.ofCount, Check.ofInterest])
  rw [Check.made, silent, ite_self]
  rfl

end OpeningAnswers

theorem traces_status_iff {α : Type} {c : Command} {next : Status → Dialogue (Except Error α)}
    {h : Dialogue.History} {o : Option (Except Error α)} :
    Traces (.ask (.call (.command c)) fun (status : Status) =>
        if status < 0 then .done (.error (.service (Call.label (.command c)) status))
        else next status) h o ↔
      ∃ (status : Status) (t : Dialogue.History), h = ⟨.call (.command c), status⟩ :: t ∧
        (status < 0 → t = [] ∧ o = some (.error (.service (Call.label (.command c)) status))) ∧
        (¬ status < 0 → Traces (next status) t o) := by
  rw [traces_ask_iff]
  refine exists_congr fun (status : Status) => exists_congr fun t => and_congr_right fun _ => ?_
  by_cases negative : status < 0
  · rw [if_pos negative, traces_done_iff]
    exact ⟨fun ends => ⟨fun _ => ends, fun hn => absurd negative hn⟩, fun ends => ends.1 negative⟩
  · rw [if_neg negative]
    exact ⟨fun ht => ⟨fun hn => absurd hn negative, fun _ => ht⟩, fun ends => ends.2 negative⟩

theorem Check.requests_ofStatus (c : Command) (status : Status) (rest : List Check) :
    Call.requests (made (.ofStatus c status :: rest)) =
      ⟨.call (.command c), status⟩ :: if status < 0 then [] else Call.requests (made rest) := by
  by_cases negative : status < 0
  · rw [made_cons_of_error (ofStatus_of_neg negative), if_pos negative]
    rfl
  · rw [made_cons_of_none (ofStatus_of_not_neg negative), if_neg negative]
    rfl

theorem Check.conclude_ofStatus {α : Type} (c : Command) (status : Status) (rest : List Check)
    (a : α) : conclude (.ofStatus c status :: rest) a =
      if status < 0 then .error (.service (Call.label (.command c)) status)
      else conclude rest a := by
  by_cases negative : status < 0
  · rw [conclude_cons_of_error (ofStatus_of_neg negative), if_pos negative]
  · rw [conclude_cons_of_none (ofStatus_of_not_neg negative), if_neg negative]

namespace Connection

variable {h : Dialogue.History} {o : Option (Except Error Connection)}

theorem traces_register_iff_of_misnamed {clientName : String} {streams : Streams} {m : Misuse}
    (hn : Misuse.ofName? clientName = some m) :
    Traces (register clientName streams).run h o ↔
      ∃ a : OpeningAnswers, h = Call.requests (Check.made (a.taking clientName streams)) ∧
        o = some (Check.conclude (a.taking clientName streams) a.connection) := by
  have failed : (Check.ofName clientName).error = some (.usage m) := by simp [Check.ofName, hn]
  unfold OpeningAnswers.taking register
  rw [checkName_eq, hn]
  simp only [Check.made_cons_of_error failed, Check.conclude_cons_of_error failed]
  show Traces (.done (.error (.usage m))) h o ↔ _
  rw [traces_done_iff]
  constructor
  · rintro ⟨hh, ho⟩
    exact ⟨{}, hh, ho⟩
  · rintro ⟨-, hh, ho⟩
    exact ⟨hh, ho⟩

theorem traces_register_iff_of_named {clientName : String} {streams : Streams}
    (hn : Misuse.ofName? clientName = none) :
    Traces (register clientName streams).run h o ↔
      ∃ a : OpeningAnswers, h = Call.requests (Check.made (a.taking clientName streams)) ∧
        o = some (Check.conclude (a.taking clientName streams) a.connection) := by
  have named := Check.ofName_of_none hn
  unfold OpeningAnswers.taking
  rw [run_register streams hn, traces_status_iff]
  simp only [Check.made_cons_of_none named, Check.conclude_cons_of_none named]
  show _ ↔ ∃ a : OpeningAnswers, h = Call.requests (Check.made (Check.ofStatus _ _ :: _)) ∧ _
  simp only [Check.requests_ofStatus, Check.conclude_ofStatus, OpeningAnswers.made_described,
    OpeningAnswers.conclude_described]
  constructor
  · rintro ⟨named, t, rfl, failed, later⟩
    by_cases negative : named < 0
    · obtain ⟨rfl, rfl⟩ := failed negative
      exact ⟨{ named }, by rw [if_pos negative], by rw [if_pos negative]⟩
    · obtain ⟨clientId, t, rfl, failed, later⟩ :=
        traces_status_iff.1 (later negative)
      by_cases negative' : clientId < 0
      · obtain ⟨rfl, rfl⟩ := failed negative'
        refine ⟨{ named, clientId }, ?_, ?_⟩
        · rw [if_neg negative, if_pos negative']
        · rw [if_neg negative, if_pos negative']
      · obtain ⟨answer, t, rfl, hd⟩ := traces_ask_iff.1 (later negative')
        obtain ⟨rfl, rfl⟩ := traces_done_iff.1 hd
        refine ⟨{ named, clientId, descriptors := answer }, ?_, ?_⟩
        · rw [if_neg negative, if_neg negative']
          rfl
        · rw [if_neg negative, if_neg negative']
          rfl
  · rintro ⟨a, rfl, rfl⟩
    refine ⟨a.named, _, rfl, fun negative => ?_, fun negative => ?_⟩
    · rw [if_pos negative, if_pos negative]
      exact ⟨rfl, rfl⟩
    · rw [if_neg negative, if_neg negative, traces_status_iff]
      refine ⟨a.clientId, _, rfl, fun negative => ?_, fun negative => ?_⟩
      · rw [if_pos negative, if_pos negative]
        exact ⟨rfl, rfl⟩
      · rw [if_neg negative, if_neg negative]
        exact .ask (.done _)

/-- The runs of taking over are those that its checks describe, for all answers. -/
theorem traces_register_iff {clientName : String} {streams : Streams} :
    Traces (register clientName streams).run h o ↔
      ∃ a : OpeningAnswers, h = Call.requests (Check.made (a.taking clientName streams)) ∧
        o = some (Check.conclude (a.taking clientName streams) a.connection) := by
  cases hn : Misuse.ofName? clientName with
  | some m => exact traces_register_iff_of_misnamed hn
  | none => exact traces_register_iff_of_named hn

theorem traces_adopt_iff {clientName : String} {streams : Streams} :
    Traces (adopt clientName streams).run h o ↔
      ∃ a : OpeningAnswers, h = Call.requests (Check.calls [] (a.taking clientName streams)) ∧
        o = some (Check.conclude (a.taking clientName streams) a.connection) := by
  have register (a : OpeningAnswers) : Traces (register clientName streams).run
      (Call.requests (Check.made (a.taking clientName streams)))
      (some (Check.conclude (a.taking clientName streams) a.connection)) :=
    traces_register_iff.2 ⟨a, rfl, rfl⟩
  rw [run_adopt]
  constructor
  · intro ht
    obtain ⟨h₁, x, h₂, rfl, ht₁, ht₂⟩ :=
      traces_bind_of_ends (plainly_register clientName streams).ends ht
    obtain ⟨a, rfl, hx⟩ := traces_register_iff.1 ht₁
    obtain rfl := Option.some.inj hx
    refine ⟨a, ?_⟩
    unfold Check.conclude at ht₂ ⊢
    cases hv : Check.verdict (a.taking clientName streams) with
    | none =>
      rw [hv] at ht₂
      obtain ⟨rfl, rfl⟩ := traces_done_iff.1 ht₂
      rw [Check.calls_nil_of_passes hv, List.append_nil]
      exact ⟨rfl, rfl⟩
    | some e =>
      rw [hv] at ht₂
      obtain ⟨⟨⟩, t, rfl, hd⟩ := traces_ask_iff.1 ht₂
      obtain ⟨rfl, rfl⟩ := traces_done_iff.1 hd
      rw [Check.calls_nil_of_fails (by simp [hv]), Call.requests_append]
      exact ⟨rfl, rfl⟩
  · rintro ⟨a, rfl, rfl⟩
    have taken := register a
    unfold Check.conclude at taken ⊢
    cases hv : Check.verdict (a.taking clientName streams) with
    | none =>
      rw [hv] at taken
      rw [Check.calls_nil_of_passes hv]
      exact traces_bind_iff.2 (.inl ⟨_, _, [], (List.append_nil _).symm, taken, .done _⟩)
    | some e =>
      rw [hv] at taken
      rw [Check.calls_nil_of_fails (by simp [hv]), Call.requests_append]
      exact traces_bind_iff.2 (.inl ⟨_, _, _, rfl, taken, .ask (.done _)⟩)

theorem traces_establish_iff_of_misnamed {config : Config} {m : Misuse}
    (hn : Misuse.ofName? config.sequencer = some m) :
    Traces (establish config).run h o ↔
      ∃ a : OpeningAnswers, h = Call.requests (Check.calls (a.front config)
          (a.taking config.clientName config.streams)) ∧
        o = some (Check.conclude (a.checks config) a.connection) := by
  have failed : (Check.ofName config.sequencer).error = some (.usage m) := by
    simp [Check.ofName, hn]
  have verdict (a : OpeningAnswers) : Check.verdict (a.front config) = some (.usage m) :=
    Check.verdict_cons_of_error failed
  have fails (a : OpeningAnswers) : Check.verdict (a.front config) ≠ none := by simp [verdict]
  have made (a : OpeningAnswers) : Check.made (a.front config) = [] :=
    Check.made_cons_of_error failed
  unfold OpeningAnswers.checks establish
  rw [checkName_eq, hn]
  simp only [Check.calls_of_fails (fails _), Check.conclude_append_of_fails (verdict _), made]
  show Traces (.done (.error (.usage m))) h o ↔ _
  rw [traces_done_iff]
  constructor
  · rintro ⟨hh, ho⟩
    exact ⟨{}, hh, ho⟩
  · rintro ⟨-, hh, ho⟩
    exact ⟨hh, ho⟩

theorem traces_establish_iff_of_named {config : Config}
    (hn : Misuse.ofName? config.sequencer = none) :
    Traces (establish config).run h o ↔
      ∃ a : OpeningAnswers, h = Call.requests (Check.calls (a.front config)
          (a.taking config.clientName config.streams)) ∧
        o = some (Check.conclude (a.checks config) a.connection) := by
  have checked : checkName config.sequencer = .ok config.sequencer := by
    rw [checkName_eq, hn]
    rfl
  have fails {a : OpeningAnswers} (negative : a.opened < 0) :
      Check.verdict (a.front config) = some (.service "snd_seq_open" a.opened) := by
    rw [a.verdict_front hn, if_pos negative]
  have passes {a : OpeningAnswers} (negative : ¬ a.opened < 0) :
      Check.verdict (a.front config) = none := by
    rw [a.verdict_front hn, if_neg negative]
  unfold OpeningAnswers.checks
  rw [run_establish checked]
  constructor
  · intro ht
    obtain ⟨status, t, rfl, failed, later⟩ := traces_status_iff
      (c := .openSequencer config.sequencer config.streams config.mode).1 ht
    by_cases negative : status < 0
    · obtain ⟨rfl, rfl⟩ := failed negative
      have failed := fails (a := { opened := status }) negative
      refine ⟨{ opened := status }, ?_, ?_⟩
      · rw [Check.calls_of_fails (by simp [failed]), OpeningAnswers.made_front hn]
        rfl
      · rw [Check.conclude_append_of_fails failed]
        rfl
    · obtain ⟨a, rfl, rfl⟩ := traces_adopt_iff.1 (later negative)
      have passed := passes (a := { a with opened := status }) negative
      refine ⟨{ a with opened := status }, ?_, ?_⟩
      · rw [Check.calls_of_passes passed, OpeningAnswers.made_front hn]
        rfl
      · rw [Check.conclude_append_of_passes passed]
        rfl
  · rintro ⟨a, rfl, rfl⟩
    by_cases negative : a.opened < 0
    · have failed := fails negative
      rw [Check.calls_of_fails (by simp [failed]), a.made_front hn,
        Check.conclude_append_of_fails failed]
      refine .ask ?_
      rw [if_pos negative]
      exact .done _
    · have passed := passes negative
      rw [Check.calls_of_passes passed, a.made_front hn, Check.conclude_append_of_passes passed]
      refine .ask ?_
      rw [if_neg negative]
      exact traces_adopt_iff.2 ⟨a, rfl, rfl⟩

theorem traces_establish_iff {config : Config} :
    Traces (establish config).run h o ↔
      ∃ a : OpeningAnswers, h = Call.requests (Check.calls (a.front config)
          (a.taking config.clientName config.streams)) ∧
        o = some (Check.conclude (a.checks config) a.connection) := by
  cases hn : Misuse.ofName? config.sequencer with
  | some m => exact traces_establish_iff_of_misnamed hn
  | none => exact traces_establish_iff_of_named hn

end Connection

end MidiSequencer
