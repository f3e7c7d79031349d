import MidiSequencer.Proofs.Opening.Served

/-! # What decides an opening

An opening delivers a connection iff none of its checks fails. Otherwise its error is that of the
first check that fails, nothing is asked past that check, and what was opened is released once. -/
namespace MidiSequencer

namespace Check

/-- What comes of checks: what is asked, and the result. Those of `front` come before anything is
open. -/
inductive Decides {α : Type} (front rest : List Check) (a : α) :
    Call.History → Except Error α → Prop where
  | passes (passed : ∀ check ∈ front ++ rest, check.error = none) :
      Decides front rest a ((front ++ rest).flatMap asked) (.ok a)
  | fails {before check after e} (first : front ++ rest = before ++ check :: after)
      (failed : check.error = some e) (passed : ∀ check ∈ before, check.error = none) :
      Decides front rest a (before.flatMap asked ++ check.asked ++
        if front.length ≤ before.length then [⟨.release, ()⟩] else []) (.error e)

variable {α : Type} {front rest before after : List Check} {check : Check} {e : Error} {a : α}
  {calls : Call.History} {result : Except Error α}

theorem passes_front_iff (first : front ++ rest = before ++ check :: after)
    (failed : check.error = some e) (passed : ∀ check ∈ before, check.error = none) :
    verdict front = none ↔ front.length ≤ before.length := by
  constructor
  · intro passes
    refine Nat.le_of_not_lt fun shorter => ?_
    have there : (front ++ rest)[before.length]? = some check := by
      rw [first, List.getElem?_append_right (Nat.le_refl _), Nat.sub_self]
      rfl
    rw [List.getElem?_append_left shorter] at there
    rw [verdict_eq_none_iff.1 passes check (List.mem_of_getElem? there)] at failed
    cases failed
  · intro longer
    have inside : front <+: before :=
      List.prefix_of_prefix_length_le (List.prefix_append front rest)
        (first ▸ List.prefix_append before _) longer
    exact verdict_eq_none_iff.2 fun check hc => passed check (inside.subset hc)

theorem calls_of_first (first : front ++ rest = before ++ check :: after)
    (failed : check.error = some e) (passed : ∀ check ∈ before, check.error = none) :
    Check.calls front rest = before.flatMap asked ++ check.asked ++
      if front.length ≤ before.length then [⟨.release, ()⟩] else [] := by
  have passes : verdict before = none := verdict_eq_none_iff.2 passed
  have fails : verdict (front ++ rest) = some e := by
    rw [first, verdict_append, passes, verdict_cons_of_error failed]
    rfl
  have released : verdict front = none ∧ verdict rest ≠ none ↔ front.length ≤ before.length := by
    rw [← passes_front_iff first failed passed]
    refine and_iff_left_of_imp fun opened none => ?_
    rw [verdict_append, opened, none] at fails
    cases fails
  simp only [Check.calls, released]
  rw [first, made_append_of_passes passes, made_of_passes passes, made_cons_of_error failed]

theorem decides_iff : Decides front rest a calls result ↔
    calls = Check.calls front rest ∧ result = conclude (front ++ rest) a := by
  constructor
  · intro decided
    cases decided with
    | passes passed =>
      have passes : verdict (front ++ rest) = none := verdict_eq_none_iff.2 passed
      have later : verdict rest = none :=
        verdict_eq_none_iff.2 fun check hc => passed check (List.mem_append_right _ hc)
      refine ⟨?_, by simp only [conclude, passes]⟩
      rw [Check.calls, made_of_passes passes, if_neg fun h => h.2 later, List.append_nil]
    | fails first failed passed =>
      have fails := verdict_eq_some_iff.2 ⟨_, _, _, first, failed, passed⟩
      exact ⟨(calls_of_first first failed passed).symm, by simp only [conclude, fails]⟩
  · rintro ⟨rfl, rfl⟩
    unfold conclude
    cases hv : verdict (front ++ rest) with
    | none =>
      have passed := verdict_eq_none_iff.1 hv
      have later : verdict rest = none :=
        verdict_eq_none_iff.2 fun check hc => passed check (List.mem_append_right _ hc)
      rw [Check.calls, made_of_passes hv, if_neg fun h => h.2 later, List.append_nil]
      exact .passes passed
    | some e =>
      obtain ⟨before, check, after, first, failed, passed⟩ := verdict_eq_some_iff.1 hv
      rw [calls_of_first first failed passed]
      exact .fails first failed passed

theorem Decides.isOk_iff (decided : Decides front rest a calls result) :
    (∃ b, result = .ok b) ↔ ∀ check ∈ front ++ rest, check.error = none := by
  obtain ⟨-, rfl⟩ := decides_iff.1 decided
  rw [← verdict_eq_none_iff]
  unfold conclude
  cases verdict (front ++ rest) <;> simp

/-- The release is counted where no check asks for one. -/
theorem releases_count_calls
    (silent : ∀ x ∈ (front ++ rest).flatMap asked, Deed.ofCall x.question x.answer ≠ .releases) :
    (Call.deeds (Check.calls front rest)).count .releases =
      if verdict front = none ∧ verdict rest ≠ none then 1 else 0 := by
  have before : (Call.deeds (made (front ++ rest))).count .releases = 0 := by
    refine List.count_eq_zero.2 fun there => ?_
    obtain ⟨x, hx, released⟩ := List.mem_map.1 there
    exact silent x ((made_isPrefix _).subset hx) released
  rw [Check.calls, Call.deeds_append, List.count_append, before, Nat.zero_add]
  split <;> rfl

theorem Decides.releases_count (decided : Decides front rest a calls result)
    (silent : ∀ x ∈ (front ++ rest).flatMap asked, Deed.ofCall x.question x.answer ≠ .releases) :
    (verdict front = none → (∃ e, result = .error e) →
      (Call.deeds calls).count .releases = 1) ∧
    ((verdict front = none → ∃ b, result = .ok b) → (Call.deeds calls).count .releases = 0) := by
  obtain ⟨rfl, rfl⟩ := decides_iff.1 decided
  rw [releases_count_calls silent]
  unfold conclude
  rw [verdict_append]
  cases verdict front <;> cases verdict rest <;> simp

end Check

namespace OpeningAnswers

variable (a : OpeningAnswers) (config : Config) (clientName : String) (streams : Streams)

theorem front_passes_iff : Check.verdict (a.front config) = none ↔
    '\x00' ∉ config.sequencer.toList ∧ 0 ≤ a.opened := by
  rw [Check.verdict_eq_none_iff]
  simp [front, Check.ofName, Check.ofStatus, Misuse.ofName?]

theorem described_iff : (Check.ofDescriptors a.descriptors).error = none ∧
    (Check.ofCount a.reported).error = none ∧ (Check.ofInterest streams a.reported).error = none ↔
      ∃ got, a.descriptors = .ok [got] ∧ got &&& streams.interest = streams.interest := by
  unfold reported
  cases a.descriptors with
  | error status => simp [Check.ofDescriptors]
  | ok found =>
    rcases found with _ | ⟨got, _ | ⟨second, more⟩⟩
    · simp [Check.ofCount, Except.toOption]
    · simp [Check.ofDescriptors, Check.ofCount, Check.ofInterest, Except.toOption]
    · simp [Check.ofCount, Except.toOption]

theorem taking_passes_iff : (∀ check ∈ a.taking clientName streams, check.error = none) ↔
    '\x00' ∉ clientName.toList ∧ 0 ≤ a.named ∧ 0 ≤ a.clientId ∧
      ∃ got, a.descriptors = .ok [got] ∧ got &&& streams.interest = streams.interest := by
  rw [← described_iff]
  simp [taking, Check.ofName, Check.ofStatus, Misuse.ofName?]

theorem silent_checks : ∀ x ∈ (a.front config ++ a.taking clientName streams).flatMap Check.asked,
    Deed.ofCall x.question x.answer ≠ .releases := by
  intro x hx
  simp only [front, taking, Check.ofName, Check.ofStatus, Check.ofDescriptors, Check.ofCount,
    Check.ofInterest, List.cons_append, List.nil_append, List.flatMap_cons, List.flatMap_nil,
    List.append_nil, List.mem_cons, List.not_mem_nil, or_false] at hx
  obtain rfl | rfl | rfl | rfl := hx
  · simp only [Deed.ofCall]
    split <;> simp
  all_goals simp [Deed.ofCall]

end OpeningAnswers

structure OpeningsDecided : Prop where
  /-- Every run of an opening is one that its checks decide, whatever is answered, and there is one
  for all answers. -/
  established (config : Config) (h : Dialogue.History) (o : Option (Except Error Connection)) :
    Program.Traces (Connection.establish config).run h o ↔
      ∃ (a : OpeningAnswers) (calls : Call.History) (result : Except Error Connection),
        h = Call.requests calls ∧ o = some result ∧
        Check.Decides (a.front config) (a.taking config.clientName config.streams) a.connection
          calls result
  adopted (clientName : String) (streams : Streams) (h : Dialogue.History)
    (o : Option (Except Error Connection)) :
    Program.Traces (Connection.adopt clientName streams).run h o ↔
      ∃ (a : OpeningAnswers) (calls : Call.History) (result : Except Error Connection),
        h = Call.requests calls ∧ o = some result ∧
        Check.Decides [] (a.taking clientName streams) a.connection calls result
  opened (a : OpeningAnswers) (config : Config) : Check.verdict (a.front config) = none ↔
    '\x00' ∉ config.sequencer.toList ∧ 0 ≤ a.opened
  taken (a : OpeningAnswers) (clientName : String) (streams : Streams) :
    (∀ check ∈ a.taking clientName streams, check.error = none) ↔
      '\x00' ∉ clientName.toList ∧ 0 ≤ a.named ∧ 0 ≤ a.clientId ∧
        ∃ got, a.descriptors = .ok [got] ∧ got &&& streams.interest = streams.interest
  /-- There is a connection iff all of this was answered. It is released once if it was opened and
  there is no connection, and otherwise not at all. -/
  decided {a : OpeningAnswers} {config : Config} {front : List Check} {calls : Call.History}
    {result : Except Error Connection} : front = [] ∨ front = a.front config →
    Check.Decides front (a.taking config.clientName config.streams) a.connection calls result →
    ((∃ c, result = .ok c) ↔ Check.verdict front = none ∧
      ∀ check ∈ a.taking config.clientName config.streams, check.error = none) ∧
    (Check.verdict front = none → (∃ e, result = .error e) →
      (Call.deeds calls).count .releases = 1) ∧
    ((Check.verdict front = none → ∃ c, result = .ok c) →
      (Call.deeds calls).count .releases = 0)
  /-- Behind a connection that a native library serves, the answers are those of the library. It is
  called for nothing else, and closes the handle that it delivered when it is released. -/
  served {σ χ : Type} (m : Native.Library σ) (change : χ → σ → σ) (config : Config)
    (s : Scene σ χ) :
    let n := Native.Served.simulator (Machine.recorded m) (Native.unrecorded change)
    let r := (Connection.establish config).run.run (Scene.answer n) (Native.Scene.served s)
    let a := m.openingAnswers config s.sequencer
    ∃ (calls : Call.History) (result : Except Error Connection), r.1 = some result ∧
      Check.Decides (a.served.front config) (a.served.taking config.clientName config.streams)
        a.served.connection calls result ∧
      Native.Scene.nativeCalls r.2 = a.ofHistory calls ∧
      (Native.Scene.nativeCalls r.2).count .closeHandle =
        if a.opened.2 then (Call.deeds calls).count .releases else 0
  counted {σ : Type} (m : Native.Library σ) (config : Config) (s : σ) : m.Fills →
    let a := m.openingAnswers config s
    0 ≤ a.count → 0 ≤ a.filled.1 →
      a.served.reported.length = min a.filled.1.toNat a.count.toNat

theorem openings_decided : OpeningsDecided where
  established config h o := by
    simp only [Check.decides_iff]
    rw [Connection.traces_establish_iff]
    refine exists_congr fun a => ?_
    constructor
    · rintro ⟨rfl, rfl⟩
      exact ⟨_, _, rfl, rfl, rfl, rfl⟩
    · rintro ⟨calls, result, rfl, rfl, rfl, rfl⟩
      exact ⟨rfl, rfl⟩
  adopted clientName streams h o := by
    simp only [Check.decides_iff]
    rw [Connection.traces_adopt_iff]
    refine exists_congr fun a => ?_
    constructor
    · rintro ⟨rfl, rfl⟩
      exact ⟨_, _, rfl, rfl, rfl, rfl⟩
    · rintro ⟨calls, result, rfl, rfl, rfl, rfl⟩
      exact ⟨rfl, rfl⟩
  opened a config := a.front_passes_iff config
  taken a clientName streams := a.taking_passes_iff clientName streams
  decided := by
    intro a config front calls result hf decided
    have silent : ∀ x ∈ (front ++ a.taking config.clientName config.streams).flatMap Check.asked,
        Deed.ofCall x.question x.answer ≠ .releases := by
      have all := a.silent_checks config config.clientName config.streams
      obtain rfl | rfl := hf
      · intro x hx
        refine all x ?_
        rw [List.flatMap_append]
        exact List.mem_append_right _ hx
      · exact all
    refine ⟨?_, decided.releases_count silent⟩
    rw [decided.isOk_iff, List.forall_mem_append, Check.verdict_eq_none_iff]
  served m change config s := by
    obtain ⟨ends, calls⟩ := Native.opening_served m change config s
    refine ⟨_, _, ends, Check.decides_iff.2 ⟨rfl, rfl⟩, calls, ?_⟩
    rw [calls]
    exact Native.OpeningAnswers.closes_count _ _
  counted m config s fills := Native.Library.length_reported fills config s

/-- A served opening that is told of one descriptor, for input only. -/
example : ((Connection.establish {}).run.run (Scene.answer Native.Rehearsal.simulator)
    { sequencer := { tables := { kernel := { interest := 1 } } } }).1 =
      some (.error (.pollEvents 5 1)) :=
  rfl

end MidiSequencer
