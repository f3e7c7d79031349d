import MidiSequencer.Proofs.Opening.Runs
import MidiSequencer.Proofs.Resources.Handles

/-! # Openings that are served

Behind a connection that a native library serves, the checks of an opening are those of the
library's answers: each call is one native call, but for the descriptors, which are counted before
they are asked for. -/
namespace MidiSequencer.Native

variable {σ χ : Type}

structure OpeningAnswers where
  opened : Status × Bool
  named : Status
  clientId : Status
  count : Status
  filled : Status × List UInt16

namespace OpeningAnswers

variable (a : OpeningAnswers)

def descriptors : Except Status (List UInt16) :=
  if a.count < 0 then .error a.count
  else if a.filled.1 < 0 then .error a.filled.1
  else .ok (a.filled.2.take a.filled.1.toNat)

def served : MidiSequencer.OpeningAnswers where
  opened := a.opened.1
  named := a.named
  clientId := a.clientId
  descriptors := a.descriptors

/-- The native calls for a call. Descriptors that cannot be counted are not asked for, and only a
handle that was delivered is closed. -/
def nativeCalls : Call → List NativeCall
  | .command (.openSequencer name streams mode) => [.openHandle name streams.code mode]
  | .command (.setClientName name) => [.setClientName name]
  | .command .clientId => [.clientId]
  | .pollDescriptors =>
    let events := Streams.duplex.interest
    .pollCount events :: if a.count < 0 then [] else [.pollDescriptors a.count.toNat events]
  | .release => if a.opened.2 then [.closeHandle] else []
  | _ => []

def ofHistory (calls : Call.History) : List NativeCall :=
  calls.flatMap fun x => a.nativeCalls x.question

theorem count_nativeCalls (c : Call) (answer : c.Answer) :
    (a.nativeCalls c).count .closeHandle =
      if a.opened.2 then [Deed.ofCall c answer].count .releases else 0 := by
  have nothing {d : Deed} {calls : List NativeCall} (hd : d ≠ .releases)
      (hc : .closeHandle ∉ calls) :
      calls.count .closeHandle = if a.opened.2 then [d].count .releases else 0 := by
    rw [List.count_eq_zero.2 hc, List.count_eq_zero.2 (by simpa using hd.symm), ite_self]
  cases c with
  | release =>
    show List.count _ (if a.opened.2 then [NativeCall.closeHandle] else []) = _
    split <;> rfl
  | pollDescriptors =>
    refine nothing (by simp [Deed.ofCall]) ?_
    show NativeCall.closeHandle ∉ NativeCall.pollCount _ :: ite _ _ _
    split <;> simp
  | command c =>
    refine nothing ?_ (by cases c <;> simp [nativeCalls])
    cases c <;> simp only [Deed.ofCall] <;> first | exact Deed.noConfusion | (split <;> simp)
  | _ => exact nothing (by simp [Deed.ofCall]) (by simp [nativeCalls])

theorem closes_count (calls : Call.History) : (a.ofHistory calls).count .closeHandle =
    if a.opened.2 then (Call.deeds calls).count .releases else 0 := by
  induction calls with
  | nil => exact (ite_self 0).symm
  | cons x calls ih =>
    have first := a.count_nativeCalls x.question x.answer
    unfold ofHistory at ih ⊢
    rw [List.flatMap_cons, List.count_append, ih, first]
    show _ = if a.opened.2 then ([Deed.ofCall x.question x.answer] ++ Call.deeds calls).count _
      else 0
    rw [List.count_append]
    split <;> rfl

end OpeningAnswers

namespace Library

variable (m : Library σ)

def openingAnswers (config : Config) (s : σ) : OpeningAnswers :=
  let events := Streams.duplex.interest
  let opened := m (.openHandle config.sequencer config.streams.code config.mode) s
  let named := m (.setClientName config.clientName) opened.2
  let clientId := m .clientId named.2
  let count := m (.pollCount events) clientId.2
  let filled := m (.pollDescriptors (Int.toNat count.1) events) count.2
  { opened := opened.1, named := named.1, clientId := clientId.1, count := count.1
    filled := filled.1 }

def Fills : Prop :=
  ∀ space events s, (m (.pollDescriptors space events) s).1.2.length = space

theorem length_reported {m : Library σ} (fills : m.Fills) (config : Config) (s : σ) :
    let a := m.openingAnswers config s
    0 ≤ a.count → 0 ≤ a.filled.1 →
      a.served.reported.length = min a.filled.1.toNat a.count.toNat := by
  intro a counted filled
  have space : a.filled.2.length = a.count.toNat := fills _ _ _
  have found : a.served.reported = a.filled.2.take a.filled.1.toNat := by
    unfold MidiSequencer.OpeningAnswers.reported OpeningAnswers.served OpeningAnswers.descriptors
    simp only [if_neg (Int.not_lt.2 counted), if_neg (Int.not_lt.2 filled)]
    rfl
  rw [found, List.length_take, space]

end Library

theorem Tables.fills : Tables.library.Fills := by
  intro space events t
  unfold Tables.library
  rcases t.script.take (NativeCall.pollDescriptors space events).name with ⟨_ | status, script⟩
  · exact List.length_replicate
  · exact List.length_replicate

def Scene.nativeCalls (s : Scene (Served (σ × NativeCall.History)) χ) : List NativeCall :=
  s.sequencer.tables.2.map Program.Exchange.question

theorem Scene.answer_call {τ : Type} (n : Simulator τ χ) (c : Call) (s : Scene τ χ) :
    (Scene.answer n (.call c) s).1 = (n.answer c s.sequencer).1 ∧
      (Scene.answer n (.call c) s).2.sequencer = (n.answer c s.sequencer).2 := by
  cases c <;> exact ⟨rfl, rfl⟩

/-- The library serves calls with these answers, by the native calls that `by_` names. Whether a
handle is held is followed from call to call. -/
inductive ServesAll (m : Library σ) (natively : Call → List NativeCall) :
    σ → Bool → Call.History → σ → Bool → Prop where
  | nil (s held) : ServesAll m natively s held [] s held
  | cons {s held t held' u held''} {c : Call} {answer : c.Answer} {h : Call.History}
      (serves : ∀ log : NativeCall.History, ∃ more : NativeCall.History,
        more.map Program.Exchange.question = natively c ∧
        Served.answer (Machine.recorded m) c ⟨(s, log), held⟩ = (answer, ⟨(t, log ++ more), held'⟩))
      (rest : ServesAll m natively t held' h u held'') :
      ServesAll m natively s held (⟨c, answer⟩ :: h) u held''

namespace ServesAll

variable {m : Library σ} {natively : Call → List NativeCall} {s t u : σ} {held held' held'' : Bool}
  {h more : Call.History}

theorem append (first : ServesAll m natively s held h t held')
    (second : ServesAll m natively t held' more u held'') :
    ServesAll m natively s held (h ++ more) u held'' := by
  induction first with
  | nil => exact second
  | cons serves rest ih => exact .cons serves (ih second)

theorem of_append (all : ServesAll m natively s held (h ++ more) u held'') :
    ∃ t held', ServesAll m natively s held h t held' := by
  induction h generalizing s held with
  | nil => exact ⟨s, held, .nil s held⟩
  | cons x h ih =>
    cases all with
    | cons serves rest =>
      obtain ⟨t, held', first⟩ := ih rest
      exact ⟨t, held', .cons serves first⟩

theorem run {change : χ → σ → σ} (serves : ServesAll m natively s held h t held') {α : Type}
    {p : Dialogue α} {o : Option α} (ht : Program.Traces p (Call.requests h) o)
    {scene : Scene (Served (σ × NativeCall.History)) χ} {log : NativeCall.History}
    (hs : scene.sequencer = ⟨(s, log), held⟩) :
    let r := p.run (Scene.answer (Served.simulator (Machine.recorded m) (unrecorded change))) scene
    r.1 = o ∧ Scene.nativeCalls r.2 = Scene.nativeCalls scene ++
      h.flatMap fun x => natively x.question := by
  induction serves generalizing p scene log with
  | nil s held =>
    cases ht with
    | done a => exact ⟨rfl, (List.append_nil _).symm⟩
    | unfinished => exact ⟨rfl, (List.append_nil _).symm⟩
  | @cons s held t held' u held'' c answer h serves rest ih =>
    obtain ⟨more, made, answered⟩ := serves log
    cases ht with
    | @ask _ k _ _ _ later =>
      obtain ⟨told, after⟩ :=
        Scene.answer_call (Served.simulator (Machine.recorded m) (unrecorded change)) c scene
      have answers : (Served.simulator (Machine.recorded m) (unrecorded change)).answer c
          scene.sequencer = (answer, ⟨(t, log ++ more), held'⟩) := by
        rw [hs]
        exact answered
      rw [answers] at told after
      obtain ⟨ends, calls⟩ := ih (p := k answer) later after
      rw [Program.run, told]
      refine ⟨ends, ?_⟩
      rw [calls, List.flatMap_cons, ← List.append_assoc]
      unfold Scene.nativeCalls
      rw [after, hs, List.map_append, made]

theorem of_isPrefix (all : ServesAll m natively s held more u held'') (hp : h <+: more) :
    ∃ t held', ServesAll m natively s held h t held' := by
  obtain ⟨rest, rfl⟩ := hp
  exact all.of_append

theorem held_eq (all : ServesAll m natively s held h t held')
    (plain : ∀ x ∈ h, x.question.isHandling = false) : held' = held := by
  induction all with
  | nil => rfl
  | @cons s held t held' u held'' c answer h serves rest ih =>
    obtain ⟨first, later⟩ := List.forall_mem_cons.1 plain
    obtain ⟨more, -, answered⟩ := serves []
    rw [answer_of_isHandling _ _ first] at answered
    have same : held = held' := congrArg (fun x => x.2.held) answered
    rw [ih later, same]

end ServesAll

theorem serves_descriptors (m : Library σ) (s : σ) (held : Bool) :
    let events := Streams.duplex.interest
    let count := m (.pollCount events) s
    let filled := m (.pollDescriptors (Int.toNat count.1) events) count.2
    ∃ t, ∀ log : NativeCall.History, ∃ more : NativeCall.History,
      more.map Program.Exchange.question = (.pollCount events ::
        if count.1 < 0 then [] else [.pollDescriptors (Int.toNat count.1) events]) ∧
      Served.answer (Machine.recorded m) .pollDescriptors ⟨(s, log), held⟩ =
        (if count.1 < 0 then .error count.1 else if filled.1.1 < 0 then .error filled.1.1
          else .ok (filled.1.2.take (Int.toNat filled.1.1)), ⟨(t, log ++ more), held⟩) := by
  intro events count filled
  have counted (log : NativeCall.History) :
      Library.serve (Machine.recorded m) .pollDescriptors (s, log) =
        (if count.1 < 0 then
            (pure (.error count.1) : StateM (σ × NativeCall.History) (Except Status (List UInt16)))
          else do
            let (found, reported) ← Library.call (Machine.recorded m)
              (.pollDescriptors (Int.toNat count.1) events)
            if found < 0 then return .error found
            else return .ok (reported.take found.toNat))
          (count.2, log ++ [⟨.pollCount events, count.1⟩]) := rfl
  by_cases failed : count.1 < 0
  · refine ⟨count.2, fun log => ⟨[⟨.pollCount events, count.1⟩], ?_, ?_⟩⟩
    · rw [if_pos failed]
      rfl
    · rw [answer_of_isHandling _ _ rfl, counted, if_pos failed, if_pos failed]
      rfl
  · refine ⟨filled.2, fun log => ⟨[⟨.pollCount events, count.1⟩,
      ⟨.pollDescriptors (Int.toNat count.1) events, filled.1⟩], ?_, ?_⟩⟩
    · rw [if_neg failed]
      rfl
    · have described : Library.serve (Machine.recorded m) .pollDescriptors (s, log) =
          (if filled.1.1 < 0 then
              (pure (.error filled.1.1) :
                StateM (σ × NativeCall.History) (Except Status (List UInt16)))
            else return .ok (filled.1.2.take (Int.toNat filled.1.1)))
            (filled.2, (log ++ [⟨.pollCount events, count.1⟩]) ++
              [⟨.pollDescriptors (Int.toNat count.1) events, filled.1⟩]) := by
        rw [counted, if_neg failed]
        rfl
      rw [answer_of_isHandling _ _ rfl, described, if_neg failed, List.append_assoc]
      by_cases missing : filled.1.1 < 0
      · rw [if_pos missing, if_pos missing]
        rfl
      · rw [if_neg missing, if_neg missing]
        rfl

section

variable (m : Library σ) (config : Config) (s : σ)

def Library.afterOpen : σ :=
  (m (.openHandle config.sequencer config.streams.code config.mode) s).2

theorem servesAll_open : ServesAll m (m.openingAnswers config s).nativeCalls s false
    [⟨.command (.openSequencer config.sequencer config.streams config.mode),
      (m.openingAnswers config s).served.opened⟩]
    (m.afterOpen config s) (m.openingAnswers config s).opened.2 :=
  .cons (fun _ => ⟨[⟨.openHandle config.sequencer config.streams.code config.mode, _⟩], rfl, rfl⟩)
    (.nil _ _)

theorem servesAll_taking : ∃ t held', ServesAll m (m.openingAnswers config s).nativeCalls
    (m.afterOpen config s) (m.openingAnswers config s).opened.2
    [⟨.command (.setClientName config.clientName), (m.openingAnswers config s).served.named⟩,
      ⟨.command .clientId, (m.openingAnswers config s).served.clientId⟩,
      ⟨.pollDescriptors, (m.openingAnswers config s).served.descriptors⟩] t held' := by
  obtain ⟨t, described⟩ := serves_descriptors m
    (m .clientId (m (.setClientName config.clientName) (m.afterOpen config s)).2).2
    (m.openingAnswers config s).opened.2
  exact ⟨t, _, .cons (fun _ => ⟨[⟨.setClientName config.clientName, _⟩], rfl, rfl⟩)
    (.cons (fun _ => ⟨[⟨.clientId, _⟩], rfl, rfl⟩) (.cons described (.nil _ _)))⟩

theorem servesAll_release {natively : Call → List NativeCall} (t : σ) {held : Bool}
    (closes : natively .release = if held then [.closeHandle] else []) :
    ∃ u, ServesAll m natively t held [⟨.release, ()⟩] u false := by
  cases held with
  | false =>
    refine ⟨t, .cons (fun log => ⟨[], closes.symm, ?_⟩) (.nil _ _)⟩
    rw [List.append_nil]
    rfl
  | true =>
    exact ⟨(m .closeHandle t).2, .cons
      (fun _ => ⟨[⟨.closeHandle, (m .closeHandle t).1⟩], closes.symm, rfl⟩) (.nil _ _)⟩

theorem servesAll_calls : ∃ t held', ServesAll m (m.openingAnswers config s).nativeCalls s false
    (Check.calls ((m.openingAnswers config s).served.front config)
      ((m.openingAnswers config s).served.taking config.clientName config.streams)) t held' := by
  let a := m.openingAnswers config s
  cases hv : Check.verdict (a.served.front config) with
  | some e =>
    rw [Check.calls_of_fails (by simp [a, hv])]
    exact (servesAll_open m config s).of_isPrefix (Check.made_isPrefix (a.served.front config))
  | none =>
    have named : Misuse.ofName? config.sequencer = none :=
      Option.map_eq_none_iff.1 (Check.verdict_eq_none_iff.1 hv (.ofName config.sequencer) (by
        simp [MidiSequencer.OpeningAnswers.front]))
    obtain ⟨u, k, taking⟩ := servesAll_taking m config s
    obtain ⟨t, held', taken⟩ := taking.of_isPrefix
      (Check.made_isPrefix (a.served.taking config.clientName config.streams))
    have plain : ∀ x ∈ Check.made (a.served.taking config.clientName config.streams),
        x.question.isHandling = false := by
      intro x hx
      have member := (Check.made_isPrefix _).subset hx
      simp only [MidiSequencer.OpeningAnswers.taking, Check.ofName, Check.ofStatus,
        Check.ofDescriptors, Check.ofCount, Check.ofInterest, List.flatMap_cons, List.flatMap_nil,
        List.nil_append, List.append_nil, List.mem_append, List.mem_singleton] at member
      obtain rfl | rfl | rfl := member <;> rfl
    obtain rfl := taken.held_eq plain
    rw [Check.calls_of_passes hv, MidiSequencer.OpeningAnswers.made_front named]
    have opened := servesAll_open m config s
    by_cases passes : Check.verdict (a.served.taking config.clientName config.streams) = none
    · rw [Check.calls_nil_of_passes passes]
      exact ⟨t, _, opened.append taken⟩
    · obtain ⟨u, released⟩ :
          ∃ u, ServesAll m a.nativeCalls t a.opened.2 [⟨.release, ()⟩] u false :=
        servesAll_release m t rfl
      rw [Check.calls_nil_of_fails passes]
      exact ⟨u, _, opened.append (taken.append released)⟩

end

/-- An opening that is served comes to what its checks say, by the native calls for what they
ask. -/
theorem opening_served (m : Library σ) (change : χ → σ → σ) (config : Config) (s : Scene σ χ) :
    let n := Served.simulator (Machine.recorded m) (unrecorded change)
    let r := (Connection.establish config).run.run (Scene.answer n) (Scene.served s)
    let a := m.openingAnswers config s.sequencer
    r.1 = some (Check.conclude (a.served.checks config) a.served.connection) ∧
      Scene.nativeCalls r.2 = a.ofHistory (Check.calls (a.served.front config)
        (a.served.taking config.clientName config.streams)) := by
  intro n r a
  obtain ⟨t, held, all⟩ := servesAll_calls m config s.sequencer
  have traces : Program.Traces (Connection.establish config).run
      (Call.requests (Check.calls (a.served.front config)
        (a.served.taking config.clientName config.streams)))
      (some (Check.conclude (a.served.checks config) a.served.connection)) :=
    Connection.traces_establish_iff.2 ⟨a.served, rfl, rfl⟩
  have begun : (Scene.served s).sequencer = ⟨(s.sequencer, []), false⟩ := rfl
  exact all.run traces begun

end MidiSequencer.Native
