import MidiSequencer.Proofs.Histories
import MidiSequencer.Waiting

/-! # The course of a blocking wait

A wait of a blocking client is a number of rounds, each a failed attempt with the poll behind it,
and a last attempt with what ends the wait. Attempts, polls and clock may answer whatever they like.
-/
namespace MidiSequencer

namespace Waiting

variable {α : Type}

/-- A failed attempt, the reading of the clock after it, and the outcome of the poll behind it. -/
structure Round where
  attempt : Dialogue.History
  clock : Instant
  outcome : PollOutcome

/-- What comes after the last attempt: nothing, a reading of the clock past the deadline, or a poll
that fails. -/
inductive Ending where
  | answered
  | expired (clock : Instant)
  | broken (clock : Instant) (number : Int)

structure Course (α : Type) where
  rounds : List Round := []
  last : Dialogue.History
  answer : Except Error α
  ending : Ending

def limitFrom (timeout : Option Duration) (start : Instant) : Option Instant :=
  timeout.bind (deadlineFrom start)

/-- The clock is read at the start only for a timeout that is not zero. -/
def opening (timeout : Option Duration) (start : Instant) : Dialogue.History :=
  if timeout.any (· ≠ 0) then [⟨.now, start⟩] else []

/-- After an attempt the clock is read only against a deadline. -/
def reading (limit : Option Instant) (clock : Instant) : Dialogue.History :=
  if limit.isSome then [⟨.now, clock⟩] else []

def polling (interest : Interest) (limit : Option Instant) (clock : Instant)
    (outcome : PollOutcome) : Dialogue.History :=
  reading limit clock ++ [⟨.poll interest (pollTimeout (limit.map (· - clock))), outcome⟩]

def Round.history (interest : Interest) (limit : Option Instant) (r : Round) : Dialogue.History :=
  r.attempt ++ polling interest limit r.clock r.outcome

def Ending.history (interest : Interest) (limit : Option Instant) : Ending → Dialogue.History
  | answered => []
  | expired clock => reading limit clock
  | broken clock number => polling interest limit clock (.failed number)

namespace Course

def history (interest : Interest) (limit : Option Instant) (c : Course α) : Dialogue.History :=
  c.rounds.flatMap (·.history interest limit) ++ (c.last ++ c.ending.history interest limit)

def result (c : Course α) : Except Error (Option α) :=
  match c.ending with
  | .answered => c.answer.map some
  | .expired _ => .ok none
  | .broken _ number => .error (.poll number)

def withOutcomes (c : Course α) (outcomes : List PollOutcome) : Course α :=
  { c with rounds := c.rounds.zipWith (fun r o => { r with outcome := o }) outcomes }

end Course

def InTime (limit : Option Instant) (clock : Instant) : Prop :=
  ∀ d, limit = some d → clock < d

/-- Whatever the poll of a round says about the descriptor, the next attempt follows. -/
structure Round.Valid (limit : Option Instant) (attempt : Action α) (r : Round) : Prop where
  failed : ∃ call, Program.Runs attempt.run r.attempt (.error (.service call Status.wouldBlock))
  in_time : InTime limit r.clock
  polled : ∀ number, r.outcome ≠ .failed number

def Ending.Fits (limit : Option Instant) (answer : Except Error α) : Ending → Prop
  | answered => blocked answer = false
  | expired clock => blocked answer = true ∧ ∃ d, limit = some d ∧ d ≤ clock
  | broken clock _ => blocked answer = true ∧ InTime limit clock

structure Course.Valid (limit : Option Instant) (attempt : Action α) (c : Course α) : Prop where
  rounds : ∀ r ∈ c.rounds, r.Valid limit attempt
  last : Program.Runs attempt.run c.last c.answer
  ending : c.ending.Fits limit c.answer

theorem blocked_iff {answer : Except Error α} :
    blocked answer = true ↔ ∃ call, answer = .error (.service call Status.wouldBlock) := by
  cases answer with
  | ok a => simp [blocked]
  | error e => cases e <;> simp [blocked, Error.isWouldBlock, Error.status?]

theorem run_pollUntil_succ (interest : Interest) (limit : Option Instant) (attempt : Action α)
    (n : Nat) :
    (pollUntil interest limit attempt (n + 1)).run = attempt.run >>= fun answer =>
      if blocked answer then
        remaining limit >>= fun
          | none => .done (.ok none)
          | some left => .ask (.poll interest (pollTimeout left)) fun
            | .failed number => .done (.error (.poll number))
            | _ => (pollUntil interest limit attempt n).run
      else .done (answer.map some) := by
  simp only [pollUntil, ExceptT.run_bind, ExceptT.run_lift, map_eq_pure_bind, bind_assoc,
    pure_bind]
  congr 1
  funext answer
  by_cases hb : blocked answer = true
  · simp only [hb, if_true, ExceptT.run_bind, ExceptT.run_lift, map_eq_pure_bind, bind_assoc,
      pure_bind]
    congr 1
    funext left
    cases left with
    | none => rfl
    | some left =>
      simp only [poll, ExceptT.run_bind, Action.ask, Dialogue.ask, Program.query,
        ExceptT.run_lift, map_eq_pure_bind, Program.ask_bind, Program.done_bind, Program.pure_eq]
      congr 1
      funext outcome
      cases outcome <;> rfl
  · cases answer <;> simp [hb] <;> rfl

theorem remaining_runs_iff {limit : Option Instant} {h : Dialogue.History}
    {left : Option (Option Duration)} :
    Program.Runs (remaining limit) h left ↔ ∃ clock, h = reading limit clock ∧
      ((InTime limit clock ∧ left = some (limit.map (· - clock))) ∨
        ((∃ d, limit = some d ∧ d ≤ clock) ∧ left = none)) := by
  cases limit with
  | none => simp [remaining, reading, InTime]
  | some d =>
    simp only [remaining, Dialogue.ask, Program.query, Program.ask_bind, Program.done_bind,
      Program.pure_eq, Program.runs_ask_iff, Program.runs_done_iff, reading, InTime]
    constructor
    · rintro ⟨clock, t, rfl, rfl, rfl⟩
      refine ⟨clock, rfl, ?_⟩
      by_cases hd : d ≤ clock
      · exact .inr ⟨⟨d, rfl, hd⟩, if_pos hd⟩
      · refine .inl ⟨?_, if_neg hd⟩
        rintro _ ⟨⟩
        exact Nat.lt_of_not_le hd
    · rintro ⟨clock, rfl, ⟨ht, rfl⟩ | ⟨⟨_, ⟨⟩, hd⟩, rfl⟩⟩
      · have := ht d rfl
        exact ⟨clock, [], rfl, rfl, by simp; omega⟩
      · exact ⟨clock, [], rfl, rfl, by simp [hd]⟩

theorem deadline_runs_iff {timeout : Option Duration} {h : Dialogue.History}
    {limit : Option Instant} :
    Program.Runs (deadline timeout) h limit ↔
      ∃ start, h = opening timeout start ∧ limit = limitFrom timeout start := by
  cases timeout with
  | none => simp [deadline, opening, limitFrom]
  | some t =>
    by_cases ht : t = 0
    · simp [deadline, opening, limitFrom, deadlineFrom, ht]
    · simp only [deadline, opening, limitFrom, ht, if_false, Dialogue.ask, Program.query,
        Program.ask_bind, Program.done_bind, Program.pure_eq, Program.runs_ask_iff,
        Program.runs_done_iff]
      constructor
      · rintro ⟨start, t, rfl, rfl, rfl⟩
        exact ⟨start, by simp [ht], rfl⟩
      · rintro ⟨start, rfl, rfl⟩
        exact ⟨start, [], by simp [ht], rfl, rfl⟩

namespace Course

variable {interest : Interest} {limit : Option Instant} {attempt : Action α}

theorem history_cons (r : Round) (rounds : List Round) (last : Dialogue.History)
    (answer : Except Error α) (ending : Ending) :
    history interest limit ⟨r :: rounds, last, answer, ending⟩ =
      r.attempt ++ (reading limit r.clock ++
        ⟨.poll interest (pollTimeout (limit.map (· - r.clock))), r.outcome⟩ ::
          history interest limit ⟨rounds, last, answer, ending⟩) := by
  simp [history, Round.history, polling]

theorem history_nil (last : Dialogue.History) (answer : Except Error α) (ending : Ending) :
    history interest limit ⟨[], last, answer, ending⟩ = last ++ ending.history interest limit := by
  simp [history]

theorem Valid.nil {last : Dialogue.History} {answer : Except Error α} {ending : Ending}
    (hl : Program.Runs attempt.run last answer) (he : ending.Fits limit answer) :
    Valid limit attempt ⟨[], last, answer, ending⟩ :=
  ⟨by simp, hl, he⟩

theorem Valid.cons {r : Round} {c : Course α} (hc : c.Valid limit attempt)
    (hr : r.Valid limit attempt) : Valid limit attempt { c with rounds := r :: c.rounds } :=
  ⟨List.forall_mem_cons.2 ⟨hr, hc.rounds⟩, hc.last, hc.ending⟩

end Course

/-- By induction on the rounds that are granted: a round is the head of the course of the rest. -/
theorem course_of_runs {interest : Interest} {limit : Option Instant} {attempt : Action α}
    {n : Nat} {h : Dialogue.History} {result : Except Error (Option α)}
    (hr : Program.Runs (pollUntil interest limit attempt n).run h result) :
    ∃ c : Course α, c.Valid limit attempt ∧ c.rounds.length < n ∧
      h = c.history interest limit ∧ result = c.result := by
  induction n generalizing h with
  | zero => exact absurd hr Program.not_runs_unfinished
  | succ n ih =>
    rw [run_pollUntil_succ, Program.runs_bind_iff] at hr
    obtain ⟨last, answer, t, rfl, hl, ht⟩ := hr
    by_cases hb : blocked answer = true
    · rw [if_pos hb, Program.runs_bind_iff] at ht
      obtain ⟨h₁, left, h₂, rfl, hm, hp⟩ := ht
      obtain ⟨clock, rfl, ⟨hi, rfl⟩ | ⟨hd, rfl⟩⟩ := remaining_runs_iff.1 hm
      · obtain ⟨outcome, t, rfl, ho⟩ := Program.runs_ask_iff.1 hp
        by_cases hf : ∃ number, outcome = .failed number
        · obtain ⟨number, rfl⟩ := hf
          obtain ⟨rfl, rfl⟩ := Program.runs_done_iff.1 ho
          refine ⟨⟨[], last, answer, .broken clock number⟩, .nil hl ⟨hb, hi⟩, by simp, ?_, rfl⟩
          rw [Course.history_nil]
          rfl
        · have hn : Program.Runs (pollUntil interest limit attempt n).run t result := by
            cases outcome with
            | failed number => exact absurd ⟨number, rfl⟩ hf
            | _ => exact ho
          obtain ⟨c, hc, hlt, rfl, rfl⟩ := ih hn
          obtain ⟨call, rfl⟩ := blocked_iff.1 hb
          have hv : Round.Valid limit attempt ⟨last, clock, outcome⟩ :=
            ⟨⟨call, hl⟩, hi, fun number h => hf ⟨number, h⟩⟩
          refine ⟨_, hc.cons hv, by simpa using hlt, ?_, rfl⟩
          rw [Course.history_cons]
      · obtain ⟨rfl, rfl⟩ := Program.runs_done_iff.1 hp
        refine ⟨⟨[], last, answer, .expired clock⟩, .nil hl ⟨hb, hd⟩, by simp, ?_, rfl⟩
        rw [Course.history_nil, Ending.history, List.append_nil]
    · rw [if_neg hb] at ht
      obtain ⟨rfl, rfl⟩ := Program.runs_done_iff.1 ht
      have hf : blocked answer = false := by simpa using hb
      refine ⟨⟨[], last, answer, .answered⟩, .nil hl hf, by simp, ?_, rfl⟩
      rw [Course.history_nil]
      rfl

theorem runs_of_course {interest : Interest} {limit : Option Instant} {attempt : Action α}
    {c : Course α} (hv : c.Valid limit attempt) {n : Nat} (hn : c.rounds.length < n) :
    Program.Runs (pollUntil interest limit attempt n).run (c.history interest limit) c.result := by
  obtain ⟨rounds, last, answer, ending⟩ := c
  induction rounds generalizing n with
  | nil =>
    obtain ⟨n, rfl⟩ : ∃ k, n = k + 1 := ⟨n - 1, by simp at hn; omega⟩
    rw [run_pollUntil_succ, Program.runs_bind_iff, Course.history_nil]
    refine ⟨last, answer, _, rfl, hv.last, ?_⟩
    cases ending with
    | answered =>
      have hb : blocked answer = false := hv.ending
      simp [hb, Ending.history, Course.result]
    | expired clock =>
      obtain ⟨hb, hd⟩ := hv.ending
      rw [if_pos hb, Program.runs_bind_iff]
      refine ⟨_, none, [], (List.append_nil _).symm, ?_, .done _⟩
      exact remaining_runs_iff.2 ⟨clock, rfl, .inr ⟨hd, rfl⟩⟩
    | broken clock number =>
      obtain ⟨hb, hi⟩ := hv.ending
      rw [if_pos hb, Program.runs_bind_iff]
      exact ⟨_, _, _, rfl, remaining_runs_iff.2 ⟨clock, rfl, .inl ⟨hi, rfl⟩⟩, .ask (.done _)⟩
  | cons r rounds ih =>
    obtain ⟨n, rfl⟩ : ∃ k, n = k + 1 := ⟨n - 1, by simp at hn; omega⟩
    have hr := hv.rounds r (by simp)
    obtain ⟨call, hl⟩ := hr.failed
    have hn : Program.Runs (pollUntil interest limit attempt n).run
        (Course.history interest limit ⟨rounds, last, answer, ending⟩)
        (Course.result ⟨rounds, last, answer, ending⟩) :=
      ih ⟨fun q hq => hv.rounds q (by simp [hq]), hv.last, hv.ending⟩ (by simpa using hn)
    rw [run_pollUntil_succ, Program.runs_bind_iff, Course.history_cons]
    refine ⟨r.attempt, _, _, rfl, hl, ?_⟩
    rw [if_pos (blocked_iff.2 ⟨call, rfl⟩), Program.runs_bind_iff]
    refine ⟨_, _, _, rfl, remaining_runs_iff.2 ⟨r.clock, rfl, .inl ⟨hr.in_time, rfl⟩⟩, .ask ?_⟩
    cases ho : r.outcome with
    | failed number => exact absurd ho (hr.polled number)
    | _ => exact hn

theorem Course.Valid.withOutcomes {limit : Option Instant} {attempt : Action α} {c : Course α}
    (hv : c.Valid limit attempt) {outcomes : List PollOutcome}
    (ho : ∀ o ∈ outcomes, ∀ number, o ≠ .failed number) :
    (c.withOutcomes outcomes).Valid limit attempt := by
  refine ⟨?_, hv.last, hv.ending⟩
  intro r hr
  obtain ⟨i, hi, rfl⟩ := List.getElem_of_mem hr
  simp only [Course.withOutcomes, List.length_zipWith] at hi
  have hv := hv.rounds c.rounds[i] (List.getElem_mem (by omega))
  have ho := ho outcomes[i] (List.getElem_mem (by omega))
  simp only [Course.withOutcomes, List.getElem_zipWith]
  exact ⟨hv.failed, hv.in_time, ho⟩

theorem blocking_runs_iff {interest : Interest} {timeout : Option Duration} {attempt : Action α}
    {bound : Nat} {h : Dialogue.History} {result : Except Error (Option α)} :
    Program.Runs (blocking interest timeout attempt bound).run h result ↔
      ∃ start, ∃ c : Course α, c.Valid (limitFrom timeout start) attempt ∧
        c.rounds.length < bound ∧
        h = opening timeout start ++ c.history interest (limitFrom timeout start) ∧
        result = c.result := by
  have hb : (blocking interest timeout attempt bound).run =
      deadline timeout >>= fun limit => (pollUntil interest limit attempt bound).run := by
    simp only [blocking, ExceptT.run_bind, ExceptT.run_lift, map_eq_pure_bind, bind_assoc,
      pure_bind]
  rw [hb, Program.runs_bind_iff]
  constructor
  · rintro ⟨h₁, limit, h₂, rfl, hd, hp⟩
    obtain ⟨start, rfl, rfl⟩ := deadline_runs_iff.1 hd
    obtain ⟨c, hv, hn, rfl, rfl⟩ := course_of_runs hp
    exact ⟨start, c, hv, hn, rfl, rfl⟩
  · rintro ⟨start, c, hv, hn, rfl, rfl⟩
    exact ⟨_, _, _, rfl, deadline_runs_iff.2 ⟨start, rfl, rfl⟩, runs_of_course hv hn⟩

theorem limitFrom_eq_some_iff {timeout : Option Duration} {start d : Instant} :
    limitFrom timeout start = some d ↔
      ∃ t, timeout = some t ∧ t ≠ 0 ∧ start + t < horizon ∧ d = start + t := by
  cases timeout with
  | none => simp [limitFrom]
  | some t =>
    simp only [limitFrom, Option.bind_some, deadlineFrom]
    by_cases ht : t = 0
    · simp [ht]
    · by_cases hd : start + t < horizon
      · simp [ht, hd, eq_comm]
      · simp [ht, hd]

namespace Course.Valid

variable {limit : Option Instant} {attempt : Action α} {c : Course α}

theorem answered (hv : c.Valid limit attempt) (hb : blocked c.answer = false) :
    c.ending = .answered ∧ c.result = c.answer.map some := by
  have he := hv.ending
  cases hc : c.ending with
  | answered => exact ⟨rfl, by rw [Course.result, hc]⟩
  | expired clock =>
    rw [hc] at he
    rw [he.1] at hb
    cases hb
  | broken clock number =>
    rw [hc] at he
    rw [he.1] at hb
    cases hb

theorem expired (hv : c.Valid limit attempt) (hn : c.result = .ok none) :
    blocked c.answer = true ∧
      ∃ d clock, limit = some d ∧ c.ending = .expired clock ∧ d ≤ clock := by
  have he := hv.ending
  cases hc : c.ending with
  | answered =>
    rw [Course.result, hc] at hn
    cases ha : c.answer <;> simp [ha, Except.map] at hn
  | expired clock =>
    rw [hc] at he
    obtain ⟨hb, d, hd, hlt⟩ := he
    exact ⟨hb, d, clock, hd, rfl, hlt⟩
  | broken clock number => simp [Course.result, hc] at hn

end Course.Valid

theorem Course.error_cases {c : Course α} {e : Error} (he : c.result = .error e) :
    (c.answer = .error e ∧ c.ending = .answered) ∨
      ∃ clock number, c.ending = .broken clock number ∧ e = .poll number := by
  cases hc : c.ending with
  | answered =>
    rw [Course.result, hc] at he
    cases ha : c.answer with
    | ok a => simp [ha, Except.map] at he
    | error e' =>
      simp only [ha, Except.map, Except.error.injEq] at he
      exact .inl ⟨by rw [he], rfl⟩
  | expired clock => simp [Course.result, hc] at he
  | broken clock number =>
    simp only [Course.result, hc, Except.error.injEq] at he
    exact .inr ⟨clock, number, rfl, he.symm⟩

theorem Course.Valid.not_blocked {limit : Option Instant} {attempt : Action α} {c : Course α}
    (hv : c.Valid limit attempt) (call : String) :
    c.result ≠ .error (.service call Status.wouldBlock) := by
  intro hn
  rcases Course.error_cases hn with ⟨answer, ending⟩ | ⟨_, _, _, failed⟩
  · have free := hv.ending
    rw [ending, answer] at free
    cases free
  · cases failed

/-- The protocol of a blocking wait, for all answers of the attempts, all outcomes of the polls and
all readings of the clock. -/
theorem retry_protocol {interest : Interest} {timeout : Option Duration} {attempt : Action α}
    {bound : Nat} {h : Dialogue.History} {result : Except Error (Option α)}
    (hr : Program.Runs (blocking interest timeout attempt bound).run h result) :
    ∃ start, ∃ c : Course α,
      h = opening timeout start ++ c.history interest (limitFrom timeout start) ∧
      -- an attempt that would block is made again, and is never the result
      c.Valid (limitFrom timeout start) attempt ∧
      (∀ call, result ≠ .error (.service call Status.wouldBlock)) ∧
      -- every attempt but the last would have blocked, and its poll began in time
      (∀ r ∈ c.rounds, InTime (limitFrom timeout start) r.clock ∧ ∃ call,
        Program.Runs attempt.run r.attempt (.error (.service call Status.wouldBlock))) ∧
      Program.Runs attempt.run c.last c.answer ∧
      -- any other answer of the last attempt is the result, however late it comes
      ((∀ call, c.answer ≠ .error (.service call Status.wouldBlock)) →
        c.ending = .answered ∧ result = c.answer.map some) ∧
      -- a timeout
      (result = .ok none → ∃ t clock, timeout = some t ∧ t ≠ 0 ∧ start + t < horizon ∧
        (∃ call, c.answer = .error (.service call Status.wouldBlock)) ∧
        c.ending = .expired clock ∧ start + t ≤ clock) ∧
      -- an error comes from the last attempt or from a poll that fails behind it
      (∀ e, result = .error e → (c.answer = .error e ∧ c.ending = .answered) ∨
        ∃ clock number, c.ending = .broken clock number ∧ e = .poll number) ∧
      -- what the other polls say about the descriptor makes no difference
      ∀ outcomes : List PollOutcome, outcomes.length = c.rounds.length →
        (∀ o ∈ outcomes, ∀ number, o ≠ .failed number) →
        Program.Runs (blocking interest timeout attempt bound).run
          (opening timeout start ++
            (c.withOutcomes outcomes).history interest (limitFrom timeout start)) result := by
  obtain ⟨start, c, hv, hn, rfl, rfl⟩ := blocking_runs_iff.1 hr
  refine ⟨start, c, rfl, hv, hv.not_blocked, ?_, hv.last, ?_, ?_, ?_, ?_⟩
  · intro r hm
    have valid := hv.rounds r hm
    exact ⟨valid.in_time, valid.failed⟩
  · intro ha
    apply hv.answered
    cases hb : blocked c.answer with
    | false => rfl
    | true =>
      obtain ⟨call, h⟩ := blocked_iff.1 hb
      exact absurd h (ha call)
  · intro hnone
    obtain ⟨hb, d, clock, hd, hc, hlt⟩ := hv.expired hnone
    obtain ⟨t, ht, h0, hh, rfl⟩ := limitFrom_eq_some_iff.1 hd
    exact ⟨t, clock, ht, h0, hh, blocked_iff.1 hb, hc, hlt⟩
  · intro e he
    exact Course.error_cases he
  · intro outcomes hlen ho
    refine blocking_runs_iff.2 ⟨start, c.withOutcomes outcomes, hv.withOutcomes ho, ?_, rfl, rfl⟩
    simpa [Course.withOutcomes, hlen] using hn

/-- Five milliseconds, an input that would block, a poll that a signal ends, and an event. -/
theorem retry_protocol_interrupted_input :
    let attempt := Connection.tryInput ⟨128, true⟩
    let h : Dialogue.History :=
      [⟨.now, (0 : Nat)⟩, ⟨.call .eventInput, .error (-11)⟩, ⟨.now, (1000 : Nat)⟩,
        ⟨.poll .read 5, .interrupted⟩, ⟨.call .eventInput, .ok (.noteOn 0 60 1)⟩]
    Program.Runs (blocking .read (some 5000000) attempt 2).run h (.ok (some (.noteOn 0 60 1))) ∧
      ∃ start, ∃ c : Course Event,
        h = opening (some 5000000) start ++ c.history .read (limitFrom (some 5000000) start) ∧
        ∀ r ∈ c.rounds, ∃ call,
          Program.Runs attempt.run r.attempt (.error (.service call (-11))) := by
  intro attempt h
  have hr : Program.Runs (blocking .read (some 5000000) attempt 2).run h
      (.ok (some (.noteOn 0 60 1))) :=
    .ask (.ask (.ask (.ask (.ask (.done _)))))
  obtain ⟨start, c, hh, -, -, hc, -⟩ := retry_protocol hr
  exact ⟨hr, start, c, hh, fun r hm => (hc r hm).2⟩

end Waiting

end MidiSequencer
