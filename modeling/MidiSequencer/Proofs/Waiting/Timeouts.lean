import Mathlib.Order.Bounds.Basic
import MidiSequencer.Proofs.Waiting.Retry

/-! # Timeouts of polls

How long a poll may last, given the time that is left. This time is taken in whole microseconds
before it is rounded up to milliseconds, so that a poll may end too early by less than a
microsecond; within the last microsecond it does not wait at all. -/
namespace MidiSequencer

namespace Waiting

variable {α : Type} {d : Nat} {n : Int}

/-- The least number of milliseconds that are not shorter, or the longest poll where this is
less. -/
def RoundsUp (d : Nat) (n : Int) : Prop :=
  ∃ least, IsLeast {k : Int | d ≤ k * 1000000} least ∧ n = min least longestPoll

def roundedUp (d : Nat) : Int := min ((d + 999999) / 1000000) longestPoll

theorem longestPoll_eq : (longestPoll : Int) = 2147483647 := rfl

theorem isLeast_ceiling (d : Nat) :
    IsLeast {k : Int | d ≤ k * 1000000} ((d + 999999) / 1000000) := by
  constructor
  · show (d : Int) ≤ _
    omega
  · intro k covers
    change (d : Int) ≤ k * 1000000 at covers
    omega

theorem roundsUp_iff : RoundsUp d n ↔ n = roundedUp d := by
  constructor
  · rintro ⟨least, isLeast, rfl⟩
    rw [isLeast.unique (isLeast_ceiling d), roundedUp]
  · exact fun same => ⟨_, isLeast_ceiling d, same⟩

theorem pollTimeout_range : 0 ≤ pollTimeout (some d) ∧ pollTimeout (some d) ≤ longestPoll := by
  have longest := longestPoll_eq
  simp only [pollTimeout]
  omega

theorem pollTimeout_eq_zero_iff : pollTimeout (some d) = 0 ↔ d < 1000 := by
  have longest := longestPoll_eq
  simp only [pollTimeout]
  omega

theorem roundsUp_pollTimeout_iff : RoundsUp d (pollTimeout (some d)) ↔
    d % 1000000 = 0 ∨ 1000 ≤ d % 1000000 ∨ longestPoll ≤ d / 1000000 := by
  have longest := longestPoll_eq
  rw [roundsUp_iff]
  simp only [pollTimeout, roundedUp]
  omega

theorem pollTimeout_suffices_iff :
    pollTimeout (some d) = longestPoll ∨ d ≤ pollTimeout (some d) * 1000000 ↔
      RoundsUp d (pollTimeout (some d)) := by
  have longest := longestPoll_eq
  rw [roundsUp_pollTimeout_iff]
  simp only [pollTimeout]
  omega

theorem pollTimeout_reaches :
    pollTimeout (some d) = longestPoll ∨ d ≤ pollTimeout (some d) * 1000000 + 999 := by
  have longest := longestPoll_eq
  simp only [pollTimeout]
  omega

def Course.Polls (c : Course α) (clock : Instant) : Prop :=
  (∃ r ∈ c.rounds, r.clock = clock) ∨ ∃ number, c.ending = .broken clock number

theorem Course.Valid.polls {limit : Option Instant} {attempt : Action α} {c : Course α}
    (hv : c.Valid limit attempt) {clock : Instant} (polled : c.Polls clock) :
    InTime limit clock := by
  rcases polled with ⟨r, there, rfl⟩ | ⟨number, broken⟩
  · exact (hv.rounds r there).in_time
  · have fits := hv.ending
    rw [broken] at fits
    exact fits.2

/-- When the timeout of a poll is rounded up, and what becomes of the polls of a blocking wait: they
begin before the deadline, and unless one is as long as a poll can be it lasts until the deadline if
its timeout is rounded up, and else until less than a microsecond is left. -/
theorem polls_rounded {interest : Interest} {timeout : Option Duration} {attempt : Action α}
    {bound : Nat} {h : Dialogue.History} {result : Except Error (Option α)}
    (hr : Program.Runs (blocking interest timeout attempt bound).run h result) :
    (∀ d : Nat, 0 ≤ pollTimeout (some d) ∧ pollTimeout (some d) ≤ longestPoll ∧
      (pollTimeout (some d) = 0 ↔ d < 1000) ∧
      (RoundsUp d (pollTimeout (some d)) ↔
        d % 1000000 = 0 ∨ 1000 ≤ d % 1000000 ∨ longestPoll ≤ d / 1000000)) ∧
    ∃ start, ∃ c : Course α, c.Valid (limitFrom timeout start) attempt ∧
      h = opening timeout start ++ c.history interest (limitFrom timeout start) ∧
      ∀ limit, limitFrom timeout start = some limit → ∀ clock, c.Polls clock →
        let left := limit - clock
        let milliseconds := pollTimeout (some left)
        clock < limit ∧ (milliseconds = 0 ↔ left < 1000) ∧
          (milliseconds = longestPoll ∨ (limit : Int) ≤ clock + milliseconds * 1000000 ↔
            RoundsUp left milliseconds) ∧
          (milliseconds = longestPoll ∨
            (limit : Int) ≤ clock + milliseconds * 1000000 + 999) := by
  constructor
  · intro d
    exact ⟨pollTimeout_range.1, pollTimeout_range.2, pollTimeout_eq_zero_iff,
      roundsUp_pollTimeout_iff⟩
  obtain ⟨start, c, hv, -, hh, -⟩ := blocking_runs_iff.1 hr
  refine ⟨start, c, hv, hh, fun limit hl clock polled => ?_⟩
  have early : clock < limit := hv.polls polled limit hl
  have shifted {l k : Nat} (before : k < l) (n : Int) :
      (l : Int) ≤ k + n ↔ ((l - k : Nat) : Int) ≤ n := by omega
  refine ⟨early, pollTimeout_eq_zero_iff, ?_, ?_⟩
  · rw [shifted early]
    exact pollTimeout_suffices_iff
  · rw [Int.add_assoc, shifted early]
    exact pollTimeout_reaches

/-- Three milliseconds and half a microsecond: the first poll waits for all that is left, and the
second, with the half microsecond left, not at all. -/
theorem polls_rounded_twice :
    let attempt := Connection.tryInput ⟨128, true⟩
    let h : Dialogue.History :=
      [⟨.now, (0 : Nat)⟩, ⟨.call .eventInput, .error (-11)⟩, ⟨.now, (1000 : Nat)⟩,
        ⟨.poll .read 3, .interrupted⟩, ⟨.call .eventInput, .error (-11)⟩,
        ⟨.now, (3000000 : Nat)⟩, ⟨.poll .read 0, .notReady⟩,
        ⟨.call .eventInput, .ok (.noteOn 0 60 1)⟩]
    Program.Runs (blocking .read (some 3000500) attempt 3).run h (.ok (some (.noteOn 0 60 1))) ∧
      RoundsUp 2999500 (pollTimeout (some 2999500)) ∧ ¬ RoundsUp 500 (pollTimeout (some 500)) ∧
      ∃ start, ∃ c : Course Event, c.Valid (limitFrom (some 3000500) start) attempt ∧
        h = opening (some 3000500) start ++ c.history .read (limitFrom (some 3000500) start) := by
  intro attempt h
  have hr : Program.Runs (blocking .read (some 3000500) attempt 3).run h
      (.ok (some (.noteOn 0 60 1))) :=
    .ask (.ask (.ask (.ask (.ask (.ask (.ask (.ask (.done _))))))))
  obtain ⟨rounding, start, c, hv, hh, -⟩ := polls_rounded hr
  have rounds (d : Nat) := (rounding d).2.2.2
  exact ⟨hr, (rounds 2999500).2 (by decide), mt (rounds 500).1 (by decide), start, c, hv, hh⟩

/-- With half a microsecond left a poll does not wait, though time remains: the least number of
milliseconds that are not shorter is one. -/
theorem polls_in_vain :
    let attempt := Connection.tryInput ⟨128, true⟩
    let h : Dialogue.History :=
      [⟨.now, (0 : Nat)⟩, ⟨.call .eventInput, .error (-11)⟩, ⟨.now, (1000 : Nat)⟩,
        ⟨.poll .read 0, .notReady⟩, ⟨.call .eventInput, .ok (.noteOn 0 60 1)⟩]
    Program.Runs (blocking .read (some 1500) attempt 2).run h (.ok (some (.noteOn 0 60 1))) ∧
      limitFrom (some 1500) 0 = some 1500 ∧ pollTimeout (some (1500 - 1000)) = 0 ∧
      RoundsUp (1500 - 1000) 1 ∧ ¬ RoundsUp (1500 - 1000) 0 := by
  refine ⟨.ask (.ask (.ask (.ask (.ask (.done _))))), by decide, by decide, ?_, ?_⟩
  · exact roundsUp_iff.2 rfl
  · exact mt roundsUp_iff.1 (by decide)

end Waiting

end MidiSequencer
