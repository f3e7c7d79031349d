import MidiSequencer.Connection

/-! # Waiting for the descriptor

A waited call is tried at once and, while it would block, again whenever the descriptor is ready for
its direction, until a deadline. A blocking client sleeps in a poll between attempts and tries once
more when the poll ends; a suspending client gives up at the deadline without another attempt. Each
takes a bound on the number of attempts; a wait that needs more is unfinished.
-/
namespace MidiSequencer

/-- How a client waits. -/
inductive Mode where
  | blocking | suspending
  deriving DecidableEq

namespace Waiting

def longestPoll : Nat := Nat.pow 2 31 - 1

/-- Milliseconds for a poll, rounded up from whole microseconds; without a limit -1. -/
def pollTimeout : Option Duration → Int
  | none => -1
  | some d => min ((d / 1000 + 999) / 1000) longestPoll

/-- Instants from here on cannot be represented. -/
def horizon : Instant := Nat.pow 2 63 * Nat.pow 10 9

/-- The deadline of a wait that starts now: none for a timeout of zero, nor for one that ends too
far away. -/
def deadlineFrom (now : Instant) (timeout : Duration) : Option Instant :=
  if timeout = 0 then none else if now + timeout < horizon then some (now + timeout) else none

def deadline : Option Duration → Dialogue (Option Instant)
  | none => return none
  | some timeout => do
    if timeout = 0 then return none
    else return deadlineFrom (← Dialogue.ask .now) timeout

/-- Sleeps until the descriptor is ready or the time is over; an interruption counts as not
ready. -/
def poll (interest : Interest) (limit : Option Duration) : Action Bool := do
  match ← Action.ask (.poll interest (pollTimeout limit)) with
  | .ready => return true
  | .notReady => return false
  | .interrupted => return false
  | .failed number => throw (.poll number)

variable {α : Type}

/-- Whether an attempt has to be made again. -/
def blocked : Except Error α → Bool
  | .error e => e.isWouldBlock
  | .ok _ => false

/-- What is left until the deadline: `none` once it has passed, and no limit without a deadline. -/
def remaining : Option Instant → Dialogue (Option (Option Duration))
  | none => return some none
  | some limit => do
    let now ← Dialogue.ask .now
    return if limit ≤ now then none else some (some (limit - now))

def pollUntil (interest : Interest) (limit : Option Instant) (attempt : Action α) :
    Nat → Action (Option α)
  | 0 => ExceptT.lift .unfinished
  | attempts + 1 => do
    let outcome ← ExceptT.lift attempt.run
    if blocked outcome then
      match ← ExceptT.lift (remaining limit) with
      | none => return none
      | some left =>
        let _ ← poll interest left
        pollUntil interest limit attempt attempts
    else return some (← liftM outcome)

def retryWhenReady (interest : Interest) (limit : Option Instant) (attempt : Action α) :
    Nat → Action (Option α)
  | 0 => ExceptT.lift .unfinished
  | attempts + 1 => do
    if ← Action.ask (.suspend interest limit) then
      let outcome ← ExceptT.lift attempt.run
      if blocked outcome then
        Action.ask (.clearReady interest)
        retryWhenReady interest limit attempt attempts
      else return some (← liftM outcome)
    else if limit.isSome then return none
    else retryWhenReady interest limit attempt attempts

def blocking (interest : Interest) (timeout : Option Duration) (attempt : Action α)
    (attempts : Nat) : Action (Option α) := do
  let limit ← ExceptT.lift (deadline timeout)
  pollUntil interest limit attempt attempts

def suspending (interest : Interest) (timeout : Option Duration) (attempt : Action α)
    (attempts : Nat) : Action (Option α) := do
  let limit ← ExceptT.lift (deadline timeout)
  let outcome ← ExceptT.lift attempt.run
  if blocked outcome then retryWhenReady interest limit attempt attempts
  else return some (← liftM outcome)

/-- A timeout is no error: the answer is `none`. -/
def wait (mode : Mode) (interest : Interest) (timeout : Option Duration) (attempt : Action α)
    (attempts : Nat) : Action (Option α) :=
  match mode with
  | .blocking => blocking interest timeout attempt attempts
  | .suspending => suspending interest timeout attempt attempts

end Waiting

namespace Connection

def input (c : Connection) (mode : Mode) (timeout : Option Duration) (attempts : Nat) :
    Action (Option Event) :=
  Waiting.wait mode .read timeout c.tryInput attempts

/-- The event is encoded once, and each attempt hands over the same record. -/
def output (c : Connection) (mode : Mode) (direct : Bool) (e : Event) (route : Route)
    (timeout : Option Duration) (attempts : Nat) : Action (Option Status) :=
  Waiting.wait mode .write timeout (c.tryOutputRecord direct (e.encode route)) attempts

def drain (c : Connection) (mode : Mode) (timeout : Option Duration) (attempts : Nat) :
    Action (Option Status) :=
  Waiting.wait mode .write timeout c.tryDrain attempts

end Connection

end MidiSequencer
