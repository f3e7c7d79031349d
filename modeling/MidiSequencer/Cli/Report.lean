import MidiSequencer.Double.Shortest
import MidiSequencer.Error
import MidiSequencer.Address

/-! # What a command reports

The lines a command printed, and what went wrong in the end. What was printed before a failure
stays. A timeout that is longer than any duration is no failure to be reported: the program breaks
down over it, with an exit code of its own.
-/
namespace MidiSequencer.Cli

inductive Failure where
  | opening (sequencer : String) (error : Error)
  | connecting (sender dest : Address) (error : Error)
  | disconnecting (sender dest : Address) (error : Error)
  | listening (sender : Address) (error : Error)
  | failed (error : Error)
  | timeout (seconds : Double)
  | overlong
  | noteRange
  | noteOnTimedOut
  | noteOffTimedOut
  deriving DecidableEq

namespace Failure

def message : Failure → String
  | opening sequencer _ => "couldn't open sequencer " ++ Text.quote sequencer.toList
  | connecting sender dest _ => "couldn't connect " ++ sender.text ++ " to " ++ dest.text
  | disconnecting sender dest _ => "couldn't disconnect " ++ sender.text ++ " from " ++ dest.text
  | listening sender _ => "couldn't connect from " ++ sender.text
  | failed error => error.message
  | timeout seconds => "invalid timeout " ++ seconds.text
  | overlong => "cannot convert float seconds to Duration: value is either too big or NaN"
  | noteRange => "channel must be 0-15, note and velocity 0-127"
  | noteOnTimedOut => "timed out sending note on"
  | noteOffTimedOut => "timed out sending note off"

/-- The error behind a message that only says what was tried. -/
def cause? : Failure → Option Error
  | opening _ error => some error
  | connecting _ _ error => some error
  | disconnecting _ _ error => some error
  | listening _ error => some error
  | _ => none

def breaksDown : Failure → Bool
  | overlong => true
  | _ => false

/-- Where the program broke down is left out. -/
def text (f : Failure) : String :=
  if f.breaksDown then f.message ++ "\n"
  else "Error: " ++ f.message ++ "\n" ++
    match f.cause? with
    | some error => "\nCaused by:\n    " ++ error.message ++ "\n"
    | none => ""

def exitCode (f : Failure) : Nat :=
  if f.breaksDown then 101 else 1

end Failure

structure Report where
  lines : List String := []
  failure : Option Failure := none
  deriving DecidableEq

namespace Report

def failed (f : Failure) : Report := { failure := some f }

def output (r : Report) : String :=
  String.join (r.lines.map (· ++ "\n"))

/-- What the program ends with: 0 where nothing went wrong. -/
def exitCode (r : Report) : Nat :=
  (r.failure.map Failure.exitCode).getD 0

end Report

/-- A command line that is not understood ends with 2. -/
def usageExitCode : Nat := 2

end MidiSequencer.Cli
