import MidiSequencer.Cli.Perform
import MidiSequencer.Simulation.Rehearsal

/-! # The program

Reads the command line, performs its command on a sequencer in memory, and prints the report. That
sequencer holds the system client with its two ports, and our own client.
-/
namespace MidiSequencer.Cli

/-- Enough attempts for a wait of some seconds. -/
def attempts : Nat := 10000000

def scene : Scene Rehearsal Rehearsal.Change :=
  { sequencer := { store := Store.initial 128 } }

/-- Prints what the command printed, then what went wrong. -/
def printReport (r : Report) : IO UInt32 := do
  IO.print r.output
  if let some f := r.failure then IO.eprint f.text
  return UInt32.ofNat r.exitCode

def runProgram (args : List String) : IO UInt32 := do
  match Invocation.read args with
  | .error e =>
    IO.eprintln ("error: " ++ e.message)
    return UInt32.ofNat usageExitCode
  | .ok i =>
    match (i.perform attempts).run (Scene.answer Rehearsal.simulator) scene with
    | (some r, _) => printReport r
    | (none, _) =>
      IO.eprintln "error: the command did not come to an end"
      return 1

end MidiSequencer.Cli

def main (args : List String) : IO UInt32 :=
  MidiSequencer.Cli.runProgram args
