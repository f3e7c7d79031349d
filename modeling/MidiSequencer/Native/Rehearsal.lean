import MidiSequencer.Native.Kernel
import MidiSequencer.Native.Service
import MidiSequencer.Simulation.Scene
import MidiSequencer.Simulation.Script

/-! # The native tables under a script

The native sequencer in memory with answers forced by a script and a log of its calls, and a
connection served by it. A call forced to answer that it would block is not logged, nor are input
and the handling of descriptors.
-/
namespace MidiSequencer.Native

structure Tables where
  kernel : Kernel
  script : Script := {}
  log : List NativeCall := []

namespace Tables

def isLogged : NativeCall → Bool
  | .eventInput => false
  | .allocate _ => false
  | .free _ => false
  | _ => true

def library : Library Tables := fun c t =>
  match t.script.take c.name with
  | (some status, script) =>
    let log := if isLogged c && status != Status.wouldBlock then t.log ++ [c] else t.log
    (c.forced status, { t with script, log })
  | (none, script) =>
    let log := if isLogged c then t.log ++ [c] else t.log
    let (answer, kernel) := t.kernel.answer c
    (answer, { kernel, script, log })

end Tables

/-- A served connection is a simulated sequencer; changes are made behind the library. -/
def Served.simulator {σ χ : Type} (m : Library σ) (change : χ → σ → σ) :
    Simulator (Served σ) χ where
  answer := Served.answer m
  change x s := { s with tables := change x s.tables }

abbrev Rehearsal := Served Tables

namespace Rehearsal

/-- What can happen to the sequencer behind the connection. -/
inductive Change where
  | pushInput (records : List (Option Record))
  | force (rows : List (String × List (Option Status)))
  | setup (clients : List ClientDescriptor) (ports : List PortDescriptor)
  | removeClient (client : Int)
  | clearLog

def change : Change → Tables → Tables
  | .pushInput records, t => { t with kernel.input := t.kernel.input ++ records }
  | .force rows, t => { t with script := t.script.appendAll rows }
  | .setup clients ports, t =>
    { t with
      kernel.clients := t.kernel.clients ++ clients
      kernel.ports := t.kernel.ports ++ ports }
  | .removeClient client, t =>
    { t with kernel.clients := t.kernel.clients.filter fun c => c.client != client }
  | .clearLog, t => { t with log := [] }

def simulator : Simulator Rehearsal Change := Served.simulator Tables.library change

end Rehearsal

end MidiSequencer.Native
