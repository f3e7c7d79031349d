import MidiSequencer.Simulation.Scene
import MidiSequencer.Simulation.Script
import MidiSequencer.Simulation.Store

/-! # The store under a script

The sequencer in memory with answers forced by a script and a log of its calls. A forced call is
logged like any other and does nothing else; calls for input and output are not logged.
-/
namespace MidiSequencer

structure Rehearsal where
  store : Store
  script : Script := {}
  log : List Call := []

namespace Rehearsal

def isLogged : Call → Bool
  | .eventInput => false
  | .command (.eventOutput _) => false
  | .command (.eventOutputDirect _) => false
  | .command .drainOutput => false
  | .release => false
  | _ => true

def answer (c : Call) (r : Rehearsal) : c.Answer × Rehearsal :=
  let log := if isLogged c then r.log ++ [c] else r.log
  let (forced, script) := if c = .release then (none, r.script) else r.script.take c.name
  match forced with
  | some status => (c.forced status, { r with script, log })
  | none =>
    let (answer, store) := r.store.answer c
    (answer, { store, script, log })

/-- What can happen to the sequencer behind the connection. -/
inductive Change where
  | pushInput (events : List Event)
  | force (rows : List (String × List (Option Status)))
  | block (calls : Nat)
  | setup (clients : List ClientInfo) (ports : List PortInfo)
  | removeClient (client : Int)
  | clearLog

def change : Change → Rehearsal → Rehearsal
  | .pushInput events, r => { r with store.input := r.store.input ++ events }
  | .force rows, r => { r with script := r.script.appendAll rows }
  | .block calls, r => { r with store.blocks := calls }
  | .setup clients ports, r =>
    { r with store := ports.foldl Store.addPort (clients.foldl Store.addClient r.store) }
  | .removeClient client, r =>
    { r with store.clients := r.store.clients.filter fun c => c.clientId != client }
  | .clearLog, r => { r with log := [] }

def simulator : Simulator Rehearsal Change := { answer, change }

end Rehearsal

end MidiSequencer
