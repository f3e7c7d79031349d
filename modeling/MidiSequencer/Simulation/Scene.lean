import MidiSequencer.Session
import MidiSequencer.Simulation.Line

/-! # Scenes

A sequencer simulated in memory, together with the surroundings of its client. Things may happen
behind the connection between two operations of a session, or while a suspending client waits.
-/
namespace MidiSequencer

/-- A simulated sequencer answers calls and undergoes changes that the client does not make. -/
structure Simulator (σ χ : Type) where
  answer : (c : Call) → σ → c.Answer × σ
  change : χ → σ → σ

/-- What happens behind the connection. -/
inductive Incident (χ : Type) where
  | wake
  | change (change : χ)

structure Scene (σ χ : Type) where
  sequencer : σ
  line : Line := {}
  /-- What happens as soon as a suspending client has to wait. -/
  awaited : List (Incident χ) := []

namespace Scene

variable {σ χ : Type}

def occur (m : Simulator σ χ) (s : Scene σ χ) : Incident χ → Scene σ χ
  | .wake => { s with line := s.line.wake }
  | .change x => { s with sequencer := m.change x s.sequencer }

/-- Others act only after the reactor has looked. -/
def occurAwaited (m : Simulator σ χ) (s : Scene σ χ) : Scene σ χ :=
  if s.awaited.isEmpty then s
  else s.awaited.foldl (occur m) { s with line := s.line.look, awaited := [] }

/-- A client with nothing ready lets others act. -/
def yield (m : Simulator σ χ) (s : Scene σ χ) (interest : Interest) : Scene σ χ :=
  if s.line.seenReady interest then s else s.occurAwaited m

def answer (m : Simulator σ χ) : Machine Request Request.Answer (Scene σ χ)
  | .call .release, s =>
    let (r, sequencer) := m.answer .release s.sequencer
    (r, { s with sequencer, line := s.line.close })
  | .call c, s =>
    let (r, sequencer) := m.answer c s.sequencer
    (r, { s with sequencer })
  | .now, s =>
    let (r, line) := s.line.now
    (r, { s with line })
  | .poll interest milliseconds, s =>
    let (r, line) := s.line.poll interest milliseconds
    (r, { s with line })
  | .suspend interest limit, s =>
    let s := s.yield m interest
    let (r, line) := s.line.suspend interest limit
    (r, { s with line })
  | .clearReady interest, s => ((), { s with line := s.line.clear interest })
  | .pause milliseconds, s => ((), { s with line := s.line.pause milliseconds })

end Scene

/-- One step of a run: an operation of the session, one during whose wait something happens, or an
incident between operations. -/
inductive Step (χ : Type) where
  | perform (operation : Operation)
  | performDuring (operation : Operation) (incidents : List (Incident χ))
  | happen (incident : Incident χ)

/-- A session with the scene it plays in. -/
structure Play (σ χ : Type) where
  session : Session
  scene : Scene σ χ

namespace Play

variable {σ χ : Type}

def perform (m : Simulator σ χ) (bound : Nat) (p : Play σ χ) (operation : Operation) :
    Option Outcome × Play σ χ :=
  match (p.session.perform bound operation).run (Scene.answer m) p.scene with
  | (some (outcome, session), scene) => (some outcome, { session, scene })
  | (none, scene) => (none, { p with scene })

/-- An incident has no outcome but that it happened; an operation that does not end within the bound
has none at all. While a blocking client performs, nobody else acts, so only a suspending one offers
an operation with incidents. -/
def step (m : Simulator σ χ) (bound : Nat) (p : Play σ χ) : Step χ → Option Outcome × Play σ χ
  | .perform operation => p.perform m bound operation
  | .performDuring operation incidents =>
    match p.session.mode with
    | .blocking => (some .unsupported, p)
    | .suspending =>
      let p := { p with scene.awaited := p.scene.awaited ++ incidents }
      let (outcome, p) := p.perform m bound operation
      (outcome, { p with scene := p.scene.occurAwaited m })
  | .happen incident => (some (.value .unit), { p with scene := p.scene.occur m incident })

/-- The outcomes of all steps, in order, and what is left at the end. -/
def run (m : Simulator σ χ) (bound : Nat) (p : Play σ χ) : List (Step χ) →
    List (Option Outcome) × Play σ χ
  | [] => ([], p)
  | step :: steps =>
    let (outcome, p) := p.step m bound step
    let (outcomes, p) := p.run m bound steps
    (outcome :: outcomes, p)

/-- The scene after the session was ended. -/
def finish (m : Simulator σ χ) (p : Play σ χ) : Scene σ χ :=
  (p.session.finish.run (Scene.answer m) p.scene).2

end Play

end MidiSequencer
