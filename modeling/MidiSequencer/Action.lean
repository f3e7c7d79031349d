import MidiSequencer.Call
import MidiSequencer.Error
import MidiSequencer.Program

/-! # Actions of a client

Programs that talk to the sequencer and may fail. A negative status of a command is an error that
names the call; so is any status answered in place of data.
-/
namespace MidiSequencer

/-- A program over what a client can ask for. -/
abbrev Dialogue (α : Type) := Program Request Request.Answer α

abbrev Dialogue.History := Program.History Request Request.Answer

def Dialogue.ask (q : Request) : Dialogue q.Answer :=
  Program.query q

/-- A dialogue that ends with a value or an error. -/
abbrev Action (α : Type) := ExceptT Error (Program Request Request.Answer) α

namespace Action

def ask (q : Request) : Action q.Answer :=
  ExceptT.lift (Dialogue.ask q)

def perform (c : Call) : Action c.Answer :=
  ask (.call c)

end Action

def checkStatus (c : Call) (status : Status) : Except Error Status :=
  if status < 0 then .error (.service c.label status) else .ok status

def checkAnswer {α : Type} (c : Call) : Except Status α → Except Error α
  | .ok a => .ok a
  | .error status => .error (.service c.label status)

/-- In place of the next entry of an enumeration, `notFound` says that there is none, and so does a
status that is no failure. -/
def checkNext {α : Type} (c : Call) : Except Status α → Except Error (Option α)
  | .ok a => .ok (some a)
  | .error status =>
    if status = Status.notFound then .ok none
    else (checkStatus c status).map fun _ => none

/-- Names are handed over with a nul at their end, so none may stand inside. -/
def checkName (name : String) : Except Error String :=
  if name.toList.contains '\x00' then .error (.usage .interiorNul) else .ok name

end MidiSequencer
