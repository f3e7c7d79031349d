import MidiSequencer.Status
import MidiSequencer.Text.Blank
import MidiSequencer.Text.Number
import MidiSequencer.Text.Quoted

/-! # Errors

What can go wrong between a caller and the sequencer, as causes; the wording is one function of the
cause. A status that is not negative is never an error by itself. Left out are the errors of the
reactor behind a suspending client: registering the descriptor there, and awaiting it, cannot fail.
-/
namespace MidiSequencer

/-- Arguments that cannot be used, or not together. -/
inductive Misuse where
  | address (text : String)
  | interiorNul
  | portForClientQuery
  | foreignPort (owner client : Int)
  | other (text : String)
  deriving DecidableEq

def Misuse.message : Misuse → String
  | address text => "invalid address " ++ Text.quote text.toList
  | interiorNul => "name contains an interior nul byte"
  | portForClientQuery => "a port can't continue a client query"
  | foreignPort owner client =>
    "previous port belongs to client " ++ Text.signed owner ++ ", not " ++ Text.signed client
  | other text => text

inductive Error where
  | closed
  | service (call : String) (status : Status)
  | usage (cause : Misuse)
  | pollDescriptors (count : Nat)
  | pollEvents (wanted got : UInt16)
  | poll (number : Int)
  deriving DecidableEq

namespace Error

def message : Error → String
  | closed => "already closed"
  | service call status =>
    call ++ " failed: " ++ (ErrorNumber.ofInt (-status)).description ++ " (" ++
      Text.signed status ++ ")"
  | usage cause => "invalid argument: " ++ cause.message
  | pollDescriptors count =>
    "expected exactly one poll descriptor, sequencer reported " ++ Text.decimal count
  | pollEvents wanted got =>
    "poll descriptor reports events " ++ Text.hexadecimal got.toNat ++ ", needs " ++
      Text.hexadecimal wanted.toNat
  | poll number =>
    "poll failed: " ++ (ErrorNumber.ofInt number).name ++ ": " ++
      (ErrorNumber.ofInt number).description

def status? : Error → Option Status
  | service _ status => some status
  | _ => none

def isWouldBlock (e : Error) : Bool :=
  e.status? == some Status.wouldBlock

end Error

end MidiSequencer
