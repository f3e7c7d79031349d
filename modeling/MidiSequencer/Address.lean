import MidiSequencer.Error
import MidiSequencer.Text.Split

/-! # Addresses

The two bytes that name a port of a client, the addresses with a meaning of their own, and their
text. A text is a symbolic name, one number for port 0 of that client, or two numbers around a
colon.
-/
namespace MidiSequencer

structure Address where
  client : UInt8
  port : UInt8
  deriving DecidableEq

namespace Address

/-- The low eight bits of a number. -/
def lowByte (n : Int) : UInt8 :=
  UInt8.ofNat (n.emod 256).toNat

def ofIds (client port : Int) : Address :=
  ⟨lowByte client, lowByte port⟩

def unknown : UInt8 := 253
def subscribers : UInt8 := 254

def systemTimer : Address := ⟨0, 0⟩
def systemAnnounce : Address := ⟨0, 1⟩
/-- Everybody subscribed to the sending port. -/
def allSubscribers : Address := ⟨subscribers, unknown⟩
def broadcast : Address := ⟨255, 255⟩

def text (a : Address) : String :=
  Text.decimal a.client.toNat ++ ":" ++ Text.decimal a.port.toNat

/-- The address that a text without blanks at its ends stands for. -/
def read (s : List Char) : Option Address :=
  if s = "subscribers".toList then some allSubscribers
  else if s = "broadcast".toList then some broadcast
  else do
    let (client, port) := Text.splitFirst (· == ':') s
    let c ← Text.readByte client
    let p ← Text.readByte (port.getD ['0'])
    return ⟨c, p⟩

def parse (s : String) : Except Error Address :=
  let t := Text.trim s.toList
  match read t with
  | some a => .ok a
  | none => .error (.usage (.address (String.ofList t)))

/-- Clients first, then ports. -/
def le (a b : Address) : Bool :=
  a.client < b.client || (a.client == b.client && a.port ≤ b.port)

/-- In order and without repetition. -/
def sort (addresses : List Address) : List Address :=
  (addresses.mergeSort le).foldr (fun a rest => if rest.head? = some a then rest else a :: rest) []

end Address

end MidiSequencer
