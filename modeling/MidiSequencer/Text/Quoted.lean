import MidiSequencer.Text.Unprintable

/-! # Quoted texts

A text between double quotes. A quote, a backslash and the common controls have short escapes, other
unprintable characters are shown by their code point, and the rest stands for itself.
-/
namespace MidiSequencer.Text

def escape (c : Char) : List Char :=
  if c = '\x00' then ['\\', '0']
  else if c = '\t' then ['\\', 't']
  else if c = '\r' then ['\\', 'r']
  else if c = '\n' then ['\\', 'n']
  else if c = '\\' then ['\\', '\\']
  else if c = '"' then ['\\', '"']
  else if isUnprintable c then
    ['\\', 'u', '\x7b'] ++ Nat.toDigits 16 c.toNat ++ ['\x7d']
  else [c]

def quote (s : List Char) : String :=
  String.ofList ('"' :: s.flatMap escape ++ ['"'])

end MidiSequencer.Text
