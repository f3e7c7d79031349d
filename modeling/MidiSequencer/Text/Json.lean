import MidiSequencer.Text.Number

/-! # Records as JSON

Lists of flat records, written with one field on a line and two blanks for each level.
-/
namespace MidiSequencer.Text

/-- The value of a field. -/
inductive Scalar where
  | null
  | bool (value : Bool)
  | int (value : Int)
  | text (value : String)
  deriving DecidableEq

abbrev Fields := List (String × Scalar)

namespace Json

/-- Two hexadecimal digits. -/
def hexByte (n : Nat) : List Char :=
  [Nat.digitChar (n / 16), Nat.digitChar (n % 16)]

/-- Controls, quotes and backslashes are escaped, and nothing else. -/
def escape (c : Char) : List Char :=
  if c = '"' then ['\\', '"']
  else if c = '\\' then ['\\', '\\']
  else if c = '\n' then ['\\', 'n']
  else if c = '\r' then ['\\', 'r']
  else if c = '\t' then ['\\', 't']
  else if c = '\x08' then ['\\', 'b']
  else if c = '\x0c' then ['\\', 'f']
  else if c.toNat < 32 then ['\\', 'u', '0', '0'] ++ hexByte c.toNat
  else [c]

def string (s : String) : String :=
  String.ofList ('"' :: s.toList.flatMap escape ++ ['"'])

def scalar : Scalar → String
  | .null => "null"
  | .bool true => "true"
  | .bool false => "false"
  | .int n => signed n
  | .text s => string s

/-- Items on lines of their own, one level deeper than the brackets around them. -/
def block (left right indent : String) : List String → String
  | [] => left ++ right
  | items =>
    left ++ "\n" ++ ",\n".intercalate (items.map fun item => indent ++ "  " ++ item) ++
      "\n" ++ indent ++ right

def record (indent : String) (fields : Fields) : String :=
  block "\x7b" "\x7d" indent (fields.map fun field => string field.1 ++ ": " ++ scalar field.2)

def list (records : List Fields) : String :=
  block "[" "]" "" (records.map (record "  "))

end Json

end MidiSequencer.Text
