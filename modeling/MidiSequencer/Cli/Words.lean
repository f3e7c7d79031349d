import MidiSequencer.Text.Split

/-! # Words of a command line

Options stand for themselves, take the word behind them or carry their value behind an equals sign.
The other words are positional arguments. Two dashes alone say that no options follow.
-/
namespace MidiSequencer.Cli

/-- What is wrong with a command line. -/
inductive UsageError where
  | unknownOption (word : String)
  | unexpectedValue (option : String)
  | missingValue (option : String)
  | repeated (option : String)
  | unexpectedWord (word : String)
  | missingCommand
  | unknownCommand (word : String)
  | missingArgument (name : String)
  | invalidValue (name value : String)
  deriving DecidableEq

namespace UsageError

def message : UsageError → String
  | unknownOption word => "unknown option " ++ word
  | unexpectedValue option => "option --" ++ option ++ " takes no value"
  | missingValue option => "option --" ++ option ++ " needs a value"
  | repeated option => "option --" ++ option ++ " is given more than once"
  | unexpectedWord word => "unexpected argument " ++ word
  | missingCommand => "no command is given"
  | unknownCommand word => "unknown command " ++ word
  | missingArgument name => "missing argument " ++ name
  | invalidValue name value => "invalid value " ++ value ++ " for " ++ name

end UsageError

/-- How an option may be given: without a value, with one, or any number of times with one. -/
inductive Arity where
  | flag | value | values
  deriving DecidableEq

/-- The options that are known and how many positional arguments are expected. -/
structure Grammar where
  options : List (String × Arity) := []
  positionals : Nat := 0

/-- What was read: options with their values, a flag with an empty one, and positional arguments. -/
structure Given where
  options : List (String × String) := []
  positionals : List String := []
  deriving DecidableEq

namespace Given

def has (g : Given) (option : String) : Bool :=
  g.options.any fun row => row.1 == option

def values (g : Given) (option : String) : List String :=
  (g.options.filter fun row => row.1 == option).map Prod.snd

def value? (g : Given) (option : String) : Option String :=
  g.options.lookup option

def addOption (g : Given) (arity : Arity) (option value : String) : Except UsageError Given :=
  if arity ≠ .values ∧ g.has option then .error (.repeated option)
  else .ok { g with options := g.options ++ [(option, value)] }

def addPositionals (g : Given) (words : List String) : Given :=
  { g with positionals := g.positionals ++ words }

end Given

inductive Word where
  | terminator
  | option (name : String) (value : Option String)
  | dashed
  | plain
  deriving DecidableEq

/-- A dash alone is a plain word. -/
def Word.ofString (s : String) : Word :=
  match s.toList with
  | ['-', '-'] => terminator
  | '-' :: '-' :: rest =>
    let (name, value) := Text.splitFirst (· == '=') rest
    option (String.ofList name) (value.map String.ofList)
  | '-' :: _ :: _ => dashed
  | _ => plain

namespace Grammar

/-- Reads options and as many positional arguments as are expected; the words from the first one too
many on are left over. -/
def read (m : Grammar) (g : Given) : List String → Except UsageError (Given × List String)
  | [] => .ok (g, [])
  | word :: rest =>
    match Word.ofString word with
    | .plain =>
      if g.positionals.length < m.positionals then m.read (g.addPositionals [word]) rest
      else .ok (g, word :: rest)
    | .terminator =>
      if g.positionals.length + rest.length ≤ m.positionals then .ok (g.addPositionals rest, [])
      else .ok (g, word :: rest)
    | .dashed => .error (.unknownOption word)
    | .option name attached =>
      match m.options.lookup name, attached with
      | none, _ => .error (.unknownOption word)
      | some .flag, some _ => .error (.unexpectedValue name)
      | some .flag, none => do
        let g ← g.addOption .flag name ""
        m.read g rest
      | some arity, some value => do
        let g ← g.addOption arity name value
        m.read g rest
      | some arity, none =>
        match rest with
        | [] => .error (.missingValue name)
        | value :: rest =>
          if Word.ofString value = .plain then do
            let g ← g.addOption arity name value
            m.read g rest
          else .error (.missingValue name)

/-- Every word has to be read. -/
def readAll (m : Grammar) (words : List String) : Except UsageError Given := do
  match ← m.read {} words with
  | (g, []) => return g
  | (_, word :: _) => throw (.unexpectedWord word)

end Grammar

end MidiSequencer.Cli
