/-! # Columns

Texts filled with blanks, or numbers with zeros, to a least width counted in characters.
-/
namespace MidiSequencer.Text

def padRight (width : Nat) (s : String) : String :=
  s ++ String.ofList (List.replicate (width - s.length) ' ')

def padLeft (width : Nat) (fill : Char) (s : String) : String :=
  String.ofList (List.replicate (width - s.length) fill) ++ s

end MidiSequencer.Text
