import MidiSequencer.Status

/-! # Scripts of forced answers

For each call by name, what its next executions answer in place of their work: a status, or nothing
when the call works normally.
-/
namespace MidiSequencer

structure Script where
  entries : List (String × List (Option Status)) := []

namespace Script

/-- The next entry of a call, which is used up. -/
def take (s : Script) (name : String) : Option Status × Script :=
  match s.entries.lookup name with
  | some (entry :: _) =>
    (entry, ⟨s.entries.map fun row => if row.1 == name then (row.1, row.2.drop 1) else row⟩)
  | _ => (none, s)

/-- Adds entries behind those that are left. -/
def append (s : Script) (name : String) (entries : List (Option Status)) : Script :=
  if s.entries.any fun row => row.1 == name then
    ⟨s.entries.map fun row => if row.1 == name then (row.1, row.2 ++ entries) else row⟩
  else ⟨s.entries ++ [(name, entries)]⟩

def appendAll (s : Script) (rows : List (String × List (Option Status))) : Script :=
  rows.foldl (fun s row => s.append row.1 row.2) s

end Script

end MidiSequencer
