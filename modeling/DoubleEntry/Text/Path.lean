/-
DoubleEntry/Text/Path.lean

Paths of files, with a slash between their parts.
-/

namespace DoubleEntry.Text

/-- The path of a file in a directory.  A path that starts at the root stays
as it is. -/
def joinPath (dir file : String) : String :=
  if file.toList.head? = some '/' ∨ dir.isEmpty then file
  else if dir.toList.getLast? = some '/' then dir ++ file
  else dir ++ "/" ++ file

/-- Splits a path at its slashes. -/
def splitSlashes : List Char → List (List Char)
  | [] => [[]]
  | c :: rest =>
      if c = '/' then [] :: splitSlashes rest
      else
        match splitSlashes rest with
        | part :: parts => (c :: part) :: parts
        | [] => [[c]]

/-- The parts of a path, without empty ones and those that stand for the
directory itself. -/
def pathParts (path : String) : List String :=
  ((splitSlashes path.toList).map String.ofList).filter fun p => p ≠ "" && p ≠ "."

end DoubleEntry.Text
