/-
DoubleEntry/Json/Decode.lean

Reading a record from its text.
-/
import DoubleEntry.Error
import DoubleEntry.Json.Reader

namespace DoubleEntry.Json

/-- Reads a record from a text that holds it and nothing else. -/
def decode {α : Type} (ofWritten? : Written → Option α) (s : String) : Except Error α :=
  match (Written.read? s).bind ofWritten? with
  | some a => .ok a
  | none => .error (.json "the text is not such a record")

end DoubleEntry.Json
