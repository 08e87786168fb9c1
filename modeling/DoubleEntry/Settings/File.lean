/-
DoubleEntry/Settings/File.lean

The settings file: JSON with an object `ledger` for the keys below, each of
which may be absent or null.  All other keys, at the top and inside
`ledger`, are kept as they are; the last value of a repeated key counts.
A key below may not be repeated.
-/
import DoubleEntry.Json.Printer
import DoubleEntry.Json.Reader
import DoubleEntry.Json.Record

namespace DoubleEntry

open DoubleEntry.Json

/-- The settings of the ledger. -/
structure LedgerSettings where
  dbFile : Option String := none
  verifyEmailTtlMinutes : Option Int64 := none
  defaultPageSize : Option Int64 := none
  other : List (String × Json) := []
  deriving Repr

/-- The contents of a settings file. -/
structure SettingsFile where
  ledger : LedgerSettings := {}
  other : List (String × Json) := []
  deriving Repr

/-! ### Reading -/

/-- The members of an object with a key, and the others. -/
def splitKey (key : String) (ms : List (String × Written)) :
    List Written × List (String × Written) :=
  ((ms.filter fun m => m.1 = key).map (·.2), ms.filter fun m => m.1 ≠ key)

/-- The value of a key that is given at most once. -/
def single? : List Written → Option (Option Written)
  | [] => some none
  | [w] => some (some w)
  | _ => none

/-- The fields that are kept as they are. -/
def otherFields? (depth : Nat) (ms : List (String × Written)) : Option (List (String × Json)) :=
  Written.membersToJson? depth [] (ms.map fun m => (some m.1, m.2))

namespace LedgerSettings

/-- Reads the settings of the ledger. -/
def ofWritten? : Written → Option LedgerSettings
  | .object members => do
      let ms ← namedMembers? members
      let (dbFile, ms) := splitKey "dbFile" ms
      let (minutes, ms) := splitKey "verifyEmailTtlMinutes" ms
      let (pageSize, ms) := splitKey "defaultPageSize" ms
      return {
        dbFile := ← optional Written.string? (← single? dbFile)
        verifyEmailTtlMinutes := ← optional Written.int64? (← single? minutes)
        defaultPageSize := ← optional Written.int64? (← single? pageSize)
        other := ← otherFields? (maxDepth - 2) ms }
  | _ => none

/-- The settings of the ledger as JSON. -/
def toJson (s : LedgerSettings) : Json :=
  .object <|
    (s.dbFile.map fun v => ("dbFile", Json.string v)).toList
      ++ (s.verifyEmailTtlMinutes.map fun v => ("verifyEmailTtlMinutes", Json.ofInt64 v)).toList
      ++ (s.defaultPageSize.map fun v => ("defaultPageSize", Json.ofInt64 v)).toList
      ++ s.other

end LedgerSettings

namespace SettingsFile

/-- Reads settings. -/
def ofWritten? : Written → Option SettingsFile
  | .object members => do
      let ms ← namedMembers? members
      let (ledger, ms) := splitKey "ledger" ms
      let ledger ←
        match ← single? ledger with
        | none => some {}
        | some w => LedgerSettings.ofWritten? w
      return { ledger, other := ← otherFields? (maxDepth - 1) ms }
  | _ => none

/-- Settings as JSON. -/
def toJson (s : SettingsFile) : Json :=
  .object (("ledger", s.ledger.toJson) :: s.other)

/-- Reads the text of a settings file. -/
def parse? (text : String) : Option SettingsFile :=
  (Written.read? text).bind ofWritten?

/-- The text of a settings file. -/
def render (s : SettingsFile) : String :=
  s.toJson.pretty

end SettingsFile

end DoubleEntry
