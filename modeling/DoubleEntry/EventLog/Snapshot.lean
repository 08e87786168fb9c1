/-
DoubleEntry/EventLog/Snapshot.lean

An event log as JSON, for the file in which it is kept.
-/
import DoubleEntry.EventLog.Log
import DoubleEntry.Migration.Codec

namespace DoubleEntry.EventLog

open DoubleEntry.Json

/-- The parts of an event log: the catalog, and its table by its name. -/
def fieldNames : List String :=
  ["catalog", Migration.logTable.name]

/-- An event log as JSON. -/
def toJson (log : EventLog) : Json :=
  .object <| fieldNames.zip [log.catalog.toJson, .array (log.entries.map LogEntry.toJson)]

/-- Reads an event log. -/
def ofWritten? (w : Written) : Option EventLog :=
  match w.fields? fieldNames with
  | some [catalog, entries] => do
      return {
        catalog := ← required Catalog.ofWritten? catalog
        entries := ← required (Written.list? LogEntry.ofWritten?) entries }
  | _ => none

end DoubleEntry.EventLog
