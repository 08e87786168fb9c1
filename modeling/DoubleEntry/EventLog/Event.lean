/-
DoubleEntry/EventLog/Event.lean

Events and the entries that the event log keeps of them.  An event names
what happened, the command, the operation, and the kind and text of an
error; it has no room for owners, balances or amounts.
-/
import DoubleEntry.Error
import DoubleEntry.Json.Record

namespace DoubleEntry

open DoubleEntry.Json

/-! ### Events -/

/-- What recorded an event. -/
inductive EntryPoint where
  | cli
  | library
  deriving DecidableEq, Repr

/-- The name of an entry point. -/
def EntryPoint.name : EntryPoint → String
  | .cli => "cli"
  | .library => "library"

/-- The entry point with a name. -/
def EntryPoint.ofName? (s : String) : Option EntryPoint :=
  [cli, library].find? fun p => p.name = s

/-- Something that happened. -/
structure LogEvent where
  event : String
  command : Option String := none
  operationId : Option String := none
  errorKind : Option String := none
  errorMessage : Option String := none
  deriving DecidableEq, Repr

namespace LogEvent

/-- An event with nothing but a name. -/
def new (event : String) : LogEvent :=
  { event }

/-- Names the command. -/
def withCommand (e : LogEvent) (command : String) : LogEvent :=
  { e with command := some command }

/-- Names the operation. -/
def withOperationId (e : LogEvent) (operationId : String) : LogEvent :=
  { e with operationId := some operationId }

/-- Records an error of the ledger: its kind and its text. -/
def withError (e : LogEvent) (error : Error) : LogEvent :=
  { e with errorKind := some error.kind.name, errorMessage := some error.message }

/-- Records the text of any other error. -/
def withErrorMessage (e : LogEvent) (message : String) : LogEvent :=
  { e with errorMessage := some message }

end LogEvent

/-! ### Entries -/

/-- An event as the log keeps it. -/
structure LogEntry where
  id : UInt64
  timestamp : Int64
  entryPoint : String
  appVersion : String
  platform : String
  event : String
  command : Option String
  operationId : Option String
  errorKind : Option String
  errorMessage : Option String
  deriving DecidableEq, Repr

/-! ### JSON -/

/-- An entry point as JSON. -/
def EntryPoint.toJson (p : EntryPoint) : Json :=
  .string p.name

/-- Reads an entry point. -/
def EntryPoint.ofWritten? (w : Written) : Option EntryPoint :=
  w.name?.bind EntryPoint.ofName?

/-- The fields of an event. -/
def LogEvent.fieldNames : List String :=
  ["event", "command", "operation_id", "error_kind", "error_message"]

/-- An event as JSON, without the fields that are absent. -/
def LogEvent.toJson (e : LogEvent) : Json :=
  .object <|
    [("event", Json.string e.event)]
      ++ (e.command.map fun s => ("command", Json.string s)).toList
      ++ (e.operationId.map fun s => ("operation_id", Json.string s)).toList
      ++ (e.errorKind.map fun s => ("error_kind", Json.string s)).toList
      ++ (e.errorMessage.map fun s => ("error_message", Json.string s)).toList

/-- Reads an event. -/
def LogEvent.ofWritten? (w : Written) : Option LogEvent :=
  match w.fields? fieldNames with
  | some [event, command, operationId, errorKind, errorMessage] => do
      return {
        event := ← required Written.string? event
        command := ← optional Written.string? command
        operationId := ← optional Written.string? operationId
        errorKind := ← optional Written.string? errorKind
        errorMessage := ← optional Written.string? errorMessage }
  | _ => none

/-- The fields of an entry. -/
def LogEntry.fieldNames : List String :=
  ["id", "timestamp", "entry_point", "app_version", "platform", "event", "command", "operation_id",
    "error_kind", "error_message"]

/-- An entry as JSON; a field that is absent is null. -/
def LogEntry.toJson (e : LogEntry) : Json :=
  .object
    [("id", .int e.id.toNat), ("timestamp", .ofInt64 e.timestamp),
      ("entry_point", .string e.entryPoint), ("app_version", .string e.appVersion),
      ("platform", .string e.platform), ("event", .string e.event),
      ("command", .ofOption .string e.command), ("operation_id", .ofOption .string e.operationId),
      ("error_kind", .ofOption .string e.errorKind),
      ("error_message", .ofOption .string e.errorMessage)]

/-- Reads an entry. -/
def LogEntry.ofWritten? (w : Written) : Option LogEntry :=
  match w.fields? fieldNames with
  | some [id, timestamp, entryPoint, appVersion, platform, event, command, operationId, errorKind,
      errorMessage] => do
      return {
        id := ← required Written.uint64? id
        timestamp := ← required Written.int64? timestamp
        entryPoint := ← required Written.string? entryPoint
        appVersion := ← required Written.string? appVersion
        platform := ← required Written.string? platform
        event := ← required Written.string? event
        command := ← optional Written.string? command
        operationId := ← optional Written.string? operationId
        errorKind := ← optional Written.string? errorKind
        errorMessage := ← optional Written.string? errorMessage }
  | _ => none

end DoubleEntry
