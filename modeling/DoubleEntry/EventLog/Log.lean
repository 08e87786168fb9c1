/-
DoubleEntry/EventLog/Log.lean

The event log: a database of its own with one table of entries.  An entry
gets the time it was recorded at and an id made of a time and a counter;
entries are listed from the latest time and the highest id down.
-/
import DoubleEntry.EventLog.Event
import DoubleEntry.Migration.Schema
import DoubleEntry.Text.Decimal
import DoubleEntry.Time.Instant

namespace DoubleEntry

open DoubleEntry.Text

/-- The database of the event log. -/
structure EventLog where
  catalog : Catalog := {}
  entries : List LogEntry := []
  deriving DecidableEq, Repr

/-- What an entry says about the program that recorded it. -/
structure LogSource where
  entryPoint : EntryPoint
  appVersion : String
  platform : String := "linux"
  deriving DecidableEq, Repr

/-- What the clock and the counter show while an event is recorded.  The
clock is read for the id first, and then once more for the time of the
entry. -/
structure Stamp where
  idTime : Instant
  counter : Nat
  time : Instant
  deriving DecidableEq, Repr

namespace EventLog

/-- The file that holds the event log. -/
def fileName : String := "logs.duckdb"

/-- The log with all migrations run that are not on record. -/
def prepare (log : EventLog) : Except MigrationError EventLog :=
  match Migration.runPending Migration.eventLog log.catalog with
  | (.ok _, catalog) => .ok { log with catalog }
  | (.error e, _) => .error e

/-! ### Recording -/

/-- An id: the time in milliseconds above sixteen bits of a counter. -/
def entryId (ms : Int) (counter : Nat) : UInt64 :=
  UInt64.ofNat ((ms % 18446744073709551616).toNat * 65536 + counter % 65536)

/-- The entry of an event. -/
def entryOf (source : LogSource) (stamp : Stamp) (e : LogEvent) : LogEntry :=
  { id := entryId stamp.idTime.toMillis stamp.counter
    timestamp := Int64.ofInt stamp.time.toMillis
    entryPoint := source.entryPoint.name
    appVersion := source.appVersion
    platform := source.platform
    event := e.event
    command := e.command
    operationId := e.operationId
    errorKind := e.errorKind
    errorMessage := e.errorMessage }

/-- Adds an entry; each id can be used once. -/
def insert (entry : LogEntry) (log : EventLog) : Except Fault EventLog :=
  if !log.catalog.hasTable Migration.logTable.name then
    .error (.noSuchTable Migration.logTable.name)
  else if log.entries.any fun e => e.id = entry.id then .error (.described "duplicate key")
  else .ok { log with entries := log.entries ++ [entry] }

/-- Records an event. -/
def record (source : LogSource) (stamp : Stamp) (e : LogEvent) (log : EventLog) :
    Except Fault EventLog :=
  log.insert (entryOf source stamp e)

/-! ### Looking up -/

/-- Whether one entry is listed before another, or could be. -/
def laterOrSame (a b : LogEntry) : Bool :=
  b.timestamp.toInt < a.timestamp.toInt || (a.timestamp = b.timestamp && b.id.toNat ≤ a.id.toNat)

/-- At most `limit` of some entries, the latest first.  A limit that is no
signed 64-bit integer is none. -/
def latest (limit : UInt64) (entries : List LogEntry) : Except Fault (List LogEntry) :=
  if limit.toNat < 9223372036854775808 then .ok ((entries.mergeSort laterOrSame).take limit.toNat)
  else .error .badPage

/-- The entries that carry an error. -/
def withErrors (log : EventLog) : List LogEntry :=
  log.entries.filter fun e => e.errorMessage.isSome

/-- The latest entries. -/
def recent (limit : UInt64) (log : EventLog) : Except Fault (List LogEntry) :=
  latest limit log.entries

/-- The latest entries that carry an error. -/
def recentErrors (limit : UInt64) (log : EventLog) : Except Fault (List LogEntry) :=
  latest limit log.withErrors

/-- The number of entries. -/
def count (log : EventLog) : Nat :=
  log.entries.length

/-- The kind that an entry counts under. -/
def countedKind (e : LogEntry) : String :=
  e.errorKind.getD "other"

/-- Whether a count is listed before another, or could be: the larger
number first, then by kind. -/
def countBefore (a b : String × Nat) : Bool :=
  b.2 < a.2 || (a.2 = b.2 && a.1 ≤ b.1)

/-- The number of errors of each kind. -/
def errorCounts (log : EventLog) : List (String × Nat) :=
  let kinds := log.withErrors.map countedKind
  (kinds.eraseDups.map fun k => (k, kinds.count k)).mergeSort countBefore

/-! ### Clearing -/

/-- Deletes the entries from before a time; gives their number. -/
def deleteBefore (ms : Int) (log : EventLog) : Nat × EventLog :=
  let isOld := fun (e : LogEntry) => e.timestamp.toInt < ms
  ((log.entries.filter isOld).length,
    { log with entries := log.entries.filter fun e => !isOld e })

end EventLog

end DoubleEntry
