/-
DoubleEntry/CommandLine/LogSession.lean

The commands on the event log.  Each is an action on the log that ends with
the text to print.
-/
import DoubleEntry.CommandLine.Session

namespace DoubleEntry.CommandLine

open DoubleEntry.Text DoubleEntry.CommandLine.Action

/-- A run of one command on an open event log. -/
structure LogSession where
  json : Bool
  color : Bool
  reply : Option Bool
  now : Instant
  /-- The file of the log, and its size. -/
  path : String
  size : Nat

namespace LogSession

variable (s : LogSession)

/-- Lists the latest entries, or the latest that carry an error. -/
def list (limit : UInt64) (errors : Bool) : Action EventLog String := do
  let log ← get
  let es ← orFail Failure.ofFault (if errors then log.recentErrors limit else log.recent limit)
  presentList s.json s.color LogEntry.toJson "No log entries found." es
    (pure (logText s.color errors es))

/-- The instant a number of days ago. -/
def daysAgo? (days : Int64) : Option Instant :=
  (Duration.ofDays? days).bind fun d => s.now.add? d.neg

/-- Deletes the entries older than a number of days, once that has been
confirmed. -/
def clear (days : Int64) (force : Bool) : Action EventLog String := do
  let cutoff ← orCrash (s.daysAgo? days)
  let question := "Delete logs older than " ++ int64Text days ++ " days?"
  if ← confirm (force || s.json) s.reply question then
    let (deleted, log) := (← get).deleteBefore cutoff.toMillis
    set log
    present s.json (deletedJson (.ofNat deleted))
      (pure (lines ["Deleted " ++ natText deleted ++ " log entries"]))
  else return cancelledText

/-- Shows what is known about the log. -/
def stats : Action EventLog String := do
  let log ← get
  let stats : LogStats :=
    { total := log.count, byKind := log.errorCounts, path := s.path, size := s.size }
  present s.json stats.toJson (pure (stats.text s.color))

/-- The commands about the event log. -/
def run : LogsCommand → Action EventLog String
  | .list limit errors => s.list limit errors
  | .clear days force => s.clear days force
  | .stats => s.stats

end LogSession

end DoubleEntry.CommandLine
