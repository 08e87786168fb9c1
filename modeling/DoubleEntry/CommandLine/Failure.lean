/-
DoubleEntry/CommandLine/Failure.lean

Why a command failed: what it was about to do, and below that the causes.
The first error of the ledger among the causes decides the exit code and
what the event log and JSON output say about it.
-/
import DoubleEntry.Envelope
import DoubleEntry.EventLog.Event
import DoubleEntry.Migration.Run

namespace DoubleEntry.CommandLine

/-- A failure: texts from the outermost cause to the innermost, and the
error of the ledger among them. -/
structure Failure where
  texts : List String
  cause : Option Error := none
  deriving Repr

namespace Failure

/-- The failure by an error of the ledger.  An error of the system stands
below the error that reports it. -/
def ofError (e : Error) : Failure :=
  let below :=
    match e with
    | .io reason | .json reason => [reason]
    | _ => []
  { texts := e.message :: below, cause := some e }

/-- The failure by a cause that is no error of the ledger. -/
def ofText (text : String) : Failure :=
  { texts := [text] }

/-- The failure of a database that was used directly. -/
def ofFault (f : Fault) : Failure :=
  ofText ("storage failure: " ++ f.message)

/-- The failure of a run of migrations. -/
def ofMigration (e : MigrationError) : Failure :=
  { texts :=
      (if e.message.isEmpty then [] else [e.message]) ++ ["storage failure: migration failed"] }

/-- The failure with what was being done above it. -/
def within (context : String) (f : Failure) : Failure :=
  { f with texts := context :: f.texts }

/-- The text of a failure. -/
def message (f : Failure) : String :=
  String.intercalate ": " f.texts

/-- The kind of a failure, if the ledger has one for it. -/
def kind? (f : Failure) : Option ErrorKind :=
  f.cause.map Error.kind

/-- The exit code of a failure. -/
def exitCode (f : Failure) : Nat :=
  match f.kind? with
  | some .notFound => 2
  | some .constraintViolation => 3
  | _ => 1

/-- The envelope of a failure. -/
def envelope (f : Failure) : Envelope :=
  { Envelope.fail f.message with errorKind := f.kind? }

/-- What an event says about a failure. -/
def describe (f : Failure) (e : LogEvent) : LogEvent :=
  match f.cause with
  | some error => e.withError error
  | none => e.withErrorMessage f.message

end Failure

end DoubleEntry.CommandLine
