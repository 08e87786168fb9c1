/-
DoubleEntry/Migration/Run.lean

Running migrations.  A list of migrations is walked in order, those on
record are skipped, and each of the others runs together with its record in
one transaction: it has its whole effect or none.

The migration that creates the table of records is run beforehand each time,
outside any transaction, so that the records can be looked up at all.
-/
import DoubleEntry.Migration.Catalog

namespace DoubleEntry

/-- A named change of the catalog. -/
structure Migration where
  name : String
  statements : List Statement
  deriving DecidableEq, Repr

/-- Why a run of migrations ended early. -/
inductive MigrationError where
  | bootstrapFailed
  | recordsUnreadable
  | failed (name : String)
  deriving DecidableEq, Repr

/-- The text of an error, empty where only the database has one. -/
def MigrationError.message : MigrationError → String
  | .bootstrapFailed => "failed to create sys_migrations"
  | .recordsUnreadable => ""
  | .failed name => "migration " ++ name ++ " failed"

/-- What a run did: the names newly applied, and the number of migrations
that were on record. -/
structure MigrationReport where
  applied : List String
  alreadyApplied : Nat
  deriving DecidableEq, Repr

namespace Migration

/-- The name of the migration that creates the table of records. -/
def bootstrapName : String := "000_migrations.sql"

/-- Runs the statements, keeping those before the first that fails.  A text
with a malformed statement fails before any of it runs. -/
def execute (m : Migration) (c : Catalog) : Bool × Catalog :=
  if m.statements.contains .malformed then (false, c) else runStatements c m.statements

/-- Runs the statements and records the migration, or does nothing. -/
def install? (m : Migration) (c : Catalog) : Option Catalog :=
  match m.execute c with
  | (true, c) => c.record? m.name
  | (false, _) => none

/-- Runs the migration that creates the table of records, if the list has
it. -/
def bootstrap (ms : List Migration) (c : Catalog) : Bool × Catalog :=
  match ms.find? fun m => m.name = bootstrapName with
  | some m => m.execute c
  | none => (true, c)

/-- Applies the migrations that are not among the names on record, up to the
first that fails; gives the names of those that were applied. -/
def applyPending (onRecord : List String) (c : Catalog) :
    List Migration → Except MigrationError (List String) × Catalog
  | [] => (.ok [], c)
  | m :: ms =>
      if onRecord.contains m.name then applyPending onRecord c ms
      else
        match m.install? c with
        | none => (.error (.failed m.name), c)
        | some c =>
            let (result, c) := applyPending onRecord c ms
            (result.map (m.name :: ·), c)

/-- Runs all migrations that are not on record. -/
def runPending (ms : List Migration) (c : Catalog) :
    Except MigrationError MigrationReport × Catalog :=
  match bootstrap ms c with
  | (false, c) => (.error .bootstrapFailed, c)
  | (true, c) =>
      match c.applied? with
      | none => (.error .recordsUnreadable, c)
      | some onRecord =>
          let (result, c) := applyPending onRecord c ms
          (result.map fun names => ⟨names, ms.length - names.length⟩, c)

/-- The names of the migrations on record. -/
def applied (c : Catalog) : Except MigrationError (List String) :=
  match c.applied? with
  | some names => .ok names
  | none => .error .recordsUnreadable

/-- The names of the migrations not on record, in the order of the list. -/
def pending (ms : List Migration) (c : Catalog) : Except MigrationError (List String) :=
  (applied c).map fun onRecord =>
    (ms.map (·.name)).filter fun name => !onRecord.contains name

end Migration

end DoubleEntry
