/-
DoubleEntry/Store/Database.lean

The ledger database: its catalog, the rows of its tables, and the sequences
that new ids are taken from.  The rows of a table stand in the order of
their ids, since ids only grow.
-/
import DoubleEntry.Migration.Schema
import DoubleEntry.Store.Row

namespace DoubleEntry

/-- The rows of all tables. -/
structure Rows where
  accounts : List AccountRow := []
  entries : List EntryRow := []
  transfers : List TransferRow := []
  users : List UserRow := []
  verifications : List VerificationRow := []
  deriving DecidableEq, Repr

/-- The ids given last, for each table that numbers its rows.  An id is
never given again. -/
structure Sequences where
  account : Nat := 0
  entry : Nat := 0
  transfer : Nat := 0
  verification : Nat := 0
  deriving DecidableEq, Repr

/-- A ledger database. -/
structure Database where
  catalog : Catalog := {}
  rows : Rows := {}
  sequences : Sequences := {}
  deriving DecidableEq, Repr

namespace Database

/-- Runs all migrations of the ledger that are not on record. -/
def migrate (db : Database) : Except MigrationError MigrationReport × Database :=
  let (result, catalog) := Migration.runPending Migration.ledger db.catalog
  (result, { db with catalog })

/-- An empty database with all tables. -/
def fresh : Database :=
  (migrate {}).2

/-- The database with other rows. -/
def withRows (db : Database) (rows : Rows) : Database :=
  { db with rows }

end Database

end DoubleEntry
