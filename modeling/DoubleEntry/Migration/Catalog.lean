/-
DoubleEntry/Migration/Catalog.lean

The catalog of a database: which tables it has, with which columns, which
sequences, and which migrations the table of records says were applied.

The statements of migrations are functions on the catalog.  Names do not
distinguish capital from small letters.

A table of records need not be the one that the program makes.  Migrations
can be looked up in any table that has a column for their names; they can be
recorded only where that column takes texts and no other column waits for a
value.
-/

namespace DoubleEntry

/-- Whether two names are the same. -/
def sameName (a b : String) : Bool :=
  a.toList.map Char.toLower = b.toList.map Char.toLower

/-! ### Tables -/

/-- What a column holds. -/
inductive ColumnType where
  | varchar
  | integer
  | bigint
  | ubigint
  | boolean
  | timestamp
  deriving DecidableEq, Repr

/-- What a column gets in a row that is inserted without it. -/
inductive ColumnDefault where
  | null
  /-- A value that is written in the table, or the time. -/
  | value
  /-- The next number of a sequence. -/
  | nextOf (sequence : String)
  deriving DecidableEq, Repr

/-- A column. -/
structure Column where
  name : String
  type : ColumnType := .integer
  /-- Whether a row without a value for it is refused. -/
  isRequired : Bool := false
  /-- Whether a row with the value of another row is refused. -/
  isUnique : Bool := false
  default : ColumnDefault := .null
  deriving DecidableEq, Repr

/-- A name by itself is that of a column of integers, with or without values. -/
instance : Coe String Column :=
  ⟨fun name => { name }⟩

/-- Whether a row can be inserted without the column. -/
def Column.isOptional (c : Column) : Bool :=
  !c.isRequired || c.default ≠ .null

/-- A table. -/
structure Table where
  name : String
  columns : List Column
  deriving DecidableEq, Repr

/-- The column with a name. -/
def Table.column? (t : Table) (name : String) : Option Column :=
  t.columns.find? fun c => sameName c.name name

/-- The names of the columns. -/
def Table.columnNames (t : Table) : List String :=
  t.columns.map (·.name)

/-! ### The table of records -/

/-- The names of the migrations that were applied. -/
def nameColumn : Column :=
  { name := "migration_name", type := .varchar, isRequired := true, isUnique := true }

/-- The table that records the migrations which were applied. -/
def recordTable : Table :=
  { name := "sys_migrations"
    columns := [nameColumn, { name := "applied_at", type := .timestamp, default := .value }] }

/-- Whether a table takes a row with nothing but the name of a migration,
behind rows with other names. -/
def Table.takesRecord (t : Table) (records : List String) (name : String) : Bool :=
  match t.column? nameColumn.name with
  | some c =>
      c.type = .varchar && !(c.isUnique && records.contains name)
        && t.columns.all fun other => sameName other.name c.name || other.isOptional
  | none => false

/-! ### Catalogs -/

/-- The tables and sequences of a database, and the names in its table of
records. -/
structure Catalog where
  tables : List Table := []
  sequences : List String := []
  records : List String := []
  deriving DecidableEq, Repr

namespace Catalog

/-- The table with a name. -/
def table? (c : Catalog) (name : String) : Option Table :=
  c.tables.find? fun t => sameName t.name name

/-- Whether there is a table with a name. -/
def hasTable (c : Catalog) (name : String) : Bool :=
  (c.table? name).isSome

/-- Whether a table has a column. -/
def hasColumn (c : Catalog) (name column : String) : Bool :=
  match c.table? name with
  | some t => (t.column? column).isSome
  | none => false

/-- Whether there is a sequence with a name. -/
def hasSequence (c : Catalog) (name : String) : Bool :=
  c.sequences.any fun s => sameName s name

/-- Whether migrations can be looked up. -/
def keepsRecords (c : Catalog) : Bool :=
  c.hasColumn recordTable.name nameColumn.name

/-- The names of the migrations that were applied, in the order of their
characters; nothing where they cannot be looked up. -/
def applied? (c : Catalog) : Option (List String) :=
  if c.keepsRecords then some (c.records.mergeSort fun a b => a ≤ b) else none

/-- Records a migration, if the table takes the record. -/
def record? (c : Catalog) (name : String) : Option Catalog :=
  match c.table? recordTable.name with
  | some t =>
      if t.takesRecord c.records name then some { c with records := c.records ++ [name] } else none
  | none => none

/-- Takes a migration out of the records; gives the number of records
removed. -/
def unrecord (c : Catalog) (name : String) : Nat × Catalog :=
  if c.keepsRecords then
    ((c.records.filter (· = name)).length, { c with records := c.records.filter (· ≠ name) })
  else (0, c)

/-- The names of the tables, in the order of their characters. -/
def tableNames (c : Catalog) : List String :=
  (c.tables.map (·.name)).mergeSort fun a b => a ≤ b

/-- Whether the sequences are there from which the columns of a table draw. -/
def supplies (c : Catalog) (t : Table) : Bool :=
  t.columns.all fun column =>
    match column.default with
    | .nextOf sequence => c.hasSequence sequence
    | .null | .value => true

/-- The catalog with a new table, if it has none of the name, and the
sequences for it. -/
def create? (c : Catalog) (t : Table) : Option Catalog :=
  if c.hasTable t.name || !c.supplies t then none
  else some { c with tables := c.tables ++ [t] }

/-- The catalog without a table, if it has one of the name. -/
def drop? (c : Catalog) (name : String) : Option Catalog :=
  if c.hasTable name then
    some { c with
      tables := c.tables.filter fun t => !sameName t.name name
      records := if sameName recordTable.name name then [] else c.records }
  else none

/-- The catalog with a sequence. -/
def withSequence (c : Catalog) (name : String) : Catalog :=
  if c.hasSequence name then c else { c with sequences := c.sequences ++ [name] }

end Catalog

/-! ### Statements -/

/-- A statement of a migration. -/
inductive Statement where
  | create (t : Table)
  /-- A table, if absent; the sequences for it have to be there in any case. -/
  | createIfAbsent (t : Table)
  /-- An index, if absent, on a column that has to be there. -/
  | createIndex (table column : String)
  /-- A sequence, if absent. -/
  | createSequence (name : String)
  | drop (name : String)
  /-- A text that is no statement. -/
  | malformed
  deriving DecidableEq, Repr

/-- Runs a statement, unless it fails. -/
def Statement.run? (c : Catalog) : Statement → Option Catalog
  | .create t => c.create? t
  | .createIfAbsent t => if c.hasTable t.name && c.supplies t then some c else c.create? t
  | .createIndex table column => if c.hasColumn table column then some c else none
  | .createSequence name => some (c.withSequence name)
  | .drop name => c.drop? name
  | .malformed => none

/-- Runs statements one by one up to the first that fails; tells whether
none did. -/
def runStatements (c : Catalog) : List Statement → Bool × Catalog
  | [] => (true, c)
  | s :: rest =>
      match s.run? c with
      | some c => runStatements c rest
      | none => (false, c)

end DoubleEntry
