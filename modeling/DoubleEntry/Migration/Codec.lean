/-
DoubleEntry/Migration/Codec.lean

Catalogs as JSON, for the files in which databases are kept.
-/
import DoubleEntry.Json.Record
import DoubleEntry.Migration.Catalog

namespace DoubleEntry

open DoubleEntry.Json

/-- Reads a list. -/
def Json.Written.list? {α : Type} (read? : Written → Option α) : Written → Option (List α)
  | .array items => items.mapM read?
  | _ => none

/-- Texts as JSON. -/
def Json.ofTexts (texts : List String) : Json :=
  .array (texts.map .string)

/-! ### Columns -/

/-- The name of a type. -/
def ColumnType.name : ColumnType → String
  | .varchar => "varchar"
  | .integer => "integer"
  | .bigint => "bigint"
  | .ubigint => "ubigint"
  | .boolean => "boolean"
  | .timestamp => "timestamp"

/-- The type with a name. -/
def ColumnType.ofName? (s : String) : Option ColumnType :=
  [varchar, integer, bigint, ubigint, boolean, timestamp].find? fun t => t.name = s

/-- Reads a type. -/
def ColumnType.ofWritten? (w : Written) : Option ColumnType :=
  w.string?.bind ColumnType.ofName?

/-- What a column gets by itself, as JSON: the name of a sequence as text. -/
def ColumnDefault.toJson : ColumnDefault → Json
  | .null => .null
  | .value => .bool true
  | .nextOf sequence => .string sequence

/-- Reads what a column gets by itself. -/
def ColumnDefault.ofWritten? : Written → Option ColumnDefault
  | .null => some .null
  | .bool true => some .value
  | .string sequence => sequence.map .nextOf
  | _ => none

/-- The fields of a column. -/
def Column.fieldNames : List String :=
  ["name", "type", "is_required", "is_unique", "default"]

/-- A column as JSON. -/
def Column.toJson (c : Column) : Json :=
  .object
    [("name", .string c.name), ("type", .string c.type.name), ("is_required", .bool c.isRequired),
      ("is_unique", .bool c.isUnique), ("default", c.default.toJson)]

/-- Reads a column. -/
def Column.ofWritten? (w : Written) : Option Column :=
  match w.fields? fieldNames with
  | some [name, type, isRequired, isUnique, default] => do
      return {
        name := ← required Written.string? name
        type := ← required ColumnType.ofWritten? type
        isRequired := ← required Written.bool? isRequired
        isUnique := ← required Written.bool? isUnique
        default := ← required ColumnDefault.ofWritten? default }
  | _ => none

/-! ### Tables -/

/-- The fields of a table. -/
def Table.fieldNames : List String :=
  ["name", "columns"]

/-- A table as JSON. -/
def Table.toJson (t : Table) : Json :=
  .object [("name", .string t.name), ("columns", .array (t.columns.map Column.toJson))]

/-- Reads a table. -/
def Table.ofWritten? (w : Written) : Option Table :=
  match w.fields? fieldNames with
  | some [name, columns] => do
      return {
        name := ← required Written.string? name
        columns := ← required (Written.list? Column.ofWritten?) columns }
  | _ => none

/-! ### Catalogs -/

/-- The fields of a catalog. -/
def Catalog.fieldNames : List String :=
  ["tables", "sequences", "records"]

/-- A catalog as JSON. -/
def Catalog.toJson (c : Catalog) : Json :=
  .object
    [("tables", .array (c.tables.map Table.toJson)), ("sequences", .ofTexts c.sequences),
      ("records", .ofTexts c.records)]

/-- Reads a catalog. -/
def Catalog.ofWritten? (w : Written) : Option Catalog :=
  match w.fields? fieldNames with
  | some [tables, sequences, records] => do
      return {
        tables := ← required (Written.list? Table.ofWritten?) tables
        sequences := ← required (Written.list? Written.string?) sequences
        records := ← required (Written.list? Written.string?) records }
  | _ => none

end DoubleEntry
