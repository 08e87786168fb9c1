/-
DoubleEntry/Json/Record.lean

Reading records.  A record is written as an object, or as an array of its
fields in their order.  In an object fields may come in any order, a field
may be given only once, and fields that the record does not have are passed
over whatever they hold.
-/
import DoubleEntry.Json.Written

namespace DoubleEntry.Json

open DoubleEntry.Text

/-! ### Fields -/

/-- The members of an object whose keys are all text. -/
def namedMembers? (members : List (Option String × Written)) : Option (List (String × Written)) :=
  members.mapM fun m => m.1.map fun key => (key, m.2)

/-- How often a key is given. -/
def timesGiven (key : String) (members : List (String × Written)) : Nat :=
  (members.filter fun m => m.1 = key).length

/-- The fields with these names, in the order of the names; a field that an
object does not give is absent. -/
def Written.fields? (names : List String) : Written → Option (List (Option Written))
  | .object members =>
      (namedMembers? members).bind fun ms =>
        if names.all fun n => timesGiven n ms ≤ 1 then some (names.map fun n => ms.lookup n)
        else none
  | .array items => if items.length = names.length then some (items.map some) else none
  | _ => none

/-- Reads a field that has to be there. -/
def required {α : Type} (read? : Written → Option α) (field : Option Written) : Option α :=
  field.bind read?

/-- Reads a field that may be absent or null. -/
def optional {α : Type} (read? : Written → Option α) : Option Written → Option (Option α)
  | none => some none
  | some .null => some none
  | some w => (read? w).map some

/-! ### Values of fields -/

/-- Reads a truth value. -/
def Written.bool? : Written → Option Bool
  | .bool b => some b
  | _ => none

/-- Reads a string. -/
def Written.string? : Written → Option String
  | .string s => s
  | _ => none

/-- Reads a signed 64-bit integer, written without point and exponent. -/
def Written.int64? : Written → Option Int64
  | .numeral n => n.int?.bind toInt64?
  | _ => none

/-- Reads an unsigned 64-bit integer, written without point and exponent. -/
def Written.uint64? : Written → Option UInt64
  | .numeral n => n.int?.bind toUInt64?
  | _ => none

/-- Reads one of a fixed set of names: a string, or an object with the name
as its only key and null as its value. -/
def Written.name? : Written → Option String
  | .string s => s
  | .object [(key, .null)] => key
  | _ => none

end DoubleEntry.Json
