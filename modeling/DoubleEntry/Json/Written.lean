/-
DoubleEntry/Json/Written.lean

JSON as it is written, before any meaning is given to numbers, repeated keys
or escapes that stand for no character.

A reader of a record looks at written values: it may ignore a field
altogether, whatever its text stands for, and it can tell that a key was
given twice.  `Written.toJson?` gives the value meant: numbers get a
representation, the last value of a repeated key counts, and nesting is
bounded.
-/
import DoubleEntry.Json.Basic
import DoubleEntry.Json.Double
import DoubleEntry.Text.Decimal

namespace DoubleEntry.Json

open DoubleEntry.Text

/-! ### Numerals -/

/-- A written number: digits before the point, digits after it, and an
exponent with its sign. -/
structure Numeral where
  negative : Bool
  whole : List Char
  fraction : List Char
  exponent : Option (Bool × List Char)
  deriving DecidableEq, Repr

/-- Splits off the digits at the front. -/
def spanDigits (cs : List Char) : List Char × List Char :=
  cs.span fun c => (digitValue? c).isSome

/-- Reads the exponent of a numeral, if it has one. -/
def readExponent? : List Char → Option (Option (Bool × List Char))
  | [] => some none
  | e :: rest =>
      if e = 'e' || e = 'E' then
        let (negative, digits) :=
          match rest with
          | '-' :: ds => (true, ds)
          | '+' :: ds => (false, ds)
          | ds => (false, ds)
        match digits, spanDigits digits with
        | _ :: _, (ds, []) => some (some (negative, ds))
        | _, _ => none
      else none

/-- Reads the digits after the point of a numeral, if there is one. -/
def readFraction? : List Char → Option (List Char × List Char)
  | '.' :: rest =>
      match spanDigits rest with
      | ([], _) => none
      | (ds, rest) => some (ds, rest)
  | cs => some ([], cs)

/-- Reads a numeral: no leading zero, and digits wherever there is room for
some. -/
def Numeral.read? (cs : List Char) : Option Numeral := do
  let (negative, cs) :=
    match cs with
    | '-' :: rest => (true, rest)
    | cs => (false, cs)
  let (whole, cs) := spanDigits cs
  guard (whole ≠ [] && (whole.length = 1 || whole.head? ≠ some '0'))
  let (fraction, cs) ← readFraction? cs
  let exponent ← readExponent? cs
  return { negative, whole, fraction, exponent }

/-- The integer that a numeral without point and exponent stands for.
Minus zero stands for a double. -/
def Numeral.int? (n : Numeral) : Option Int :=
  if n.fraction = [] && n.exponent = none then
    match readNat? n.whole with
    | some 0 => if n.negative then none else some 0
    | some m => some (if n.negative then -(m : Int) else m)
    | none => none
  else none

/-- The value of the exponent of a numeral. -/
def Numeral.exponentValue (n : Numeral) : Int :=
  match n.exponent with
  | none => 0
  | some (negative, digits) =>
      let e := (readNat? digits).getD 0
      if negative then -(e : Int) else e

/-- The number meant: an integer that fits a 64-bit word, signed or not,
stays an integer, and anything else becomes a double if a double can hold
it. -/
def Numeral.number? (n : Numeral) : Option Number :=
  match n.int? with
  | some i =>
      if -9223372036854775808 ≤ i ∧ i ≤ 18446744073709551615 then some (.int i)
      else (Double.read? n.negative n.whole n.fraction n.exponentValue).map .double
  | none => (Double.read? n.negative n.whole n.fraction n.exponentValue).map .double

/-! ### Values -/

/-- A value as written.  A string is absent where an escape stands for no
character: half of a surrogate pair without the other. -/
inductive Written where
  | null
  | bool (b : Bool)
  | numeral (n : Numeral)
  | string (s : Option String)
  | array (items : List Written)
  | object (members : List (Option String × Written))
  deriving Repr

mutual

/-- The value meant, if each number, string and key has a meaning and at
most `depth` containers lie within one another. -/
def Written.toJson? (depth : Nat) : Written → Option Json
  | .null => some .null
  | .bool b => some (.bool b)
  | .numeral n => n.number?.map .number
  | .string s => s.map .string
  | .array items =>
      match depth with
      | 0 => none
      | d + 1 => (Written.itemsToJson? d items).map .array
  | .object members =>
      match depth with
      | 0 => none
      | d + 1 => (Written.membersToJson? d [] members).map .object

/-- `Written.toJson?` for each item of an array. -/
def Written.itemsToJson? (depth : Nat) : List Written → Option (List Json)
  | [] => some []
  | w :: ws => do
      let j ← w.toJson? depth
      let js ← Written.itemsToJson? depth ws
      return j :: js

/-- `Written.toJson?` for each member of an object, after the fields read so
far. -/
def Written.membersToJson? (depth : Nat) (fields : List (String × Json)) :
    List (Option String × Written) → Option (List (String × Json))
  | [] => some fields
  | (key, w) :: ms => do
      let k ← key
      let j ← w.toJson? depth
      Written.membersToJson? depth (put k j fields) ms

end

/-- How many containers may lie within one another. -/
def maxDepth : Nat := 127

end DoubleEntry.Json
