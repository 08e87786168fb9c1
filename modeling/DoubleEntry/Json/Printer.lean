/-
DoubleEntry/Json/Printer.lean

Writing JSON: on one line without blanks, or with each item on a line of its
own and two blanks for each level.  A string escapes the quote, the
backslash and the control characters and nothing else.
-/
import DoubleEntry.Json.Basic
import DoubleEntry.Json.Double
import DoubleEntry.Text.Decimal
import DoubleEntry.Text.Quoted

namespace DoubleEntry.Json

open DoubleEntry.Text

/-! ### Strings and numbers -/

/-- A character inside a string. -/
def escapeChar (c : Char) : List Char :=
  match c with
  | '"' => ['\\', '"']
  | '\\' => ['\\', '\\']
  | '\x08' => ['\\', 'b']
  | '\x0c' => ['\\', 'f']
  | '\n' => ['\\', 'n']
  | '\r' => ['\\', 'r']
  | '\t' => ['\\', 't']
  | c =>
      if c.toNat < 0x20 then
        '\\' :: 'u' :: '0' :: '0' :: [Nat.digitChar (c.toNat / 16), Nat.digitChar (c.toNat % 16)]
      else [c]

/-- A string in quotes. -/
def stringChars (s : String) : List Char :=
  '"' :: s.toList.flatMap escapeChar ++ ['"']

/-- A number. -/
def Number.chars : Number → List Char
  | .int n => intDigits n
  | .double bits => Double.text bits

/-! ### Values -/

/-- How the items of a container are set apart. -/
inductive Layout where
  | compact
  | indented
  deriving DecidableEq

/-- What stands before an item at a level. -/
def Layout.lineBreak : Layout → Nat → List Char
  | .compact, _ => []
  | .indented, level => '\n' :: List.replicate (2 * level) ' '

/-- What stands between a key and its value. -/
def Layout.colon : Layout → List Char
  | .compact => [':']
  | .indented => [':', ' ']

mutual

/-- A value whose container stands at a level. -/
def render (l : Layout) (level : Nat) : Json → List Char
  | .null => ['n', 'u', 'l', 'l']
  | .bool true => ['t', 'r', 'u', 'e']
  | .bool false => ['f', 'a', 'l', 's', 'e']
  | .number n => n.chars
  | .string s => stringChars s
  | .array [] => ['[', ']']
  | .array (item :: items) =>
      '[' :: l.lineBreak (level + 1) ++ render l (level + 1) item
        ++ renderItems l (level + 1) items ++ l.lineBreak level ++ [']']
  | .object [] => ['\x7b', '\x7d']
  | .object ((key, value) :: fields) =>
      '\x7b' :: l.lineBreak (level + 1) ++ stringChars key ++ l.colon
        ++ render l (level + 1) value ++ renderFields l (level + 1) fields
        ++ l.lineBreak level ++ ['\x7d']

/-- The items of an array after the first. -/
def renderItems (l : Layout) (level : Nat) : List Json → List Char
  | [] => []
  | item :: items =>
      ',' :: l.lineBreak level ++ render l level item ++ renderItems l level items

/-- The fields of an object after the first. -/
def renderFields (l : Layout) (level : Nat) : List (String × Json) → List Char
  | [] => []
  | (key, value) :: fields =>
      ',' :: l.lineBreak level ++ stringChars key ++ l.colon ++ render l level value
        ++ renderFields l level fields

end

/-- A value on one line. -/
def compact (j : Json) : String :=
  String.ofList (render .compact 0 j)

/-- A value with each item on a line of its own. -/
def pretty (j : Json) : String :=
  String.ofList (render .indented 0 j)

end DoubleEntry.Json
