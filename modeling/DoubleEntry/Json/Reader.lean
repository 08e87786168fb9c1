/-
DoubleEntry/Json/Reader.lean

Reading JSON text.  The reader is a machine that takes one character at a
time: it knows the containers that are open, what may stand next, and the
word or string it is in the middle of.  `Written.read?` runs it over a whole
text.

White space is blank, tab and the two line ends.  A control character may
not stand in a string as it is.  The only bound on nesting is that of
`Written.toJson?`.
-/
import DoubleEntry.Json.Written

namespace DoubleEntry.Json

open DoubleEntry.Text

/-! ### States -/

/-- A container that is open, with what has been read of it, last first. -/
inductive Frame where
  | array (before : List Written)
  | object (before : List (Option String × Written))
  | member (before : List (Option String × Written)) (key : Option String)

/-- What may stand next, between two words. -/
inductive Spot where
  /-- A value, or the end of its array if `closable`. -/
  | value (closable : Bool)
  /-- A key, or the end of its object if `closable`. -/
  | key (closable : Bool)
  /-- The colon after a key. -/
  | colon (key : Option String)
  /-- What follows a value. -/
  | after (v : Written)

/-- The characters of a string so far, last first.  `high` is the first half
of a surrogate pair that waits for the second; `sound` tells that no half
was left alone. -/
structure Quotation where
  chars : List Char
  high : Option Nat
  sound : Bool

/-- Where in a string the reader is. -/
inductive Phase where
  | plain
  | escape
  | hex (digits value : Nat)

/-- The word or string that the reader is in the middle of. -/
inductive Lexeme where
  | nothing
  | word (read : List Char)
  | text (q : Quotation) (phase : Phase)

/-- A state of the reader. -/
structure Reader where
  frames : List Frame
  spot : Spot
  lexeme : Lexeme

/-! ### Strings -/

/-- The empty string. -/
def Quotation.start : Quotation :=
  { chars := [], high := none, sound := true }

/-- Adds a character. -/
def Quotation.push (q : Quotation) (c : Char) : Quotation :=
  { chars := c :: q.chars, high := none, sound := q.sound && q.high.isNone }

/-- Adds a 16-bit unit: a character, or half of one. -/
def Quotation.pushUnit (q : Quotation) (n : Nat) : Quotation :=
  if 0xD800 ≤ n && n < 0xDC00 then
    { q with high := some n, sound := q.sound && q.high.isNone }
  else if 0xDC00 ≤ n && n < 0xE000 then
    match q.high with
    | some h =>
        { q with
          chars := Char.ofNat (0x10000 + (h - 0xD800) * 0x400 + (n - 0xDC00)) :: q.chars
          high := none }
    | none => { q with sound := false }
  else q.push (Char.ofNat n)

/-- The string read, unless half of a pair was left alone. -/
def Quotation.close (q : Quotation) : Option String :=
  if q.sound && q.high.isNone then some (String.ofList q.chars.reverse) else none

/-- The value of a hexadecimal digit. -/
def hexValue? (c : Char) : Option Nat :=
  if '0' ≤ c && c ≤ '9' then some (c.toNat - '0'.toNat)
  else if 'a' ≤ c && c ≤ 'f' then some (c.toNat - 'a'.toNat + 10)
  else if 'A' ≤ c && c ≤ 'F' then some (c.toNat - 'A'.toNat + 10)
  else none

/-- The character that an escape of one letter stands for. -/
def unescape? : Char → Option Char
  | '"' => some '"'
  | '\\' => some '\\'
  | '/' => some '/'
  | 'b' => some '\x08'
  | 'f' => some '\x0c'
  | 'n' => some '\n'
  | 'r' => some '\r'
  | 't' => some '\t'
  | _ => none

/-! ### Words -/

/-- Whether a character can be part of a number or a literal. -/
def isWordChar (c : Char) : Bool :=
  c.isAlphanum || c = '-' || c = '+' || c = '.'

/-- The value that a word stands for. -/
def wordValue? (cs : List Char) : Option Written :=
  if cs = ['n', 'u', 'l', 'l'] then some .null
  else if cs = ['t', 'r', 'u', 'e'] then some (.bool true)
  else if cs = ['f', 'a', 'l', 's', 'e'] then some (.bool false)
  else (Numeral.read? cs).map .numeral

/-! ### The machine -/

/-- The state before the first character. -/
def Reader.start : Reader :=
  { frames := [], spot := .value false, lexeme := .nothing }

/-- Ends a word, if one was being read. -/
def Reader.endWord? (r : Reader) : Option Reader :=
  match r.lexeme with
  | .word cs => (wordValue? cs.reverse).map fun v => { r with spot := .after v, lexeme := .nothing }
  | _ => some r

/-- Ends a string: it is a key where a key may stand, else a value. -/
def Reader.endText (r : Reader) (q : Quotation) : Reader :=
  match r.spot with
  | .key _ => { r with spot := .colon q.close, lexeme := .nothing }
  | _ => { r with spot := .after (.string q.close), lexeme := .nothing }

/-- A character inside a string. -/
def Reader.inText? (r : Reader) (q : Quotation) (c : Char) : Phase → Option Reader
  | .plain =>
      if c = '"' then some (r.endText q)
      else if c = '\\' then some { r with lexeme := .text q .escape }
      else if c.toNat < 0x20 then none
      else some { r with lexeme := .text (q.push c) .plain }
  | .escape =>
      if c = 'u' then some { r with lexeme := .text q (.hex 0 0) }
      else (unescape? c).map fun d => { r with lexeme := .text (q.push d) .plain }
  | .hex digits value =>
      (hexValue? c).map fun d =>
        if digits = 3 then { r with lexeme := .text (q.pushUnit (16 * value + d)) .plain }
        else { r with lexeme := .text q (.hex (digits + 1) (16 * value + d)) }

/-- Whether a character separates words. -/
def isSpace (c : Char) : Bool :=
  c = ' ' || c = '\t' || c = '\n' || c = '\r'

/-- A character where a value may stand. -/
def Reader.atValue? (r : Reader) (closable : Bool) (c : Char) : Option Reader :=
  if c = '[' then some { r with frames := .array [] :: r.frames, spot := .value true }
  else if c = '\x7b' then some { r with frames := .object [] :: r.frames, spot := .key true }
  else if c = '"' then some { r with lexeme := .text .start .plain }
  else if c = ']' && closable then
    match r.frames with
    | .array _ :: fs => some { r with frames := fs, spot := .after (.array []) }
    | _ => none
  else if isWordChar c then some { r with lexeme := .word [c] }
  else none

/-- A character where a key may stand. -/
def Reader.atKey? (r : Reader) (closable : Bool) (c : Char) : Option Reader :=
  if c = '"' then some { r with lexeme := .text .start .plain }
  else if c = '\x7d' && closable then
    match r.frames with
    | .object _ :: fs => some { r with frames := fs, spot := .after (.object []) }
    | _ => none
  else none

/-- The colon after a key. -/
def Reader.atColon? (r : Reader) (key : Option String) (c : Char) : Option Reader :=
  if c = ':' then
    match r.frames with
    | .object before :: fs =>
        some { r with frames := .member before key :: fs, spot := .value false }
    | _ => none
  else none

/-- A character after a value: a comma, or the end of the container. -/
def Reader.atEnd? (r : Reader) (v : Written) (c : Char) : Option Reader :=
  match r.frames with
  | .array before :: fs =>
      if c = ',' then
        some { r with frames := .array (v :: before) :: fs, spot := .value false }
      else if c = ']' then
        some { r with frames := fs, spot := .after (.array (v :: before).reverse) }
      else none
  | .member before key :: fs =>
      if c = ',' then
        some { r with frames := .object ((key, v) :: before) :: fs, spot := .key false }
      else if c = '\x7d' then
        some { r with frames := fs, spot := .after (.object ((key, v) :: before).reverse) }
      else none
  | _ => none

/-- A character between two words. -/
def Reader.between? (r : Reader) (c : Char) : Option Reader :=
  if isSpace c then some r
  else
    match r.spot with
    | .value closable => r.atValue? closable c
    | .key closable => r.atKey? closable c
    | .colon key => r.atColon? key c
    | .after v => r.atEnd? v c

/-- Takes one character. -/
def Reader.step? (r : Reader) (c : Char) : Option Reader :=
  match r.lexeme with
  | .text q phase => r.inText? q c phase
  | .word cs =>
      if isWordChar c then some { r with lexeme := .word (c :: cs) }
      else r.endWord?.bind fun r => r.between? c
  | .nothing => r.between? c

/-- The value read, at the end of the text. -/
def Reader.finish? (r : Reader) : Option Written :=
  match r.lexeme, r.endWord? with
  | .text _ _, _ => none
  | _, some { frames := [], spot := .after v, .. } => some v
  | _, _ => none

/-! ### Texts -/

/-- Reads a text that holds one value and nothing else. -/
def Written.read? (s : String) : Option Written :=
  (s.toList.foldlM Reader.step? Reader.start).bind Reader.finish?

/-- Reads the value that a text means. -/
def parse? (s : String) : Option Json :=
  (Written.read? s).bind fun w => w.toJson? maxDepth

end DoubleEntry.Json
