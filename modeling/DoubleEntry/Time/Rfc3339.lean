/-
DoubleEntry/Time/Rfc3339.lean

Instants as text, in the format of RFC 3339.

* Writing gives the time in UTC with 0, 3, 6 or 9 digits after the point,
  whichever is the fewest that is exact.  A year outside 0 to 9999 has a
  sign.
* `read?` keeps to the format: two digits everywhere, four for the year, and
  a zone.
* `readLoosely?` also takes single digits, blanks between the parts, signed
  years of any length, and a zone written `UTC` or without a colon.

Digits after the ninth of a fraction are read and dropped.
-/
import DoubleEntry.Text.Blank
import DoubleEntry.Text.Decimal
import DoubleEntry.Time.Instant

namespace DoubleEntry.Instant

open DoubleEntry.Text

/-! ### Date and time of day -/

/-- The day of an instant in UTC. -/
def date (t : Instant) : Date :=
  Date.ofNumber (t.seconds / 86400)

/-- The second of its day. -/
def secondOfDay (t : Instant) : Nat :=
  (t.seconds % 86400).toNat

/-- The hour of an instant in UTC. -/
def hour (t : Instant) : Nat :=
  t.secondOfDay / 3600

/-- The minute of an instant. -/
def minute (t : Instant) : Nat :=
  t.secondOfDay / 60 % 60

/-- The second of an instant; a leap second is number 60. -/
def second (t : Instant) : Nat :=
  t.secondOfDay % 60 + t.nanos / 1000000000

/-- The nanoseconds of an instant after its last full second. -/
def fraction (t : Instant) : Nat :=
  t.nanos % 1000000000

/-! ### Writing -/

/-- A year: four digits, and a sign when it is outside 0 to 9999. -/
def yearChars (year : Int) : List Char :=
  if 0 ≤ year ∧ year ≤ 9999 then padDigits 4 year.toNat
  else (if year < 0 then '-' else '+') :: padDigits 4 year.natAbs

/-- Year, month and day. -/
def dateChars (t : Instant) : List Char :=
  yearChars t.date.year ++ '-' :: padDigits 2 t.date.month ++ '-' :: padDigits 2 t.date.day

/-- Hour, minute and second. -/
def timeChars (t : Instant) : List Char :=
  padDigits 2 t.hour ++ ':' :: padDigits 2 t.minute ++ ':' :: padDigits 2 t.second

/-- The point and the fewest of 0, 3, 6 or 9 digits that are exact. -/
def fractionChars (nanos : Nat) : List Char :=
  if nanos = 0 then []
  else if nanos % 1000000 = 0 then '.' :: padDigits 3 (nanos / 1000000)
  else if nanos % 1000 = 0 then '.' :: padDigits 6 (nanos / 1000)
  else '.' :: padDigits 9 nanos

/-- An instant without its zone. -/
def localChars (t : Instant) : List Char :=
  t.dateChars ++ 'T' :: t.timeChars ++ fractionChars t.fraction

/-- An instant with `Z` for its zone. -/
def text (t : Instant) : String :=
  String.ofList (t.localChars ++ ['Z'])

/-- An instant with a numeric zone, as it is stored. -/
def storedText (t : Instant) : String :=
  String.ofList (t.localChars ++ ['+', '0', '0', ':', '0', '0'])

/-- An instant to the second, for people. -/
def display (t : Instant) : String :=
  String.ofList (t.dateChars ++ ' ' :: t.timeChars)

/-! ### Parts of a text

Each reader takes a part from the front of a text and leaves the rest. -/

/-- Reads between `least` and `most` digits, as many as there are. -/
def readDigits? (least most : Nat) (cs : List Char) : Option (Nat × List Char) :=
  let ds := (cs.take most).takeWhile fun c => (digitValue? c).isSome
  if ds.length < least then none else (readNat? ds).map fun n => (n, cs.drop ds.length)

/-- Reads one given character. -/
def readChar? (c : Char) : List Char → Option (List Char)
  | d :: rest => if d = c then some rest else none
  | [] => none

/-- Reads what separates the day from the time. -/
def readSeparator? : List Char → Option (List Char)
  | c :: rest => if c = 'T' || c = 't' || c = ' ' then some rest else none
  | [] => none

/-- Reads the digits after the point: nine count, in nanoseconds. -/
def readFraction? : List Char → Option (Nat × List Char)
  | '.' :: rest =>
      let ds := rest.takeWhile fun c => (digitValue? c).isSome
      match readNat? (ds.take 9) with
      | some n => some (n * Nat.pow 10 (9 - (ds.take 9).length), rest.drop ds.length)
      | none => none
  | cs => some (0, cs)

/-- Reads the sign of a zone: whether it lies west of Greenwich. -/
def readZoneSign? : List Char → Option (Bool × List Char)
  | '+' :: rest => some (false, rest)
  | '-' :: rest => some (true, rest)
  | '−' :: rest => some (true, rest)
  | _ => none

/-- Reads a zone in seconds east of Greenwich; `separate?` reads what stands
between hours and minutes. -/
def readZone? (separate? : List Char → Option (List Char)) (cs : List Char) : Option (Int × List Char) :=
  match cs with
  | 'Z' :: rest => some (0, rest)
  | 'z' :: rest => some (0, rest)
  | cs => do
      let (west, cs) ← readZoneSign? cs
      let (hours, cs) ← readDigits? 2 2 cs
      let cs ← separate? cs
      let (minutes, cs) ← readDigits? 2 2 cs
      guard (minutes < 60 && hours < 24)
      let seconds : Int := hours * 3600 + minutes * 60
      return (if west then -seconds else seconds, cs)

/-- The instant with a date and a time of day in a zone, if there is such a
date and time within the bounds of instants.  Second 60 is a leap second. -/
def ofParts? (d : Date) (hour minute second nanos : Nat) (zone : Int) : Option Instant :=
  let leap := second = 60
  let t : Instant :=
    { seconds := d.number * 86400 + hour * 3600 + minute * 60
        + (if leap then 59 else second) - zone
      nanos := if leap then nanos + 1000000000 else nanos }
  if d.isValid && -262143 ≤ d.year && d.year ≤ 262142 && hour < 24 && minute < 60 && second ≤ 60
      && t.inRange then
    some t
  else none

/-! ### Reading -/

/-- Reads an instant that keeps to the format. -/
def read? (s : String) : Option Instant := do
  let (year, cs) ← readDigits? 4 4 s.toList
  let cs ← readChar? '-' cs
  let (month, cs) ← readDigits? 2 2 cs
  let cs ← readChar? '-' cs
  let (day, cs) ← readDigits? 2 2 cs
  let cs ← readSeparator? cs
  let (hour, cs) ← readDigits? 2 2 cs
  let cs ← readChar? ':' cs
  let (minute, cs) ← readDigits? 2 2 cs
  let cs ← readChar? ':' cs
  let (second, cs) ← readDigits? 2 2 cs
  let (nanos, cs) ← readFraction? cs
  let (zone, cs) ← readZone? (readChar? ':') cs
  guard cs.isEmpty
  ofParts? ⟨year, month, day⟩ hour minute second nanos zone

/-- Reads a number of one or two digits after any blanks. -/
def readShort? (cs : List Char) : Option (Nat × List Char) :=
  readDigits? 1 2 (trimStart cs)

/-- Reads a character after any blanks. -/
def readMark? (c : Char) (cs : List Char) : Option (List Char) :=
  readChar? c (trimStart cs)

/-- Reads a year after any blanks: up to four digits, or any number of them
after a sign. -/
def readYear? (cs : List Char) : Option (Int × List Char) :=
  match trimStart cs with
  | '-' :: rest => (readDigits? 1 rest.length rest).map fun (n, cs) => (-(n : Int), cs)
  | '+' :: rest => (readDigits? 1 rest.length rest).map fun (n, cs) => ((n : Int), cs)
  | cs => (readDigits? 1 4 cs).map fun (n, cs) => ((n : Int), cs)

/-- Whether three letters spell the name of the zone, in either case. -/
def isUtc (cs : List Char) : Bool :=
  cs.map Char.toUpper = ['U', 'T', 'C']

/-- Reads a zone after any blanks: its name, or as in `readZone?` with
blanks and colons between hours and minutes. -/
def readLooseZone? (cs : List Char) : Option (Int × List Char) :=
  let cs := trimStart cs
  if isUtc (cs.take 3) then some (0, cs.drop 3)
  else readZone? (fun cs => some (cs.dropWhile fun c => c = ':' || isBlank c)) cs

/-- Reads an instant, with more freedom than `read?` gives. -/
def readLoosely? (s : String) : Option Instant := do
  let (year, cs) ← readYear? s.toList
  let cs ← readMark? '-' cs
  let (month, cs) ← readShort? cs
  let cs ← readMark? '-' cs
  let (day, cs) ← readShort? cs
  let cs ← readSeparator? cs
  let (hour, cs) ← readShort? cs
  let cs ← readMark? ':' cs
  let (minute, cs) ← readShort? cs
  let cs ← readMark? ':' cs
  let (second, cs) ← readShort? cs
  let (nanos, cs) ← readFraction? cs
  let (zone, cs) ← readLooseZone? cs
  guard (cs.all isBlank)
  ofParts? ⟨year, month, day⟩ hour minute second nanos zone

end DoubleEntry.Instant
