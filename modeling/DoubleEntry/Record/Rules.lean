/-
DoubleEntry/Record/Rules.lean

The rules that a request has to meet before anything is stored.  Where a
request breaks several, the first in the order of the checks is reported.
-/
import DoubleEntry.Record.Basic
import DoubleEntry.Text.Blank

namespace DoubleEntry

open DoubleEntry.Text

/-- Fails with a violation unless a condition holds. -/
def ensure (condition : Bool) (v : Violation) : Except Error Unit :=
  if condition then .ok () else .error (.constraint v)

/-! ### Transfers -/

/-- A transfer moves a positive amount between two different accounts. -/
def TransferRequest.validate (r : TransferRequest) : Except Error Unit := do
  ensure (0 < r.amount.toInt) (.amountNotPositive r.amount)
  ensure (r.fromId ≠ r.toId) (.transferToItself r.fromId)

/-! ### Users -/

/-- Whether a character may stand in a username. -/
def isUsernameChar (c : Char) : Bool :=
  ('a' ≤ c && c ≤ 'z') || ('0' ≤ c && c ≤ '9') || c = '_'

/-- Whether a text is a username: 3 to 100 small letters, digits and
underscores. -/
def isUsername (s : String) : Bool :=
  3 ≤ s.toList.length && s.toList.length ≤ 100 && s.toList.all isUsernameChar

/-- Whether a text has the form of an email address: one `@` with something
before it, a point inside what follows it, and no blanks. -/
def isEmail (s : String) : Bool :=
  let before := s.toList.takeWhile (· ≠ '@')
  let after := (s.toList.dropWhile (· ≠ '@')).drop 1
  !before.isEmpty && !s.toList.any isBlank && !after.contains '@'
    && (after.drop 1).dropLast.contains '.'

/-- What a user has to give to register. -/
def User.validateNew (username fullName email : String) : Except Error Unit := do
  ensure (isUsername username) .malformedUsername
  ensure (!allBlank fullName) .blankFullName
  ensure (isEmail email) (.malformedEmail email)

/-! ### Pages -/

/-- A page holds at least one row and starts at or after the first. -/
def checkPage (limit offset : Int64) : Except Error Unit := do
  ensure (1 ≤ limit.toInt) (.limitTooSmall limit)
  ensure (0 ≤ offset.toInt) (.negativeOffset offset)

end DoubleEntry
