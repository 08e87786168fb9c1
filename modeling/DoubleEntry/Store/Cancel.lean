/-
DoubleEntry/Store/Cancel.lean

Tokens by which a caller cancels work that is under way.  Once cancelled a
token stays so.
-/
import DoubleEntry.Error

namespace DoubleEntry

/-- A token, with what it shows now. -/
structure CancelToken where
  isCancelled : Bool := false
  deriving DecidableEq, Repr

namespace CancelToken

/-- The token after it has been cancelled. -/
def cancel (_ : CancelToken) : CancelToken :=
  { isCancelled := true }

/-- Fails once the token is cancelled. -/
def check (t : CancelToken) : Except Error Unit :=
  if t.isCancelled then .error .cancelled else .ok ()

end CancelToken

end DoubleEntry
