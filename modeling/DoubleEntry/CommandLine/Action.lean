/-
DoubleEntry/CommandLine/Action.lean

Actions: what a command does to a ledger, an event log or the files, until
it has something to print or stops early.  What an action has changed stays
changed when it stops.
-/
import DoubleEntry.CommandLine.Failure
import DoubleEntry.Store.Scope

namespace DoubleEntry.CommandLine

/-! ### Stopping early -/

/-- Why an action stopped early. -/
inductive Stop where
  | failed (f : Failure)
  /-- A question came up, and nobody was there to answer it. -/
  | unanswered (question : String)
  | crash
  deriving Repr

/-- The failure to ask anybody. -/
def noTerminal : Failure :=
  { texts := ["IO error: not a terminal", "not a terminal"] }

/-- The failure that an action stopped with, unless it crashed. -/
def Stop.failure? : Stop → Option Failure
  | failed f => some f
  | unanswered _ => some noTerminal
  | crash => none

/-! ### Actions -/

/-- An action on a state. -/
abbrev Action (σ : Type) := ExceptT Stop (StateM σ)

namespace Action

variable {σ τ α : Type}

/-- Stops with a failure. -/
def stop (f : Failure) : Action σ α :=
  throw (.failed f)

/-- A result whose errors are failures. -/
def orFail {ε : Type} (failure : ε → Failure) : Except ε α → Action σ α
  | .ok a => pure a
  | .error e => stop (failure e)

/-- A value that has to be there. -/
def orCrash : Option α → Action σ α
  | some a => pure a
  | none => throw .crash

/-- An operation on the ledger. -/
def perform (operation : Database → Ran α) : Action Database α := fun db =>
  let r := operation db
  match r.outcome with
  | .ok a => (.ok a, r.db)
  | .error e => (.error (.failed (.ofError e)), r.db)
  | .crash => (.error .crash, r.db)

/-- What can be read off the ledger. -/
def look (read : Database → Except Error α) : Action Database α := fun db =>
  orFail Failure.ofError (read db) db

/-- Says what was being done, should an action fail. -/
def within (context : String) (a : Action σ α) : Action σ α :=
  tryCatch a fun
    | .failed f => stop (f.within context)
    | s => throw s

/-- An action on a part of the state, which is put back afterwards. -/
def focus (part : σ) (putBack : σ → τ → τ) (a : Action σ α) : Action τ α := fun t =>
  let (result, s) := a part
  (result, putBack s t)

end Action

/-- The answer to a question that is asked unless the answer is known to be
yes. -/
def confirm {σ : Type} (known : Bool) (reply : Option Bool) (question : String) :
    Action σ Bool :=
  match known, reply with
  | true, _ => pure true
  | false, some yes => pure yes
  | false, none => throw (.unanswered question)

end DoubleEntry.CommandLine
