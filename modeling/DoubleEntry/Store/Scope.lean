/-
DoubleEntry/Store/Scope.lean

Transactions.  A scope is an open transaction: it works on its own copy of
the database, and closing it either keeps that copy or goes back to the rows
it started from.  Ids that were given stay given in both cases.

* Once its token is cancelled, a scope answers every query with that, and it
  is not kept.
* Once the database itself has failed in it, a scope is spoiled: every later
  query fails, and closing it keeps nothing even where that is reported as a
  success.
-/
import DoubleEntry.Store.Cancel
import DoubleEntry.Store.Perform

namespace DoubleEntry

/-! ### Outcomes -/

/-- How work ends: with a value, with an error, or by breaking off. -/
inductive Outcome (α : Type) where
  | ok (a : α)
  | error (e : Error)
  | crash
  deriving DecidableEq, Repr

namespace Outcome

/-- The outcome of a result. -/
def ofExcept {α : Type} : Except Error α → Outcome α
  | .ok a => .ok a
  | .error e => .error e

/-- Goes on with the value of a success. -/
def bind {α β : Type} (o : Outcome α) (f : α → Outcome β) : Outcome β :=
  match o with
  | ok a => f a
  | error e => error e
  | crash => crash

/-- Applies a function to the value of a success. -/
def map {α β : Type} (f : α → β) (o : Outcome α) : Outcome β :=
  o.bind fun a => ok (f a)

end Outcome

/-- An outcome, and the database as it is afterwards. -/
structure Ran (α : Type) where
  outcome : Outcome α
  db : Database

/-- Applies a function to the value of a success. -/
def Ran.map {α β : Type} (f : α → β) (r : Ran α) : Ran β :=
  { r with outcome := r.outcome.map f }

/-! ### Scopes -/

/-- What the queries of a scope depend on besides the database: the time at
each query, and a query that is made to fail. -/
structure Surroundings where
  clock : Nat → Instant
  failOn : Option String := none

/-- Surroundings in which time stands still. -/
def Surroundings.at (now : Instant) : Surroundings :=
  { clock := fun _ => now }

/-- An open transaction.  `calls` holds the queries issued, last first. -/
structure Scope where
  db : Database
  spoiled : Bool := false
  cancelled : Bool := false
  calls : List Query := []

namespace Scope

/-- The scope after its token has been cancelled. -/
def cancel (s : Scope) : Scope :=
  { s with cancelled := true }

/-- Answers a query that gets as far as the token: the token comes first,
then the state of the transaction, then the database. -/
def answer (now : Instant) (q : Query) (s : Scope) : Outcome q.Answer × Scope :=
  if s.cancelled then (.error .cancelled, s)
  else if s.spoiled then (.error (.database .transactionSpoiled), s)
  else
    let p := q.perform now s.db
    (.ofExcept p.result, { s with db := p.db, spoiled := p.spoils })

/-- Issues a query. -/
def issue (env : Surroundings) (q : Query) (s : Scope) : Outcome q.Answer × Scope :=
  let now := env.clock s.calls.length
  let s := { s with calls := q :: s.calls }
  if env.failOn = some q.name then (.error (.database (.injected q.name)), s)
  else if q.isImpossible now then (.crash, s)
  else s.answer now q

/-- The database as it was, but with the ids given that were given since. -/
def rolledBack (start : Database) (s : Scope) : Database :=
  { start with sequences := s.db.sequences }

/-- Closes a scope that was opened on a database. -/
def close {α : Type} (start : Database) (outcome : Outcome α) (s : Scope) : Ran α :=
  match outcome with
  | .ok a =>
      if s.cancelled then { outcome := .error .cancelled, db := s.rolledBack start }
      else if s.spoiled then { outcome := .ok a, db := s.rolledBack start }
      else { outcome := .ok a, db := s.db }
  | .error e => { outcome := .error e, db := s.rolledBack start }
  | .crash => { outcome := .crash, db := s.rolledBack start }

end Scope

end DoubleEntry
