/-
DoubleEntry/Store/Work.lean

Units of work.  A unit issues queries one after the other and may choose
each by the answers before it; it hands on the first error that a query
gives.  `Work.execute` runs a unit in a transaction of its own, and `submit`
runs a single query that is kept by itself.
-/
import DoubleEntry.Store.Scope

namespace DoubleEntry

/-- A unit of work that ends with a value. -/
inductive Work (α : Type) where
  | done (a : α)
  | fail (e : Error)
  | crash
  /-- The token is cancelled, and the work goes on. -/
  | cancel (next : Work α)
  | call (q : Query) (next : q.Answer → Work α)

namespace Work

/-! ### Composing work -/

/-- Work followed by more work. -/
def bind {α β : Type} (w : Work α) (f : α → Work β) : Work β :=
  match w with
  | done a => f a
  | fail e => fail e
  | crash => crash
  | cancel next => cancel (next.bind f)
  | call q next => call q fun a => (next a).bind f

instance : Monad Work where
  pure := done
  bind := bind

/-- A single query. -/
def query (q : Query) : Work q.Answer :=
  call q done

/-- A condition that has to hold. -/
def check {α : Type} : Except Error α → Work α
  | .ok a => done a
  | .error e => fail e

/-! ### Running work -/

/-- Runs a unit within an open transaction. -/
def run {α : Type} (env : Surroundings) : Work α → Scope → Outcome α × Scope
  | done a, s => (.ok a, s)
  | fail e, s => (.error e, s)
  | crash, s => (.crash, s)
  | cancel next, s => next.run env s.cancel
  | call q next, s =>
      match s.issue env q with
      | (.ok a, s) => (next a).run env s
      | (.error e, s) => (.error e, s)
      | (.crash, s) => (.crash, s)

/-- Runs a unit in a transaction of its own: all that it did is kept when it
ends with a value and its token is not cancelled, else nothing.  A token
that is cancelled beforehand keeps it from starting. -/
def execute {α : Type} (env : Surroundings) (token : CancelToken) (w : Work α) (db : Database) :
    Ran α :=
  match token.check with
  | .error e => { outcome := .error e, db }
  | .ok () =>
      let (outcome, s) := w.run env { db }
      s.close db outcome

end Work

/-- Runs one query by itself. -/
def submit (now : Instant) (q : Query) (db : Database) : Ran q.Answer :=
  if q.isImpossible now then { outcome := .crash, db }
  else
    let p := q.perform now db
    { outcome := .ofExcept p.result, db := p.db }

/-- Runs a unit without a transaction: each query is kept by itself, also
when a later one fails. -/
def Work.submitEach {α : Type} (clock : Nat → Instant) : Work α → Database → Ran α
  | done a, db => { outcome := .ok a, db }
  | fail e, db => { outcome := .error e, db }
  | crash, db => { outcome := .crash, db }
  | cancel next, db => next.submitEach clock db
  | call q next, db =>
      match submit (clock 0) q db with
      | { outcome := .ok a, db } => (next a).submitEach (fun n => clock (n + 1)) db
      | { outcome := .error e, db } => { outcome := .error e, db }
      | { outcome := .crash, db } => { outcome := .crash, db }

end DoubleEntry
