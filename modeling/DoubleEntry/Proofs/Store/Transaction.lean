/-
DoubleEntry/Proofs/Store/Transaction.lean

Transactions of any kind: a query submitted by itself, or a program of queries
run in a transaction of its own.  A `Program` is a unit of work that sees how
each of its queries came out and need not end at the first error; units of
work are the programs that do (`Work.execute_program`).

What is issued in a transaction, and whether it is kept, makes up its
`Transcript`.  Whatever the program, its surroundings and its token, what was
stored changes only by the queries that took effect in a transaction that was
kept (`Transaction.grown`).  The induction is on the program, over any scope
it may go on in.
-/
import DoubleEntry.Proofs.Store.Issued

namespace DoubleEntry

variable {α : Type} {db db' : Database}

/-! ### Programs -/

/-- A program for a transaction.  It goes on from each query however that came
out, unless the query broke off. -/
inductive Program (α : Type) where
  | done (a : α)
  | fail (e : Error)
  | crash
  /-- The token is cancelled, and the program goes on. -/
  | cancel (next : Program α)
  | call (q : Query) (next : Except Error q.Answer → Program α)

namespace Program

/-- Runs a program within an open transaction. -/
def run (env : Surroundings) : Program α → Scope → Outcome α × Scope
  | done a, s => (.ok a, s)
  | fail e, s => (.error e, s)
  | crash, s => (.crash, s)
  | cancel next, s => next.run env s.cancel
  | call q next, s =>
      match s.issue env q with
      | (.ok a, s) => (next (.ok a)).run env s
      | (.error e, s) => (next (.error e)).run env s
      | (.crash, s) => (.crash, s)

/-- The queries that a program issues, in order. -/
def issued (env : Surroundings) : Program α → Scope → List Issued
  | done _, _ => []
  | fail _, _ => []
  | crash, _ => []
  | cancel next, s => next.issued env s.cancel
  | call q next, s =>
      { query := q, outcome := (s.issue env q).1 } ::
        match s.issue env q with
        | (.ok a, s) => (next (.ok a)).issued env s
        | (.error e, s) => (next (.error e)).issued env s
        | (.crash, _) => []

/-- Runs a program in a transaction of its own, as a unit of work is. -/
def execute (env : Surroundings) (token : CancelToken) (p : Program α) (db : Database) : Ran α :=
  match token.check with
  | .error e => { outcome := .error e, db }
  | .ok () =>
      let (outcome, s) := p.run env { db }
      s.close db outcome

end Program

/-- A unit of work as a program: it hands on the first error. -/
def Work.program : Work α → Program α
  | done a => .done a
  | fail e => .fail e
  | crash => .crash
  | cancel next => .cancel next.program
  | call q next => .call q fun
      | .ok a => (next a).program
      | .error e => .fail e

/-- The program does in a transaction what the unit of work does. -/
theorem Work.run_program (env : Surroundings) (w : Work α) (s : Scope) :
    w.program.run env s = w.run env s := by
  induction w generalizing s with
  | done a => rfl
  | fail e => rfl
  | crash => rfl
  | cancel next ih => exact ih s.cancel
  | call q next ih =>
      simp only [program, Program.run, run]
      rcases s.issue env q with ⟨outcome, s'⟩
      cases outcome with
      | ok a => exact ih a s'
      | error e => rfl
      | crash => rfl

theorem Work.execute_program (env : Surroundings) (token : CancelToken) (w : Work α)
    (db : Database) : w.program.execute env token db = w.execute env token db := by
  have hrun := w.run_program env { db }
  unfold Program.execute execute
  cases token.check with
  | error e => rfl
  | ok u =>
      generalize w.program.run env { db } = ran at hrun
      subst hrun
      rfl

/-! ### Transactions -/

/-- A transaction. -/
inductive Transaction : Type 1 where
  | statement (now : Instant) (q : Query)
  | program {α : Type} (env : Surroundings) (token : CancelToken) (p : Program α)

/-- What was issued in a transaction, and whether the transaction was kept. -/
structure Transcript where
  issued : List Issued
  kept : Bool

/-- The queries that were committed. -/
def Transcript.committed (t : Transcript) : List Query :=
  if t.kept then effective t.issued else []

/-- Whether closing a scope keeps what was done in it. -/
def Scope.isKept (outcome : Outcome α) (s : Scope) : Bool :=
  match outcome with
  | .ok _ => !s.cancelled && !s.spoiled
  | _ => false

namespace Transaction

/-- The database after a transaction. -/
def run : Transaction → Database → Database
  | statement now q, db => (submit now q db).db
  | program env token p, db => (p.execute env token db).db

/-- The transcript of a transaction.  One whose token is cancelled beforehand
is not begun. -/
def transcript : Transaction → Database → Transcript
  | statement now q, db =>
      { issued := [{ query := q, outcome := (submit now q db).outcome }], kept := true }
  | program env token p, db =>
      if token.isCancelled then { issued := [], kept := false }
      else
        let (outcome, s) := p.run env { db }
        { issued := p.issued env { db }, kept := s.isKept outcome }

/-- The database after transactions, one after the other. -/
def runAll : List Transaction → Database → Database
  | [], db => db
  | t :: rest, db => runAll rest (t.run db)

/-- The transcripts of transactions, one after the other. -/
def transcripts : List Transaction → Database → List Transcript
  | [], _ => []
  | t :: rest, db => t.transcript db :: transcripts rest (t.run db)

end Transaction

/-- What was issued in transactions. -/
def issuedIn (log : List Transcript) : List Issued :=
  log.flatMap (·.issued)

/-- What was committed in transactions. -/
def committedIn (log : List Transcript) : List Query :=
  log.flatMap (·.committed)

/-- A unit of work without a transaction, as the queries that it submits. -/
def Work.statements (clock : Nat → Instant) : Work α → Database → List Transaction
  | done _, _ => []
  | fail _, _ => []
  | crash, _ => []
  | cancel next, db => next.statements clock db
  | call q next, db =>
      .statement (clock 0) q ::
        match submit (clock 0) q db with
        | { outcome := .ok a, db } => (next a).statements (fun n => clock (n + 1)) db
        | _ => []

theorem Work.runAll_statements (clock : Nat → Instant) (w : Work α) (db : Database) :
    Transaction.runAll (w.statements clock db) db = (w.submitEach clock db).db := by
  induction w generalizing clock db with
  | done a => rfl
  | fail e => rfl
  | crash => rfl
  | cancel next ih => exact ih clock db
  | call q next ih =>
      simp only [statements, submitEach, Transaction.runAll, Transaction.run]
      rcases submit (clock 0) q db with ⟨outcome, db'⟩
      cases outcome with
      | ok a => exact ih a _ db'
      | error e => rfl
      | crash => rfl

/-! ### What transactions do -/

/-- A scope that is closed is kept, or only the ids are gone. -/
theorem Scope.close_db (start : Database) (outcome : Outcome α) (s : Scope) :
    (s.close start outcome).db =
      if s.isKept outcome then s.db else start.withSequences s.db.sequences := by
  unfold close isKept
  cases outcome with
  | ok a => cases s.cancelled <;> cases s.spoiled <;> rfl
  | error e => rfl
  | crash => rfl

/-- A program whose token is cancelled beforehand is not begun. -/
theorem Program.execute_cancelled {token : CancelToken} (h : token.isCancelled = true)
    (env : Surroundings) (p : Program α) (db : Database) :
    p.execute env token db = { outcome := .error .cancelled, db } := by
  unfold execute CancelToken.check
  rw [h]
  rfl

/-- Any other is run in a scope of its own. -/
theorem Program.execute_eq_close {token : CancelToken} (h : token.isCancelled = false)
    (env : Surroundings) (p : Program α) (db : Database) :
    p.execute env token db = (p.run env { db }).2.close db (p.run env { db }).1 := by
  unfold execute CancelToken.check
  rw [h]
  rfl

/-- Within a transaction every query that takes effect is seen. -/
theorem Program.grown (env : Surroundings) (p : Program α) {s : Scope} (hkeyed : s.db.Keyed) :
    Grown (p.issued env s) (effective (p.issued env s)) s.db (p.run env s).2.db := by
  induction p generalizing s with
  | done a => exact .refl hkeyed
  | fail e => exact .refl hkeyed
  | crash => exact .refl hkeyed
  | cancel next ih => exact ih (s := s.cancel) hkeyed
  | call q next ih =>
      have hissue := (s.issue_made env q).grown hkeyed
      simp only [issued, run]
      rw [effective_cons]
      rcases houtcome : s.issue env q with ⟨outcome, s'⟩
      rw [houtcome] at hissue
      cases outcome with
      | ok a => exact hissue.trans (ih (.ok a) hissue.keyed)
      | error e => exact hissue.trans (ih (.error e) hissue.keyed)
      | crash =>
          rw [show effective [] = [] from rfl, List.append_nil]
          exact hissue

/-- A program that is not begun leaves everything as it is; any other is kept
as it was in its scope, or only the ids are gone. -/
theorem Transaction.program_cases (env : Surroundings) (token : CancelToken) (p : Program α)
    (db : Database) :
    (program env token p).transcript db = { issued := [], kept := false } ∧
        (program env token p).run db = db ∨
      (program env token p).transcript db =
          { issued := p.issued env { db }
            kept := (p.run env { db }).2.isKept (p.run env { db }).1 } ∧
        (program env token p).run db =
          if (p.run env { db }).2.isKept (p.run env { db }).1 then (p.run env { db }).2.db
          else db.withSequences (p.run env { db }).2.db.sequences := by
  cases htoken : token.isCancelled with
  | true =>
      refine .inl ⟨if_pos htoken, ?_⟩
      show (p.execute env token db).db = db
      rw [Program.execute_cancelled htoken]
  | false =>
      refine .inr ⟨if_neg (Bool.eq_false_iff.mp htoken), ?_⟩
      show (p.execute env token db).db = _
      rw [Program.execute_eq_close htoken, Scope.close_db]

/-- **What a transaction does.**  The keys stay in order, and of what was
stored only that changes which the committed queries change. -/
theorem Transaction.grown (t : Transaction) (hkeyed : db.Keyed) :
    Grown (t.transcript db).issued (t.transcript db).committed db (t.run db) := by
  cases t with
  | statement now q => exact (submit_made now q db).grown hkeyed
  | program env token p =>
      rcases program_cases env token p db with ⟨htranscript, hrun⟩ | ⟨htranscript, hrun⟩
      · rw [htranscript, hrun]
        exact .refl hkeyed
      · have hgrown := p.grown env (s := { db }) hkeyed
        rw [htranscript, hrun]
        unfold Transcript.committed
        split
        · exact hgrown
        · exact hgrown.undone hkeyed

/-- No transaction touches the catalog. -/
theorem Program.run_catalog (env : Surroundings) (p : Program α) (s : Scope) :
    (p.run env s).2.db.catalog = s.db.catalog := by
  induction p generalizing s with
  | done a => rfl
  | fail e => rfl
  | crash => rfl
  | cancel next ih => exact ih s.cancel
  | call q next ih =>
      obtain ⟨hcatalog, -, -⟩ := s.issue_proper env q
      simp only [run]
      rcases houtcome : s.issue env q with ⟨outcome, s'⟩
      rw [houtcome] at hcatalog
      cases outcome with
      | ok a => exact (ih (.ok a) s').trans hcatalog
      | error e => exact (ih (.error e) s').trans hcatalog
      | crash => exact hcatalog

theorem Transaction.run_catalog (t : Transaction) (db : Database) :
    (t.run db).catalog = db.catalog := by
  cases t with
  | statement now q => exact (Database.Succeeds.submit now q db).catalog
  | program env token p =>
      rcases program_cases env token p db with ⟨-, hrun⟩ | ⟨-, hrun⟩
      · rw [hrun]
      · rw [hrun]
        split
        · exact p.run_catalog env { db }
        · rfl

theorem Transaction.runAll_catalog (ts : List Transaction) (db : Database) :
    (runAll ts db).catalog = db.catalog := by
  induction ts generalizing db with
  | nil => rfl
  | cons t ts ih => exact (ih (t.run db)).trans (t.run_catalog db)

theorem Transaction.grown_all (ts : List Transaction) (hkeyed : db.Keyed) :
    Grown (issuedIn (transcripts ts db)) (committedIn (transcripts ts db)) db (runAll ts db) := by
  induction ts generalizing db with
  | nil => exact .refl hkeyed
  | cons t ts ih =>
      have ht := t.grown hkeyed
      exact ht.trans (ih ht.keyed)

end DoubleEntry
