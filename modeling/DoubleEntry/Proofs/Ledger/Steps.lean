/-
DoubleEntry/Proofs/Ledger/Steps.lean

Runs of everything that can be done with a ledger: a transaction of any kind,
an operation of the ledger, or its migrations.  An operation runs as one or
more transactions, or as none where it fails before it comes to any
(`Operation.perform_db`); so the transcripts of a run tell all that was issued
and committed in it (`Database.transcripts`).

`Database.Keyed.grown` says what holds between any two moments of a run.  A run
may start from a database without tables, where every query fails until the
migrations have been run.
-/
import DoubleEntry.Proofs.Ledger.Books
import DoubleEntry.Proofs.Migration.AllOrNothing
import DoubleEntry.Proofs.Store.Transaction

namespace DoubleEntry.Ledger

variable {db : Database}

/-! ### Operations as transactions -/

/-- The transactions that an operation runs as. -/
def Operation.transactions (env : Surroundings) : Operation → Database → List Transaction
  | openAccount owner balance currency, _ =>
      match checkOpening owner currency with
      | .ok (owner, currency) => [.statement (env.clock 0) (.createAccount owner balance currency)]
      | .error _ => []
  | getAccount id, _ => [.statement (env.clock 0) (.account id)]
  | listAccounts owner page, _ =>
      match checkPage page.limit page.offset with
      | .ok () => [.statement (env.clock 0) (.accounts owner page)]
      | .error _ => []
  | closeAccount id, _ => [.program env {} (closeWork id).program]
  | adjustBalance id amount, _ =>
      match ensure (amount ≠ 0) .zeroAdjustment with
      | .ok () => [.program env {} (adjustWork id amount).program]
      | .error _ => []
  | transferFunds request, _ => [.program env {} (transferWork request).program]
  | transferFundsWith token none request, _ => [.program env token (transferWork request).program]
  | transferFundsWith token (some n) request, _ =>
      [.program env token ((transferWork request).cancelAfter n).program]
  | getTransfer id, _ => [.statement (env.clock 0) (.transfer id)]
  | listTransfers accountId page, db =>
      (pageWork accountId page (.transfers accountId page)).statements env.clock db
  | getEntry id, _ => [.statement (env.clock 0) (.entry id)]
  | listEntries accountId page, db =>
      (pageWork accountId page (.entries accountId page)).statements env.clock db
  | createUser username fullName email, _ =>
      match User.validateNew username fullName email with
      | .ok () => [.statement (env.clock 0) (.createUser username (Text.trim fullName) email)]
      | .error _ => []
  | getUser username, _ => [.statement (env.clock 0) (.user username)]
  | requestVerification lifetime username secretCode, _ =>
      [.program env {} (requestWork lifetime username secretCode).program]
  | getVerification id, _ => [.statement (env.clock 0) (.verification id)]
  | verifyEmail id secretCode, _ =>
      [.program env {} (confirmWork id secretCode (env.clock 0)).program]
  | status, _ => []

theorem run_program {α : Type} (env : Surroundings) (token : CancelToken) (w : Work α)
    (db : Database) :
    Transaction.runAll [.program env token w.program] db = (w.execute env token db).db := by
  show (w.program.execute env token db).db = _
  rw [w.execute_program]

/-- An operation leaves the database that its transactions leave. -/
theorem Operation.perform_db (env : Surroundings) (op : Operation) (db : Database) :
    (op.perform env db).db = Transaction.runAll (op.transactions env db) db := by
  cases op with
  | openAccount owner balance currency =>
      show (Ledger.openAccount env owner balance currency db).db = _
      simp only [Ledger.openAccount, transactions]
      cases checkOpening owner currency with
      | ok checked => rfl
      | error e => rfl
  | listAccounts owner page =>
      show (Ledger.listAccounts env owner page db).db = _
      simp only [Ledger.listAccounts, transactions]
      cases checkPage page.limit page.offset with
      | ok u => rfl
      | error e => rfl
  | adjustBalance id amount =>
      show (Ledger.adjustBalance env id amount db).db = _
      simp only [Ledger.adjustBalance, transactions]
      cases ensure (amount ≠ 0) .zeroAdjustment with
      | ok u => exact (run_program env {} _ db).symm
      | error e => rfl
  | createUser username fullName email =>
      show (Ledger.createUser env username fullName email db).db = _
      simp only [Ledger.createUser, transactions]
      cases User.validateNew username fullName email with
      | ok u => rfl
      | error e => rfl
  | closeAccount id => exact (run_program env {} _ db).symm
  | transferFunds request => exact (run_program env {} _ db).symm
  | transferFundsWith token cancelled request =>
      cases cancelled with
      | none => exact (run_program env token _ db).symm
      | some n => exact (run_program env token _ db).symm
  | requestVerification lifetime username secretCode => exact (run_program env {} _ db).symm
  | verifyEmail id secretCode => exact (run_program env {} _ db).symm
  | listTransfers accountId page | listEntries accountId page =>
      exact (Work.runAll_statements env.clock _ db).symm
  | getAccount id | getTransfer id | getEntry id | getUser username | getVerification id => rfl
  | status => rfl

/-! ### Runs -/

/-- What can be done with a ledger. -/
inductive Step : Type 1 where
  | transaction (t : Transaction)
  | operation (env : Surroundings) (op : Operation)
  | migrate

namespace Step

/-- The database after a step. -/
def run : Step → Database → Database
  | transaction t, db => t.run db
  | operation env op, db => (op.perform env db).db
  | migrate, db => db.migrate.2

/-- The transactions of a step. -/
def transactions : Step → Database → List Transaction
  | transaction t, _ => [t]
  | operation env op, db => op.transactions env db
  | migrate, _ => []

/-- A step does what its transactions do; migrations leave the rows alone. -/
theorem grown (step : Step) (hkeyed : db.Keyed) :
    Grown (issuedIn (Transaction.transcripts (step.transactions db) db))
      (committedIn (Transaction.transcripts (step.transactions db) db)) db (step.run db) := by
  cases step with
  | transaction t => exact Transaction.grown_all [t] hkeyed
  | operation env op =>
      have hall := Transaction.grown_all (op.transactions env db) hkeyed
      rw [← op.perform_db] at hall
      exact hall
  | migrate => exact .of_rows hkeyed rfl (Sequences.le_refl _)

end Step

end Ledger

open Ledger

namespace Database

/-- The database after a run. -/
def after (db : Database) : List Step → Database
  | [] => db
  | step :: rest => (step.run db).after rest

/-- The transcripts of all transactions of a run. -/
def transcripts (db : Database) : List Step → List Transcript
  | [] => []
  | step :: rest =>
      Transaction.transcripts (step.transactions db) db ++ (step.run db).transcripts rest

/-- The queries issued in a run. -/
def issued (db : Database) (steps : List Step) : List Issued :=
  issuedIn (db.transcripts steps)

/-- The queries committed in a run. -/
def committed (db : Database) (steps : List Step) : List Query :=
  committedIn (db.transcripts steps)

variable {db : Database}

/-- The migrations of the ledger have been run. -/
def Migrated (db : Database) : Prop :=
  db.catalog = fresh.catalog

/-- They are run once; from then on there is nothing left to run. -/
theorem migrated_migrate (h : db.catalog = {} ∨ db.Migrated) : db.migrate.2.Migrated := by
  show (Migration.runPending Migration.ledger db.catalog).2 = fresh.catalog
  rcases h with hempty | hmigrated
  · rw [hempty]
    rfl
  · rw [hmigrated]
    obtain ⟨report, hran⟩ : ∃ report, Migration.runPending Migration.ledger fresh.catalog =
        (.ok report, fresh.catalog) :=
      Migration.runPending_of_recorded (by decide +kernel) (by decide +kernel) (by decide +kernel)
    rw [hran]

/-- A step leaves the catalog alone, unless it runs the migrations. -/
theorem run_catalog {step : Step} (h : step ≠ .migrate) (db : Database) :
    (step.run db).catalog = db.catalog := by
  cases step with
  | transaction t => exact t.run_catalog db
  | operation env op =>
      show (op.perform env db).db.catalog = db.catalog
      rw [op.perform_db]
      exact Transaction.runAll_catalog _ db
  | migrate => exact absurd rfl h

/-- A run of which the migrations are part leaves a migrated ledger. -/
theorem migrated_after {steps : List Step} (h : db.catalog = {} ∨ db.Migrated)
    (hsteps : .migrate ∈ steps ∨ db.Migrated) : (db.after steps).Migrated := by
  induction steps generalizing db with
  | nil =>
      rcases hsteps with hmem | hmigrated
      · cases hmem
      · exact hmigrated
  | cons step steps ih =>
      by_cases hstep : step = .migrate
      · subst hstep
        have hmigrated := migrated_migrate h
        exact ih (.inr hmigrated) (.inr hmigrated)
      · have hcatalog := run_catalog hstep db
        apply ih
        · unfold Migrated
          rw [hcatalog]
          exact h
        · rcases hsteps with hmem | hmigrated
          · exact .inl ((List.mem_cons.mp hmem).resolve_left fun heq => hstep heq.symm)
          · exact .inr (hcatalog.trans hmigrated)

/-- **What holds between two moments of a run.** -/
theorem Keyed.grown (h : db.Keyed) (steps : List Step) :
    Grown (db.issued steps) (db.committed steps) db (db.after steps) := by
  induction steps generalizing db with
  | nil => exact .refl h
  | cons step steps ih =>
      have hstep := step.grown h
      have hboth := hstep.trans (ih hstep.keyed)
      unfold issued committed issuedIn committedIn transcripts
      rw [List.flatMap_append, List.flatMap_append]
      exact hboth

end Database

end DoubleEntry
