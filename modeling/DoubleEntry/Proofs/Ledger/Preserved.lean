/-
DoubleEntry/Proofs/Ledger/Preserved.lean

Invariants of the rows over whole runs.  `Operation.Issues P` says that an
operation issues only queries of which `P` holds, and takes into account what
the operation has checked by then; it keeps every invariant that these queries
keep (`Operation.perform_preserves`).  An invariant that every query keeps is
kept by everything that can be done with a ledger (`Database.after_preserves`).
-/
import DoubleEntry.Proofs.Ledger.Steps
import DoubleEntry.Proofs.Ledger.VerificationEffect
import DoubleEntry.Proofs.Store.Preserved

namespace DoubleEntry

variable {inv : Rows → Prop} {db : Database}

namespace Ledger

/-! ### Operations -/

/-- Every query that the operation may issue is one of these. -/
def Operation.Issues (P : Query → Prop) : Operation → Prop
  | openAccount owner balance currency =>
      ∀ checked, checkOpening owner currency = .ok checked →
        P (.createAccount checked.1 balance checked.2)
  | getAccount id => P (.account id)
  | listAccounts owner page => P (.accounts owner page)
  | closeAccount id => (closeWork id).Issues P
  | adjustBalance id amount => amount ≠ 0 → (adjustWork id amount).Issues P
  | transferFunds request | transferFundsWith _ _ request => (transferWork request).Issues P
  | getTransfer id => P (.transfer id)
  | listTransfers accountId page =>
      (pageWork accountId page (.transfers accountId page)).Issues P
  | getEntry id => P (.entry id)
  | listEntries accountId page => (pageWork accountId page (.entries accountId page)).Issues P
  | createUser username fullName email =>
      User.validateNew username fullName email = .ok () →
        P (.createUser username (Text.trim fullName) email)
  | getUser username => P (.user username)
  | requestVerification lifetime username secretCode =>
      (requestWork lifetime username secretCode).Issues P
  | getVerification id => P (.verification id)
  | verifyEmail id secretCode => ∀ now, (confirmWork id secretCode now).Issues P
  | status => True

theorem Operation.Issues.imp {P P' : Query → Prop} {op : Operation} (hop : op.Issues P)
    (h : ∀ q, P q → P' q) : op.Issues P' := by
  cases op with
  | openAccount owner balance currency => exact fun checked hcheck => h _ (hop checked hcheck)
  | createUser username fullName email => exact fun hcheck => h _ (hop hcheck)
  | adjustBalance id amount => exact fun hamount => Work.Issues.imp (hop hamount) h
  | verifyEmail id secretCode => exact fun now => Work.Issues.imp (hop now) h
  | closeAccount id | transferFunds request | transferFundsWith token cancelled request
  | listTransfers accountId page | listEntries accountId page
  | requestVerification lifetime username secretCode => exact Work.Issues.imp hop h
  | getAccount id | listAccounts owner page | getTransfer id | getEntry id | getUser username
  | getVerification id => exact h _ hop
  | status => trivial

/-- **An operation keeps what its queries keep.** -/
theorem Operation.perform_preserves {op : Operation} (hop : op.Issues (Query.Preserves inv))
    (env : Surroundings) (hdb : inv db.rows) : inv (op.perform env db).db.rows := by
  cases op with
  | openAccount owner balance currency =>
      show inv (Ledger.openAccount env owner balance currency db).db.rows
      unfold Ledger.openAccount
      cases hcheck : checkOpening owner currency with
      | ok checked => exact submit_preserves (hop checked hcheck) _ hdb
      | error e => exact hdb
  | listAccounts owner page =>
      show inv (Ledger.listAccounts env owner page db).db.rows
      unfold Ledger.listAccounts
      cases checkPage page.limit page.offset with
      | ok u => exact submit_preserves hop _ hdb
      | error e => exact hdb
  | adjustBalance id amount =>
      show inv (Ledger.adjustBalance env id amount db).db.rows
      unfold Ledger.adjustBalance
      cases hcheck : ensure (amount ≠ 0) .zeroAdjustment with
      | ok u =>
          have hamount : amount ≠ 0 := of_decide_eq_true (ensure_ok_iff.mp hcheck)
          exact Work.execute_preserves (hop hamount) env {} hdb
      | error e => exact hdb
  | createUser username fullName email =>
      show inv (Ledger.createUser env username fullName email db).db.rows
      unfold Ledger.createUser
      cases hcheck : User.validateNew username fullName email with
      | ok u => exact submit_preserves (hop hcheck) _ hdb
      | error e => exact hdb
  | closeAccount id => exact Work.execute_preserves hop env {} hdb
  | transferFunds request => exact Work.execute_preserves hop env {} hdb
  | transferFundsWith token cancelled request =>
      cases cancelled with
      | none => exact Work.execute_preserves hop env token hdb
      | some n => exact Work.execute_preserves (Work.issues_cancelAfter hop n) env token hdb
  | listTransfers accountId page | listEntries accountId page =>
      exact Work.submitEach_preserves hop _ hdb
  | requestVerification lifetime username secretCode => exact Work.execute_preserves hop env {} hdb
  | verifyEmail id secretCode => exact Work.execute_preserves (hop _) env {} hdb
  | getAccount id | getTransfer id | getEntry id | getUser username | getVerification id =>
      exact submit_preserves hop _ hdb
  | status => exact hdb

/-! ### Runs -/

theorem Step.run_preserves (hinv : ∀ q : Query, q.Preserves inv) (step : Step)
    (hdb : inv db.rows) : inv (step.run db).rows := by
  cases step with
  | transaction t => exact t.run_preserves hinv hdb
  | operation env op =>
      show inv (op.perform env db).db.rows
      rw [op.perform_db]
      exact Transaction.runAll_preserves hinv _ hdb
  | migrate => exact hdb

end Ledger

/-- **Whatever is done with a ledger keeps what every query keeps.** -/
theorem Database.after_preserves (hinv : ∀ q : Query, q.Preserves inv) (steps : List Ledger.Step)
    (hdb : inv db.rows) : inv (db.after steps).rows := by
  induction steps generalizing db with
  | nil => exact hdb
  | cons step steps ih => exact ih (step.run_preserves hinv hdb)

end DoubleEntry
