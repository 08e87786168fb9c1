/-
DoubleEntry/Proofs/Ledger/Books.lean

Runs of the ledger.  A run starts from the empty ledger and makes one call
after the other; the books are the database it has come to and the history
of what each call answered.  What was agreed with the customers is read off
the history alone: `openings` are the accounts that were opened, with the
balance each was opened with, `adjustments` the adjustments that were
confirmed, and `transfersMade` the transfers.

A call may come at any time, with any arguments, and its statements may be
made to fail; a token may be cancelled beforehand or behind any statement.
Only where an account is opened is something assumed, namely that the clock
then shows one of the years 0 to 9999 and no leap second.  At another instant
a row is stored that cannot be read back, and the call that stored it fails.
-/
import Mathlib.Data.List.Induction
import DoubleEntry.Ledger.Accounts
import DoubleEntry.Ledger.Status
import DoubleEntry.Ledger.Verifications
import DoubleEntry.Proofs.Time.RoundTrip

namespace DoubleEntry

/-! ### Interrupted work -/

/-- The work with its token cancelled behind a number of queries, if it gets
that far. -/
def Work.cancelAfter {α : Type} : Nat → Work α → Work α
  | 0, w => cancel w
  | n + 1, cancel next => cancel (next.cancelAfter (n + 1))
  | n + 1, call q next => call q fun a => (next a).cancelAfter n
  | _ + 1, done a => done a
  | _ + 1, fail e => fail e
  | _ + 1, crash => crash

/-- A query by itself does not look at the token. -/
theorem Work.submitEach_cancelAfter {α : Type} (n : Nat) (w : Work α) (clock : Nat → Instant)
    (db : Database) : (w.cancelAfter n).submitEach clock db = w.submitEach clock db := by
  -- over the unit: only a query counts towards the number
  induction w generalizing n clock db with
  | done a => cases n <;> rfl
  | fail e => cases n <;> rfl
  | crash => cases n <;> rfl
  | cancel next ih =>
      cases n with
      | zero => rfl
      | succ n => exact ih (n + 1) clock db
  | call q next ih =>
      cases n with
      | zero => rfl
      | succ n =>
          simp only [cancelAfter, submitEach]
          rcases submit (clock 0) q db with ⟨outcome, db'⟩
          cases outcome with
          | ok a => exact ih a n _ db'
          | error e => rfl
          | crash => rfl

namespace Ledger

/-! ### Calls -/

/-- An operation of the ledger with its arguments. -/
inductive Operation where
  | openAccount (owner : String) (balance : Int64) (currency : String)
  | getAccount (id : Int64)
  | listAccounts (owner : Option String) (page : Page)
  | closeAccount (id : Int64)
  | adjustBalance (id amount : Int64)
  | transferFunds (request : TransferRequest)
  /-- A transfer under a token, which may be cancelled behind a statement. -/
  | transferFundsWith (token : CancelToken) (cancelled : Option Nat) (request : TransferRequest)
  | getTransfer (id : Int64)
  | listTransfers (accountId : Int64) (page : Page)
  | getEntry (id : Int64)
  | listEntries (accountId : Int64) (page : Page)
  | createUser (username fullName email : String)
  | getUser (username : String)
  | requestVerification (lifetime : Duration) (username secretCode : String)
  | getVerification (id : Int64)
  | verifyEmail (id : Int64) (secretCode : String)
  | status

namespace Operation

/-- What an operation answers when it succeeds. -/
@[reducible] def Answer : Operation → Type
  | openAccount .. | getAccount .. => Account
  | listAccounts .. => List Account
  | closeAccount .. => Unit
  | adjustBalance .. => AdjustmentReceipt
  | transferFunds .. | transferFundsWith .. => TransferReceipt
  | getTransfer .. => Transfer
  | listTransfers .. => List Transfer
  | getEntry .. => Entry
  | listEntries .. => List Entry
  | createUser .. | getUser .. => User
  | requestVerification .. | getVerification .. => Verification
  | verifyEmail .. => VerificationReceipt
  | status => LedgerStatus

/-- Performs an operation. -/
def perform (env : Surroundings) : (op : Operation) → Database → Ran op.Answer
  | openAccount owner balance currency, db => Ledger.openAccount env owner balance currency db
  | getAccount id, db => Ledger.getAccount env id db
  | listAccounts owner page, db => Ledger.listAccounts env owner page db
  | closeAccount id, db => Ledger.closeAccount env id db
  | adjustBalance id amount, db => Ledger.adjustBalance env id amount db
  | transferFunds request, db => Ledger.transferFunds env request db
  | transferFundsWith token none request, db => Ledger.transferFundsWith env token request db
  | transferFundsWith token (some n) request, db =>
      ((transferWork request).cancelAfter n).execute env token db
  | getTransfer id, db => Ledger.getTransfer env id db
  | listTransfers accountId page, db => Ledger.listTransfers env accountId page db
  | getEntry id, db => Ledger.getEntry env id db
  | listEntries accountId page, db => Ledger.listEntries env accountId page db
  | createUser username fullName email, db => Ledger.createUser env username fullName email db
  | getUser username, db => Ledger.getUser env username db
  | requestVerification lifetime username secretCode, db =>
      Ledger.requestVerification env lifetime username secretCode db
  | getVerification id, db => Ledger.getVerification env id db
  | verifyEmail id secretCode, db => Ledger.verifyEmail env id secretCode db
  | status, db => { outcome := .ofExcept (LedgerStatus.of db), db }

/-- Whether an operation opens an account. -/
def opensAccount : Operation → Bool
  | openAccount .. => true
  | _ => false

end Operation

/-- An operation that is called, and in what surroundings. -/
structure Call where
  operation : Operation
  env : Surroundings
  regular : operation.opensAccount = true → (env.clock 0).IsRegular

/-- The start of 1970, where nothing is made to fail. -/
def epoch : Surroundings :=
  .at { seconds := 0, nanos := 0 }

/-- A call at that time. -/
def Call.atEpoch (operation : Operation) : Call where
  operation
  env := epoch
  regular _ := by
    show (⟨0, 0⟩ : Instant).IsRegular
    decide

/-- Performs a call. -/
def Call.perform (c : Call) (db : Database) : Ran c.operation.Answer :=
  c.operation.perform c.env db

/-! ### Histories -/

/-- A call that was made, and how it ended. -/
structure Event where
  operation : Operation
  outcome : Outcome operation.Answer

namespace Event

/-- The id of an account that was opened, and the balance it was opened
with. -/
def opening? : Event → Option (Int64 × Int64)
  | { operation := .openAccount _ balance _, outcome := .ok account } => some (account.id, balance)
  | _ => none

/-- The account and the amount of an adjustment that was confirmed. -/
def adjustment? : Event → Option (Int64 × Int64)
  | { operation := .adjustBalance id amount, outcome := .ok _ } => some (id, amount)
  | _ => none

/-- A transfer that was confirmed. -/
def transfer? : Event → Option TransferRequest
  | { operation := .transferFunds request, outcome := .ok _ } => some request
  | { operation := .transferFundsWith _ _ request, outcome := .ok _ } => some request
  | _ => none

/-- Only a call that succeeds confirms a transfer. -/
theorem transfer?_of_not_ok {operation : Operation} {outcome : Outcome operation.Answer}
    (h : ∀ a, outcome ≠ .ok a) : transfer? ⟨operation, outcome⟩ = none := by
  cases outcome with
  | ok a => exact absurd rfl (h a)
  | error e => cases operation <;> rfl
  | crash => cases operation <;> rfl

end Event

/-- A database, and the history that has led to it. -/
structure Books where
  db : Database
  history : List Event

namespace Books

/-- The books before the first call. -/
def empty : Books :=
  { db := .fresh, history := [] }

/-- The books after a call. -/
def record (b : Books) (c : Call) : Books :=
  { db := (c.perform b.db).db
    history := b.history ++ [⟨c.operation, (c.perform b.db).outcome⟩] }

/-- The books after a run. -/
def after (calls : List Call) : Books :=
  calls.foldl record empty

/-- The accounts that were opened, each with its opening balance. -/
def openings (b : Books) : List (Int64 × Int64) :=
  b.history.filterMap Event.opening?

/-- The adjustments that were confirmed. -/
def adjustments (b : Books) : List (Int64 × Int64) :=
  b.history.filterMap Event.adjustment?

/-- The transfers that were confirmed. -/
def transfersMade (b : Books) : List TransferRequest :=
  b.history.filterMap Event.transfer?

/-- What the empty books have, and every call keeps, all books have. -/
theorem after_induction {motive : Books → Prop} (empty : motive empty)
    (record : ∀ b c, motive b → motive (b.record c)) (calls : List Call) :
    motive (after calls) := by
  unfold after
  -- a run grows at its end
  induction calls using List.reverseRecOn with
  | nil => exact empty
  | append_singleton calls c ih =>
      rw [List.foldl_append]
      exact record _ c ih

theorem after_append_singleton (calls : List Call) (c : Call) :
    after (calls ++ [c]) = (after calls).record c := by
  unfold after
  rw [List.foldl_append]
  rfl

/-- What the books have at one time, and every call keeps, they have at all
later times. -/
theorem later_induction {motive : Books → Prop} {calls : List Call}
    (start : motive (after calls))
    (record : ∀ calls c, motive (after calls) → motive ((after calls).record c))
    (later : List Call) : motive (after (calls ++ later)) := by
  induction later using List.reverseRecOn with
  | nil =>
      rw [List.append_nil]
      exact start
  | append_singleton later c ih =>
      rw [← List.append_assoc, after_append_singleton]
      exact record _ c ih

theorem openings_record (b : Books) (c : Call) :
    (b.record c).openings =
      b.openings ++ (Event.opening? ⟨c.operation, (c.perform b.db).outcome⟩).toList := by
  unfold openings record
  rw [List.filterMap_append]
  rfl

theorem adjustments_record (b : Books) (c : Call) :
    (b.record c).adjustments =
      b.adjustments ++ (Event.adjustment? ⟨c.operation, (c.perform b.db).outcome⟩).toList := by
  unfold adjustments record
  rw [List.filterMap_append]
  rfl

theorem transfersMade_record (b : Books) (c : Call) :
    (b.record c).transfersMade =
      b.transfersMade ++ (Event.transfer? ⟨c.operation, (c.perform b.db).outcome⟩).toList := by
  unfold transfersMade record
  rw [List.filterMap_append]
  rfl

end Books

end Ledger

end DoubleEntry
