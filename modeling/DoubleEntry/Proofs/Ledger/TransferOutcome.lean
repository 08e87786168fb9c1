/-
DoubleEntry/Proofs/Ledger/TransferOutcome.lean

What becomes of a transfer, in full.  `transferError?` says from the rows and
the request alone whether a transfer is refused and with which error: the
request is checked first, then the account with the lower id, then the other.
`transfer_outcome` says that a transfer is made exactly where nothing stands
against it, what it has then stored and answered, and that a refused one
leaves every row alone.

The ledger may be in any state in which its tables are there, its accounts
have different ids and can be read, and ids are left for the three rows
(`Database.Usable`, `Sequences.CoverTransfer`).  The clock shows the years 0
to 9999, as otherwise the new rows cannot be read back.
-/
import DoubleEntry.Proofs.Ledger.Additions
import DoubleEntry.Proofs.Ledger.Audit
import DoubleEntry.Proofs.Store.Usable

namespace DoubleEntry

/-- Ids are left for a transfer and its two entries. -/
structure Sequences.CoverTransfer (s : Sequences) : Prop where
  transfer : s.transfer < 9223372036854775807
  entry : s.entry + 1 < 9223372036854775807

namespace Ledger

variable {env : Surroundings} {db db' : Database} {r : TransferRequest} {token : CancelToken}

/-! ### Why a transfer is refused -/

/-- Why a transfer is refused, if it is. -/
def transferError? (rows : Rows) (r : TransferRequest) : Option Error :=
  if r.amount.toInt ≤ 0 then some (.constraint (.amountNotPositive r.amount))
  else if r.fromId = r.toId then some (.constraint (.transferToItself r.fromId))
  else pairError? rows r.fromId (-r.amount) r.toId r.amount

/-- The conditions of a transfer: a positive amount, two accounts that are
there, and balances that can bear it. -/
theorem transferError?_eq_none_iff (rows : Rows) (r : TransferRequest) :
    transferError? rows r = none ↔
      0 < r.amount.toInt ∧ r.fromId ≠ r.toId ∧
        (∃ source, rows.account? r.fromId = some source ∧
          -9223372036854775808 ≤ source.balance.toInt - r.amount.toInt) ∧
        ∃ target, rows.account? r.toId = some target ∧
          target.balance.toInt + r.amount.toInt ≤ 9223372036854775807 := by
  unfold transferError?
  by_cases hamount : r.amount.toInt ≤ 0
  · rw [if_pos hamount]
    constructor
    · intro h
      cases h
    · rintro ⟨hpos, -⟩
      omega
  have hpos : 0 < r.amount.toInt := by omega
  rw [if_neg hamount]
  by_cases hids : r.fromId = r.toId
  · rw [if_pos hids]
    constructor
    · intro h
      cases h
    · rintro ⟨-, hne, -⟩
      exact absurd hids hne
  rw [if_neg hids, pairError?_eq_none_iff, Rows.additionError?_eq_none_iff,
    Rows.additionError?_eq_none_iff, toInt_neg_of_pos hpos]
  -- a debit cannot leave 64 bits at the top, nor a credit at the bottom
  constructor
  · rintro ⟨⟨source, hsource, hlow, -⟩, target, htarget, -, hhigh⟩
    exact ⟨hpos, hids, ⟨source, hsource, by omega⟩, target, htarget, hhigh⟩
  · rintro ⟨-, -, ⟨source, hsource, hlow⟩, target, htarget, hhigh⟩
    have hsourceHigh := source.balance.toInt_lt
    have htargetLow := target.balance.le_toInt
    exact ⟨⟨source, hsource, by omega, by omega⟩, target, htarget, by omega, hhigh⟩

/-! ### What a transfer stores -/

/-- A transfer was stored with its two entries, the two balances were changed
by its amount and no other field of any row was; and what was answered is
what is stored. -/
structure TransferStored (r : TransferRequest) (receipt : TransferReceipt) (t : TransferRow)
    (debit credit : EntryRow) (db db' : Database) : Prop where
  catalog : db'.catalog = db.catalog
  rows : db'.rows =
    { db.rows with
      accounts := db'.rows.accounts
      entries := db.rows.entries ++ [debit, credit]
      transfers := db.rows.transfers ++ [t] }
  accounts : Moved
    (fun id => movement r.fromId (-r.amount.toInt) id + movement r.toId r.amount.toInt id)
    db.rows.accounts db'.rows.accounts
  transfer_eq : t.fromId = r.fromId ∧ t.toId = r.toId ∧ t.amount = r.amount
  debit_eq : debit.accountId = r.fromId ∧ debit.amount.toInt = -r.amount.toInt
  credit_eq : credit.accountId = r.toId ∧ credit.amount = r.amount
  transfer : t.read = .ok receipt.transfer
  fromEntry : debit.read = .ok receipt.fromEntry
  toEntry : credit.read = .ok receipt.toEntry
  fromAccount : Stored db'.rows r.fromId receipt.fromAccount
  toAccount : Stored db'.rows r.toId receipt.toAccount

/-! ### The statements of a transfer -/

/-- The database behind the three new rows of a transfer. -/
def withTransferRows (t : TransferRow) (debit credit : EntryRow) (db : Database) : Database :=
  ((db.addTransfer t).addEntry debit).addEntry credit

/-- What a transfer does behind its checks. -/
def transferStatements (r : TransferRequest) : Work TransferReceipt :=
  Work.query (.createTransfer r) >>= fun transfer =>
    Work.query (.createEntry r.fromId (-r.amount)) >>= fun fromEntry =>
      Work.query (.createEntry r.toId r.amount) >>= fun toEntry =>
        addMoney r.fromId (-r.amount) r.toId r.amount >>= fun accounts =>
          .done { transfer, fromEntry, toEntry, fromAccount := accounts.1,
                  toAccount := accounts.2 }

theorem transferWork_eq_check (r : TransferRequest) :
    transferWork r = Work.check r.validate >>= fun _ => transferStatements r :=
  rfl

/-- A transfer stores its three rows, and comes down to the two additions. -/
theorem submitEach_transferStatements (henv : ∀ n, (env.clock n).IsRegular) (hdb : db.Usable)
    (hids : db.sequences.CoverTransfer) (hpos : 0 < r.amount.toInt) :
    ∃ (transferId debitId creditId : Int64) (transfer : Transfer) (fromEntry toEntry : Entry),
      let t := TransferRow.written (env.clock 0) transferId r
      let debit := EntryRow.written (env.clock 1) debitId r.fromId (-r.amount)
      let credit := EntryRow.written (env.clock 2) creditId r.toId r.amount
      t.read = .ok transfer ∧ debit.read = .ok fromEntry ∧ credit.read = .ok toEntry ∧
        (transferStatements r).submitEach env.clock db =
          ((addMoney r.fromId (-r.amount) r.toId r.amount).submitEach (fun n => env.clock (n + 3))
            (withTransferRows t debit credit db)).map fun accounts =>
              { transfer, fromEntry, toEntry, fromAccount := accounts.1,
                toAccount := accounts.2 } := by
  obtain ⟨htransferIds, hentryIds⟩ := hids
  obtain ⟨transferId, transfer, htransfer, hsubmit₁⟩ :=
    submit_createTransfer (r := r) (henv 0) hdb.transferTable htransferIds hpos
  let db₁ := db.addTransfer (.written (env.clock 0) transferId r)
  have htable₁ : db₁.catalog.hasTable Migration.entryTable.name = true := hdb.entryTable
  have hids₁ : db₁.sequences.entry < 9223372036854775807 := Nat.lt_of_succ_lt hentryIds
  obtain ⟨debitId, fromEntry, hdebit, hsubmit₂⟩ :=
    submit_createEntry (henv 1) htable₁ hids₁ r.fromId (-r.amount)
  let db₂ := db₁.addEntry (.written (env.clock 1) debitId r.fromId (-r.amount))
  have htable₂ : db₂.catalog.hasTable Migration.entryTable.name = true := hdb.entryTable
  have hids₂ : db₂.sequences.entry < 9223372036854775807 := hentryIds
  obtain ⟨creditId, toEntry, hcredit, hsubmit₃⟩ :=
    submit_createEntry (henv 2) htable₂ hids₂ r.toId r.amount
  refine ⟨transferId, debitId, creditId, transfer, fromEntry, toEntry, htransfer, hdebit, hcredit,
    ?_⟩
  -- the three statements in their order, and what is left
  refine (Work.submitEach_of_answered env.clock hsubmit₁).trans ?_
  refine (Work.submitEach_of_answered (fun n => env.clock (n + 1)) hsubmit₂).trans ?_
  refine (Work.submitEach_of_answered (fun n => env.clock (n + 2)) hsubmit₃).trans ?_
  exact Work.submitEach_map _ _ _ _

theorem neverCancels_transferWork (r : TransferRequest) : (transferWork r).NeverCancels := by
  unfold transferWork
  refine Work.neverCancels_bind (Work.neverCancels_check _) fun _ => ?_
  refine Work.neverCancels_bind (Work.neverCancels_query _) fun transfer => ?_
  refine Work.neverCancels_bind (Work.neverCancels_query _) fun fromEntry => ?_
  refine Work.neverCancels_bind (Work.neverCancels_query _) fun toEntry => ?_
  exact Work.neverCancels_bind (neverCancels_addMoney _ _ _ _) fun accounts => trivial

/-! ### The outcome -/

/-- The rules of a request stand against it first: a positive amount, and
then two accounts. -/
theorem validate_of_transferError? {e : Error} (h : transferError? db.rows r = some e) :
    r.validate = .error e ∨
      (r.validate = .ok () ∧ pairError? db.rows r.fromId (-r.amount) r.toId r.amount = some e) := by
  unfold transferError? at h
  split at h
  case isTrue hamount =>
    left
    cases h
    have hnot : ¬ 0 < r.amount.toInt := by omega
    simp [TransferRequest.validate, ensure, hnot, bind, Except.bind]
  case isFalse hamount =>
    have hpos : 0 < r.amount.toInt := by omega
    split at h
    case isTrue hself =>
      left
      cases h
      simp [TransferRequest.validate, ensure, hpos, hself, bind, Except.bind]
    case isFalse hne =>
      right
      exact ⟨TransferRequest.validate_ok_iff.mpr ⟨hpos, hne⟩, h⟩

/-- A transfer that something stands against is refused with that. -/
theorem transferWork_of_some {e : Error} (henv : ∀ n, (env.clock n).IsRegular) (hdb : db.Usable)
    (hids : db.sequences.CoverTransfer) (h : transferError? db.rows r = some e) :
    ∃ db', (transferWork r).submitEach env.clock db = { outcome := .error e, db := db' } := by
  rw [transferWork_eq_check]
  rcases validate_of_transferError? h with hinvalid | ⟨hvalid, hpair⟩
  · -- refused before anything is stored
    rw [hinvalid]
    exact ⟨db, rfl⟩
  · -- refused by one of the additions, which see the accounts as they were
    obtain ⟨hpos, hne⟩ := TransferRequest.validate_ok_iff.mp hvalid
    obtain ⟨transferId, debitId, creditId, _, _, _, -, -, -, hrun⟩ :=
      submitEach_transferStatements henv hdb hids hpos
    let stored := withTransferRows (.written (env.clock 0) transferId r)
      (.written (env.clock 1) debitId r.fromId (-r.amount))
      (.written (env.clock 2) creditId r.toId r.amount) db
    have htable : stored.catalog.hasTable Migration.accountTable.name = true := hdb.accountTable
    obtain ⟨db', hadd, -⟩ :=
      addMoney_of_some htable hdb.readable hne (fun n => env.clock (n + 3)) hpair
    rw [hadd] at hrun
    rw [hvalid]
    exact ⟨db', hrun⟩

/-- Any other transfer is made. -/
theorem transferWork_of_none (henv : ∀ n, (env.clock n).IsRegular) (hdb : db.Usable)
    (hids : db.sequences.CoverTransfer) (h : transferError? db.rows r = none) :
    ∃ receipt t debit credit db',
      (transferWork r).submitEach env.clock db = { outcome := .ok receipt, db := db' } ∧
        TransferStored r receipt t debit credit db db' := by
  obtain ⟨hpos, hne, -⟩ := (transferError?_eq_none_iff db.rows r).mp h
  have hvalid : r.validate = .ok () := TransferRequest.validate_ok_iff.mpr ⟨hpos, hne⟩
  have hpair : pairError? db.rows r.fromId (-r.amount) r.toId r.amount = none := by
    have hnot : ¬ r.amount.toInt ≤ 0 := by omega
    rwa [transferError?, if_neg hnot, if_neg hne] at h
  obtain ⟨transferId, debitId, creditId, transfer, fromEntry, toEntry, htransfer, hdebit, hcredit,
    hrun⟩ := submitEach_transferStatements henv hdb hids hpos
  let stored := withTransferRows (.written (env.clock 0) transferId r)
    (.written (env.clock 1) debitId r.fromId (-r.amount))
    (.written (env.clock 2) creditId r.toId r.amount) db
  have htable : stored.catalog.hasTable Migration.accountTable.name = true := hdb.accountTable
  obtain ⟨fromAccount, toAccount, db', hadd, hadded⟩ :=
    addMoney_of_none htable hdb.readable hne hdb.ids (fun n => env.clock (n + 3)) hpair
  have hmoved := hadded.accounts
  rw [toInt_neg_of_pos hpos] at hmoved
  rw [hadd] at hrun
  rw [transferWork_eq_check, hvalid]
  refine ⟨_, .written (env.clock 0) transferId r,
    .written (env.clock 1) debitId r.fromId (-r.amount),
    .written (env.clock 2) creditId r.toId r.amount, db', hrun, ?_⟩
  constructor
  case catalog =>
    rw [hadded.frame]
    rfl
  case rows =>
    rw [hadded.frame]
    show ({ db.rows with
            accounts := _, entries := (db.rows.entries ++ [_]) ++ [_], transfers := _ } : Rows) = _
    rw [List.append_assoc]
    rfl
  case accounts => exact hmoved
  case transfer_eq => exact ⟨rfl, rfl, rfl⟩
  case debit_eq => exact ⟨rfl, toInt_neg_of_pos hpos⟩
  case credit_eq => exact ⟨rfl, rfl⟩
  case transfer => exact htransfer
  case fromEntry => exact hdebit
  case toEntry => exact hcredit
  case fromAccount => exact hadded.first
  case toAccount => exact hadded.second

/-- **The outcome of a transfer.**  Under a token that is not cancelled a
transfer is made exactly if its amount is positive, its accounts are two that
are there, and neither balance leaves 64 bits; its rows are then stored, and
what is answered is what is stored.  Otherwise no row changes, and the error
is the first that stands against it. -/
theorem transfer_outcome (henv : env.Orderly) (hdb : db.Usable)
    (hids : db.sequences.CoverTransfer) (htoken : token.isCancelled = false)
    (r : TransferRequest) :
    let ran := transferFundsWith env token r db
    transferFunds env r db = ran ∧
      ((∃ receipt, ran.outcome = .ok receipt) ↔
        0 < r.amount.toInt ∧ r.fromId ≠ r.toId ∧
          (∃ source, db.rows.account? r.fromId = some source ∧
            -9223372036854775808 ≤ source.balance.toInt - r.amount.toInt) ∧
          ∃ target, db.rows.account? r.toId = some target ∧
            target.balance.toInt + r.amount.toInt ≤ 9223372036854775807) ∧
      (∀ receipt, ran.outcome = .ok receipt →
        ∃ t debit credit, TransferStored r receipt t debit credit db ran.db) ∧
      ((∀ receipt, ran.outcome ≠ .ok receipt) →
        ran.db.rows = db.rows ∧
          ∃ e, ran.outcome = .error e ∧ transferError? db.rows r = some e) := by
  intro ran
  cases herror : transferError? db.rows r with
  | none =>
      obtain ⟨receipt, t, debit, credit, db', hwork, hstored⟩ :=
        transferWork_of_none henv.clock hdb hids herror
      have hran : ran = { outcome := .ok receipt, db := db' } :=
        Work.execute_of_answered (neverCancels_transferWork r) henv.failOn htoken hwork
      have hdefault : transferFunds env r db = { outcome := .ok receipt, db := db' } :=
        Work.execute_of_answered (neverCancels_transferWork r) henv.failOn rfl hwork
      rw [hran]
      refine ⟨hdefault, ?_, ?_, ?_⟩
      · exact iff_of_true ⟨receipt, rfl⟩ ((transferError?_eq_none_iff db.rows r).mp herror)
      · intro answered hanswered
        cases hanswered
        exact ⟨t, debit, credit, hstored⟩
      · intro hnot
        exact absurd rfl (hnot receipt)
  | some e =>
      obtain ⟨db', hwork⟩ := transferWork_of_some henv.clock hdb hids herror
      have hran : ran = { outcome := .error e, db := db.withSequences db'.sequences } :=
        Work.execute_of_refused (neverCancels_transferWork r) henv.failOn htoken hwork
      have hdefault : transferFunds env r db =
          { outcome := .error e, db := db.withSequences db'.sequences } :=
        Work.execute_of_refused (neverCancels_transferWork r) henv.failOn rfl hwork
      rw [hran]
      refine ⟨hdefault, ?_, ?_, ?_⟩
      · apply iff_of_false
        · rintro ⟨receipt, hreceipt⟩
          cases hreceipt
        · intro hconditions
          rw [(transferError?_eq_none_iff db.rows r).mpr hconditions] at herror
          cases herror
      · intro receipt hreceipt
        cases hreceipt
      · intro hnot
        exact ⟨rfl, e, rfl, rfl⟩

/-- Ann opens an account with 100, Bob one with 20. -/
def openedCalls : List Call :=
  [.atEpoch (.openAccount "ann" 100 "USD"), .atEpoch (.openAccount "bob" 20 "USD")]

/-- Bob, whose account has the higher id, sends Ann more than he has. -/
theorem transfer_outcome_of_bob :
    let db := (Books.after openedCalls).db
    let request : TransferRequest := ⟨2, 1, 50⟩
    epoch.Orderly ∧ db.Usable ∧ db.sequences.CoverTransfer ∧
      ∃ receipt t debit credit,
        (transferFundsWith epoch {} request db).outcome = .ok receipt ∧
          TransferStored request receipt t debit credit db
            (transferFundsWith epoch {} request db).db := by
  intro db request
  have henv : epoch.Orderly := by
    refine ⟨rfl, ?_⟩
    intro n
    show (⟨0, 0⟩ : Instant).IsRegular
    decide
  have hdb : db.Usable := (audited_after openedCalls).kept.usable
  have hids : db.sequences.CoverTransfer := by
    constructor <;> decide +kernel
  have htoken : ({} : CancelToken).isCancelled = false := rfl
  obtain ⟨-, hok, hstored, -⟩ := transfer_outcome henv hdb hids htoken request
  have hconditions : ∃ receipt, (transferFundsWith epoch {} request db).outcome = .ok receipt := by
    refine hok.mpr ⟨by decide, by decide, ?_, ?_⟩
    · exact ⟨⟨2, "bob", 20, "USD", "1970-01-01T00:00:00+00:00"⟩, by decide +kernel, by decide⟩
    · exact ⟨⟨1, "ann", 100, "USD", "1970-01-01T00:00:00+00:00"⟩, by decide +kernel, by decide⟩
  obtain ⟨receipt, hreceipt⟩ := hconditions
  obtain ⟨t, debit, credit, h⟩ := hstored receipt hreceipt
  exact ⟨henv, hdb, hids, receipt, t, debit, credit, hreceipt, h⟩

end Ledger

end DoubleEntry
