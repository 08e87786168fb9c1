/-
DoubleEntry/Proofs/Ledger/Units.lean

What the units of work that move money do when they are kept: a closed
account had no entries (`closeWork_closed`), an adjustment is an entry and a
movement on one balance (`adjustWork_made`), and a transfer is a row, two
entries and a movement from one balance to another (`transferWork_made`).
Each is opened statement by statement, in the order in which it was written.
-/
import DoubleEntry.Proofs.Store.Kept
import DoubleEntry.Ledger.Accounts

namespace DoubleEntry.Ledger

variable {db db' : Database}

/-! ### What was done -/

/-- An account was opened. -/
structure AccountOpened (row : AccountRow) (db db' : Database) : Prop where
  id : row.id.toInt = db.sequences.account + 1
  legible : row.IsLegible
  accounts : db'.rows.accounts = db.rows.accounts ++ [row]
  entries : db'.rows.entries = db.rows.entries
  transfers : db'.rows.transfers = db.rows.transfers
  sequence : db'.sequences.account = db.sequences.account + 1

/-- An account that no entry refers to was closed. -/
structure AccountClosed (id : Int64) (db db' : Database) : Prop where
  account : ∃ r ∈ db.rows.accounts, r.id = id
  unused : ∀ e ∈ db.rows.entries, e.accountId ≠ id
  accounts : db'.rows.accounts = db.rows.accounts.filter fun r => r.id ≠ id
  entries : db'.rows.entries = db.rows.entries
  transfers : db'.rows.transfers = db.rows.transfers

/-- A balance was adjusted, and the entry stored that says so. -/
structure AdjustmentMade (entry : EntryRow) (db db' : Database) : Prop where
  id : entry.id.toInt = db.sequences.entry + 1
  readable : ∃ e, entry.read = .ok e
  account : ∃ r ∈ db.rows.accounts, r.id = entry.accountId
  accounts : Moved (movement entry.accountId entry.amount.toInt) db.rows.accounts db'.rows.accounts
  entries : db'.rows.entries = db.rows.entries ++ [entry]
  transfers : db'.rows.transfers = db.rows.transfers
  sequence : db'.sequences.entry = db.sequences.entry + 1

/-- A transfer was made: it was stored with its debit and its credit, and the
two balances were changed by its amount. -/
structure TransferMade (t : TransferRow) (debit credit : EntryRow) (db db' : Database) : Prop where
  amount : 0 < t.amount.toInt
  distinct : t.fromId ≠ t.toId
  id : t.id.toInt = db.sequences.transfer + 1
  debit_id : debit.id.toInt = db.sequences.entry + 1
  debit_account : debit.accountId = t.fromId
  debit_amount : debit.amount.toInt = -t.amount.toInt
  debit_readable : ∃ e, debit.read = .ok e
  credit_id : credit.id.toInt = db.sequences.entry + 2
  credit_account : credit.accountId = t.toId
  credit_amount : credit.amount.toInt = t.amount.toInt
  credit_readable : ∃ e, credit.read = .ok e
  source : ∃ r ∈ db.rows.accounts, r.id = t.fromId
  target : ∃ r ∈ db.rows.accounts, r.id = t.toId
  accounts : Moved
    (fun id => movement t.fromId (-t.amount.toInt) id + movement t.toId t.amount.toInt id)
    db.rows.accounts db'.rows.accounts
  entries : db'.rows.entries = db.rows.entries ++ [debit, credit]
  transfers : db'.rows.transfers = db.rows.transfers ++ [t]
  entry_sequence : db'.sequences.entry = db.sequences.entry + 2
  transfer_sequence : db'.sequences.transfer = db.sequences.transfer + 1

/-! ### Closing -/

theorem ensure_ok_iff {condition : Bool} {v : Violation} {u : Unit} :
    ensure condition v = .ok u ↔ condition = true := by
  unfold ensure
  cases condition with
  | true => simp only [if_true]
  | false => simp only [Bool.false_eq_true, if_false, reduceCtorEq]

/-- A first page without entries means that there are none. -/
theorem entries_eq_nil {rows : List EntryRow} {es : List Entry}
    (h : (Page.select { limit := 1, offset := 0 } rows).mapM EntryRow.read = .ok es)
    (hes : es.isEmpty = true) : rows = [] := by
  obtain rfl := List.isEmpty_iff.mp hes
  cases rows with
  | nil => rfl
  | cons r rows =>
      have hpage : Page.select { limit := 1, offset := 0 } (r :: rows) = [r] := rfl
      rw [hpage, List.mapM_cons] at h
      cases hr : r.read with
      | ok e =>
          rw [hr] at h
          cases h
      | error e =>
          rw [hr] at h
          cases h

/-- An account that is closed has no entries. -/
theorem closeWork_closed {clock : Nat → Instant} {id : Int64} {u : Unit}
    (h : (closeWork id).submitEach clock db = { outcome := .ok u, db := db' }) :
    AccountClosed id db db' := by
  unfold closeWork at h
  rw [Work.submitEach_query_bind] at h
  obtain ⟨account, db₁, hfind, h⟩ := h
  obtain ⟨-, hfind⟩ := submit_ok_iff.mp hfind
  obtain ⟨-, row, -, -, rfl⟩ := answers_findAccount_iff.mp hfind
  rw [Work.submitEach_query_bind] at h
  obtain ⟨es, db₂, hlist, h⟩ := h
  obtain ⟨-, hlist⟩ := submit_ok_iff.mp hlist
  obtain ⟨-, -, -, hpage, rfl⟩ := answers_listEntries_iff.mp hlist
  rw [Work.submitEach_check_bind] at h
  obtain ⟨_, hempty, h⟩ := h
  rw [Work.submitEach_query] at h
  obtain ⟨-, hdelete⟩ := submit_ok_iff.mp h
  obtain ⟨-, ⟨row, hrow⟩, rfl⟩ := answers_deleteAccount_iff.mp hdelete
  -- no row on the first page, so none on any
  have hnone := entries_eq_nil hpage (ensure_ok_iff.mp hempty)
  refine ⟨⟨row, Rows.account?_eq_some hrow⟩, ?_, rfl, rfl, rfl⟩
  intro e he hid
  have hmem : e ∈ db₂.rows.entries.filter fun r => r.accountId = id :=
    List.mem_filter.mpr ⟨he, decide_eq_true hid⟩
  rw [hnone] at hmem
  cases hmem

/-! ### Adding to balances -/

/-- An account under an id, as it is read from one of the rows. -/
structure ReadUnder (id : Int64) (rows : List AccountRow) (a : Account) : Prop where
  id_eq : a.id = id
  row : ∃ r ∈ rows, r.id = id ∧ readCurrency r.currency = .ok a.currency
  readable : ∃ r ∈ rows, r.id = id ∧ ∃ b, r.read = .ok b

/-- Rows that were moved had the same accounts before. -/
theorem ReadUnder.of_moved {id : Int64} {delta : Int64 → Int} {rows rows' : List AccountRow}
    {a : Account} (h : ReadUnder id rows' a) (hmoved : Moved delta rows rows') :
    ReadUnder id rows a where
  id_eq := h.id_eq
  row := by
    obtain ⟨r', hr', hid, hcurrency⟩ := h.row
    obtain ⟨r, hr, hmove⟩ := hmoved.exists_of_mem hr'
    refine ⟨r, hr, hmove.id_eq.symm.trans hid, ?_⟩
    rw [← hmove.currency_eq]
    exact hcurrency
  readable := by
    obtain ⟨r', hr', hid, hread⟩ := h.readable
    obtain ⟨r, hr, hmove⟩ := hmoved.exists_of_mem hr'
    exact ⟨r, hr, hmove.id_eq.symm.trans hid, hmove.exists_read_iff.mp hread⟩

/-- Money was added to the balance of an account, which was then read. -/
structure BalanceAdded (id : Int64) (amount : Int) (a : Account) (db db' : Database) : Prop where
  account : ReadUnder id db.rows.accounts a
  accounts : Moved (movement id amount) db.rows.accounts db'.rows.accounts
  frame : db' = db.withRows { db.rows with accounts := db'.rows.accounts }

theorem balanceAdded_of_answers {id amount : Int64} {a : Account}
    (hids : (db.rows.accounts.map (·.id)).Nodup)
    (h : (addBalance id amount db).Answers a db') :
    BalanceAdded id amount.toInt a db db' := by
  obtain ⟨-, row, balance, hrow, hbalance, hread, rfl⟩ := answers_addBalance_iff.mp h
  obtain ⟨hmem, rfl⟩ := Rows.account?_eq_some hrow
  obtain ⟨hcurrency, -, ha⟩ := AccountRow.read_eq_ok_iff.mp hread
  have hid : a.id = row.id := congrArg Account.id ha
  have hreadable := (row.exists_read_withBalance balance).mp ⟨a, hread⟩
  exact ⟨⟨hid, ⟨row, hmem, rfl, hcurrency⟩, row, hmem, rfl, hreadable⟩,
    moved_replaceAccount hids hmem hbalance, rfl⟩

/-- Two additions to different balances, the second after the first. -/
theorem BalanceAdded.trans {id₁ id₂ : Int64} {amount₁ amount₂ : Int} {a₁ a₂ : Account}
    {db₁ : Database} (h₁ : BalanceAdded id₁ amount₁ a₁ db db₁)
    (h₂ : BalanceAdded id₂ amount₂ a₂ db₁ db') :
    Moved (fun id => movement id₁ amount₁ id + movement id₂ amount₂ id) db.rows.accounts
        db'.rows.accounts ∧
      ReadUnder id₂ db.rows.accounts a₂ ∧
      db' = db.withRows { db.rows with accounts := db'.rows.accounts } := by
  refine ⟨h₁.accounts.trans h₂.accounts, h₂.account.of_moved h₁.accounts, ?_⟩
  rw [h₂.frame, h₁.frame]
  rfl

/-- Whichever balance is changed first, both are. -/
theorem addMoney_added {clock : Nat → Instant} {id₁ id₂ amount₁ amount₂ : Int64}
    {accounts : Account × Account} (hids : (db.rows.accounts.map (·.id)).Nodup)
    (h : (addMoney id₁ amount₁ id₂ amount₂).submitEach clock db =
      { outcome := .ok accounts, db := db' }) :
    Moved (fun id => movement id₁ amount₁.toInt id + movement id₂ amount₂.toInt id)
        db.rows.accounts db'.rows.accounts ∧
      ReadUnder id₁ db.rows.accounts accounts.1 ∧ ReadUnder id₂ db.rows.accounts accounts.2 ∧
      db' = db.withRows { db.rows with accounts := db'.rows.accounts } := by
  unfold addMoney at h
  -- the balance of the account with the smaller id is changed first
  split at h
  · rw [Work.submitEach_query_bind] at h
    obtain ⟨a₁, db₁, hfirst, h⟩ := h
    obtain ⟨-, hfirst⟩ := submit_ok_iff.mp hfirst
    have hadded₁ := balanceAdded_of_answers hids hfirst
    rw [Work.submitEach_query_bind] at h
    obtain ⟨a₂, db₂, hsecond, h⟩ := h
    obtain ⟨-, hsecond⟩ := submit_ok_iff.mp hsecond
    cases h
    have hadded₂ := balanceAdded_of_answers (hadded₁.accounts.ids ▸ hids) hsecond
    obtain ⟨hmoved, hsecondAccount, hframe⟩ := hadded₁.trans hadded₂
    exact ⟨hmoved, hadded₁.account, hsecondAccount, hframe⟩
  · rw [Work.submitEach_query_bind] at h
    obtain ⟨a₂, db₁, hfirst, h⟩ := h
    obtain ⟨-, hfirst⟩ := submit_ok_iff.mp hfirst
    have hadded₂ := balanceAdded_of_answers hids hfirst
    rw [Work.submitEach_query_bind] at h
    obtain ⟨a₁, db₂, hsecond, h⟩ := h
    obtain ⟨-, hsecond⟩ := submit_ok_iff.mp hsecond
    cases h
    have hadded₁ := balanceAdded_of_answers (hadded₂.accounts.ids ▸ hids) hsecond
    obtain ⟨hmoved, hsecondAccount, hframe⟩ := hadded₂.trans hadded₁
    refine ⟨?_, hsecondAccount, hadded₂.account, hframe⟩
    have hcomm : (fun id => movement id₁ amount₁.toInt id + movement id₂ amount₂.toInt id) =
        fun id => movement id₂ amount₂.toInt id + movement id₁ amount₁.toInt id := by
      funext id
      exact Int.add_comm _ _
    rw [hcomm]
    exact hmoved

/-! ### Adjusting -/

theorem adjustWork_made {clock : Nat → Instant} {id amount : Int64} {receipt : AdjustmentReceipt}
    (hids : (db.rows.accounts.map (·.id)).Nodup)
    (h : (adjustWork id amount).submitEach clock db = { outcome := .ok receipt, db := db' }) :
    ∃ entry : EntryRow, entry.accountId = id ∧ entry.amount = amount ∧
      AdjustmentMade entry db db' ∧ ReadUnder id db.rows.accounts receipt.account := by
  unfold adjustWork at h
  rw [Work.submitEach_query_bind] at h
  obtain ⟨account, db₁, hfind, h⟩ := h
  obtain ⟨-, hfind⟩ := submit_ok_iff.mp hfind
  obtain ⟨-, row, -, -, rfl⟩ := answers_findAccount_iff.mp hfind
  rw [Work.submitEach_query_bind] at h
  obtain ⟨e, db₂, hentry, h⟩ := h
  obtain ⟨-, hentry⟩ := submit_ok_iff.mp hentry
  obtain ⟨-, entryId, hentryId, hread, rfl⟩ := answers_createEntry_iff.mp hentry
  rw [Work.submitEach_query_bind] at h
  obtain ⟨a, db₃, hadd, h⟩ := h
  obtain ⟨-, hadd⟩ := submit_ok_iff.mp hadd
  cases h
  obtain ⟨haccount, hmoved, hframe⟩ := balanceAdded_of_answers (by exact hids) hadd
  obtain ⟨r, hr, hid, -⟩ := haccount.row
  refine ⟨.written (clock 1) entryId id amount, rfl, rfl, ?_, haccount⟩
  refine ⟨hentryId, ⟨e, hread⟩, ⟨r, hr, hid⟩, hmoved, ?_, ?_, ?_⟩ <;> rw [hframe] <;> rfl

/-! ### Transfers -/

theorem TransferRequest.validate_ok_iff {r : TransferRequest} {u : Unit} :
    r.validate = .ok u ↔ 0 < r.amount.toInt ∧ r.fromId ≠ r.toId := by
  unfold TransferRequest.validate
  by_cases hamount : 0 < r.amount.toInt
  · by_cases hids : r.fromId = r.toId
    · simp [ensure, hamount, hids, bind, Except.bind]
    · simp [ensure, hamount, hids, bind, Except.bind]
  · simp [ensure, hamount, bind, Except.bind]

/-- A positive amount can be taken away as it can be given. -/
theorem toInt_neg_of_pos {amount : Int64} (h : 0 < amount.toInt) :
    (-amount).toInt = -amount.toInt := by
  -- only the least of all amounts has no opposite
  have hlt := amount.toInt_lt
  rw [Int64.toInt_neg]
  exact Int.bmod_eq_of_le (by omega) (by omega)

theorem transferWork_made {clock : Nat → Instant} {r : TransferRequest}
    {receipt : TransferReceipt} (hids : (db.rows.accounts.map (·.id)).Nodup)
    (h : (transferWork r).submitEach clock db = { outcome := .ok receipt, db := db' }) :
    ∃ (t : TransferRow) (debit credit : EntryRow),
      t.fromId = r.fromId ∧ t.toId = r.toId ∧ t.amount = r.amount ∧
        TransferMade t debit credit db db' ∧
        ReadUnder r.fromId db.rows.accounts receipt.fromAccount ∧
        ReadUnder r.toId db.rows.accounts receipt.toAccount := by
  unfold transferWork at h
  rw [Work.submitEach_check_bind] at h
  obtain ⟨_, hvalid, h⟩ := h
  obtain ⟨hamount, hdistinct⟩ := TransferRequest.validate_ok_iff.mp hvalid
  rw [Work.submitEach_query_bind] at h
  obtain ⟨transfer, db₁, htransfer, h⟩ := h
  obtain ⟨-, htransfer⟩ := submit_ok_iff.mp htransfer
  obtain ⟨-, transferId, htransferId, -, -, rfl⟩ := answers_createTransfer_iff.mp htransfer
  rw [Work.submitEach_query_bind] at h
  obtain ⟨fromEntry, db₂, hdebit, h⟩ := h
  obtain ⟨-, hdebit⟩ := submit_ok_iff.mp hdebit
  obtain ⟨-, debitId, hdebitId, hdebitRead, rfl⟩ := answers_createEntry_iff.mp hdebit
  rw [Work.submitEach_query_bind] at h
  obtain ⟨toEntry, db₃, hcredit, h⟩ := h
  obtain ⟨-, hcredit⟩ := submit_ok_iff.mp hcredit
  obtain ⟨-, creditId, hcreditId, hcreditRead, rfl⟩ := answers_createEntry_iff.mp hcredit
  -- the three rows are stored; what is left are the balances
  obtain ⟨accounts, db₄, k, hadd, h⟩ := Work.submitEach_bind h
  cases h
  obtain ⟨hmoved, hsource, htarget, hframe⟩ := addMoney_added (by exact hids) hadd
  rw [toInt_neg_of_pos hamount] at hmoved
  refine ⟨.written (clock 0) transferId r, .written (clock 1) debitId r.fromId (-r.amount),
    .written (clock 2) creditId r.toId r.amount, rfl, rfl, rfl, ?_, hsource, htarget⟩
  obtain ⟨source, hsourceMem, hsourceId, -⟩ := hsource.row
  obtain ⟨target, htargetMem, htargetId, -⟩ := htarget.row
  constructor
  case amount => exact hamount
  case distinct => exact hdistinct
  case id => exact htransferId
  case debit_id => exact hdebitId
  case debit_account => rfl
  case debit_amount => exact toInt_neg_of_pos hamount
  case debit_readable => exact ⟨fromEntry, hdebitRead⟩
  case credit_id =>
    have hnext : creditId.toInt = (db.sequences.entry + 1 : Nat) + 1 := hcreditId
    show creditId.toInt = db.sequences.entry + 2
    omega
  case credit_account => rfl
  case credit_amount => rfl
  case credit_readable => exact ⟨toEntry, hcreditRead⟩
  case source => exact ⟨source, hsourceMem, hsourceId⟩
  case target => exact ⟨target, htargetMem, htargetId⟩
  case accounts => exact hmoved
  case entries =>
    rw [hframe]
    show (db.rows.entries ++ [_]) ++ [_] = db.rows.entries ++ [_, _]
    rw [List.append_assoc]
    rfl
  case transfers =>
    rw [hframe]
    rfl
  case entry_sequence =>
    rw [hframe]
    rfl
  case transfer_sequence =>
    rw [hframe]
    rfl

end DoubleEntry.Ledger
