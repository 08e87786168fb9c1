/-
DoubleEntry/Proofs/Ledger/Traceable.lean

What was posted can be traced to its accounts.  Every entry is against an
account that is there and can be read, and each account that a transfer
touches has an entry (`Rows.Traceable`).  So the account of an entry or a
transfer can be looked up whenever the entry or the transfer can
(`Database.InOrder.getAccount`).

Nothing is assumed of the clock.  An account that is opened at an odd instant
is stored though it cannot be read back.  It never gets an entry, since an
adjustment or a transfer reads every account that it changes, and is undone
where it cannot.
-/
import DoubleEntry.Proofs.Ledger.References
import DoubleEntry.Proofs.Ledger.Steps

namespace DoubleEntry

variable {α : Type} {db db' : Database} {id : Int64} {env : Surroundings}

/-! ### Rows -/

/-- An account is there under the id and can be read. -/
def Rows.ReadsAccount (rows : Rows) (id : Int64) : Prop :=
  ∃ r ∈ rows.accounts, r.id = id ∧ ∃ a, r.read = .ok a

/-- Every entry is against an account that can be read, and a transfer touches
accounts that have entries. -/
structure Rows.Traceable (rows : Rows) : Prop where
  entries : ∀ e ∈ rows.entries, rows.ReadsAccount e.accountId
  transfers : ∀ t ∈ rows.transfers, ∀ id, t.request.Touches id →
    ∃ e ∈ rows.entries, e.accountId = id

namespace Rows

variable {rows rows' : Rows}

/-- A movement of money makes no account unreadable. -/
theorem ReadsAccount.moved {delta : Int64 → Int} (h : rows.ReadsAccount id)
    (hmoved : Moved delta rows.accounts rows'.accounts) : rows'.ReadsAccount id := by
  obtain ⟨r, hr, hid, hread⟩ := h
  obtain ⟨r', hr', hmove⟩ := hmoved.exists_moved hr
  exact ⟨r', hr', hmove.id_eq.trans hid, hmove.exists_read_iff.mpr hread⟩

theorem ReadsAccount.same (h : rows.ReadsAccount id) (hsame : rows.SameLedger rows') :
    rows'.ReadsAccount id := by
  unfold ReadsAccount
  rw [hsame.accounts]
  exact h

namespace Traceable

/-- The accounts of a transfer can be read, since each has an entry. -/
theorem readsAccount (h : rows.Traceable) {t : TransferRow} (ht : t ∈ rows.transfers)
    (htouches : t.request.Touches id) : rows.ReadsAccount id := by
  obtain ⟨e, he, rfl⟩ := h.transfers t ht id htouches
  exact h.entries e he

theorem same (h : rows.Traceable) (hsame : rows.SameLedger rows') : rows'.Traceable where
  entries := by
    rw [hsame.entries]
    exact fun e he => (h.entries e he).same hsame
  transfers := by
    rw [hsame.transfers, hsame.entries]
    exact h.transfers

/-- A new account takes nothing from the others. -/
theorem opened (h : db.rows.Traceable) (row : AccountRow) : (db.addAccount row).rows.Traceable where
  entries e he := by
    obtain ⟨r, hr, hid, hread⟩ := h.entries e he
    exact ⟨r, List.mem_append_left _ hr, hid, hread⟩
  transfers := h.transfers

end Traceable

end Rows

/-- A query for a new account adds its row, read back or not, or changes no
rows. -/
theorem CameOut.traceable_createAccount {owner : String} {balance : Int64} {currency : Currency}
    {outcome : Outcome Account}
    (h : CameOut outcome (Change db (.createAccount owner balance currency)) db db')
    (hdb : db.rows.Traceable) : db'.rows.Traceable := by
  rcases h with ⟨-, hchange⟩ | ⟨-, s, -, rfl⟩
  · cases hchange with
    | createAccount now id => exact hdb.opened _
    | lookUp q only => cases only
  · exact hdb

namespace Ledger

open Rows

/-! ### Units of work -/

theorem AccountClosed.traceable (made : AccountClosed id db db') (h : db.rows.Traceable) :
    db'.rows.Traceable where
  entries := by
    rw [made.entries]
    intro e he
    obtain ⟨r, hr, hid, hread⟩ := h.entries e he
    -- the account that is gone had no entries
    have hother : r.id ≠ id := hid ▸ made.unused e he
    refine ⟨r, ?_, hid, hread⟩
    rw [made.accounts]
    exact List.mem_filter.mpr ⟨hr, decide_eq_true hother⟩
  transfers := by
    rw [made.transfers, made.entries]
    exact h.transfers

theorem AdjustmentMade.traceable {entry : EntryRow} (made : AdjustmentMade entry db db')
    (hread : db.rows.ReadsAccount entry.accountId) (h : db.rows.Traceable) :
    db'.rows.Traceable where
  entries := by
    rw [made.entries]
    intro e he
    rcases List.mem_append.mp he with he | he
    · exact (h.entries e he).moved made.accounts
    · rw [List.mem_singleton.mp he]
      exact hread.moved made.accounts
  transfers := by
    rw [made.transfers, made.entries]
    intro t ht id htouches
    obtain ⟨e, he, hid⟩ := h.transfers t ht id htouches
    exact ⟨e, List.mem_append_left _ he, hid⟩

theorem TransferMade.traceable {t : TransferRow} {debit credit : EntryRow}
    (made : TransferMade t debit credit db db') (hsource : db.rows.ReadsAccount t.fromId)
    (htarget : db.rows.ReadsAccount t.toId) (h : db.rows.Traceable) : db'.rows.Traceable where
  entries := by
    rw [made.entries]
    intro e he
    rcases List.mem_append.mp he with he | he
    · exact (h.entries e he).moved made.accounts
    · rcases List.mem_pair.mp he with rfl | rfl
      · rw [made.debit_account]
        exact hsource.moved made.accounts
      · rw [made.credit_account]
        exact htarget.moved made.accounts
  transfers := by
    rw [made.transfers, made.entries]
    intro t' ht' id htouches
    rcases List.mem_append.mp ht' with ht' | ht'
    · obtain ⟨e, he, hid⟩ := h.transfers t' ht' id htouches
      exact ⟨e, List.mem_append_left _ he, hid⟩
    · -- the new transfer comes with an entry for each side
      obtain rfl := List.mem_singleton.mp ht'
      rcases htouches with hfrom | hto
      · refine ⟨debit, List.mem_append_right _ List.mem_cons_self, ?_⟩
        exact made.debit_account.trans hfrom
      · refine ⟨credit, List.mem_append_right _ (List.mem_cons_of_mem _ List.mem_cons_self), ?_⟩
        exact made.credit_account.trans hto

/-- Only a unit that answers changes the rows. -/
theorem traceable_execute {token : CancelToken} {w : Work α} (h : db.rows.Traceable)
    (hkept : ∀ v db', w.submitEach env.clock db = { outcome := .ok v, db := db' } →
      db'.rows.Traceable) : (w.execute env token db).db.rows.Traceable := by
  by_cases hok : ∃ v, (w.execute env token db).outcome = .ok v
  · obtain ⟨v, hv⟩ := hok
    exact hkept v _ (Work.execute_kept hv)
  · obtain ⟨s, -, hdb⟩ := Work.execute_undone fun v hv => hok ⟨v, hv⟩
    rw [hdb]
    exact h

theorem traceable_transfer {token : CancelToken} {r : TransferRequest} {w : Work TransferReceipt}
    (hw : ∀ clock db, w.submitEach clock db = (transferWork r).submitEach clock db)
    (hids : (db.rows.accounts.map (·.id)).Nodup) (h : db.rows.Traceable) :
    (w.execute env token db).db.rows.Traceable := by
  apply traceable_execute h
  intro receipt db' hmade
  rw [hw] at hmade
  obtain ⟨t, debit, credit, hfrom, hto, -, made, hsource, htarget⟩ :=
    transferWork_made hids hmade
  exact made.traceable (hfrom ▸ hsource.readable) (hto ▸ htarget.readable) h

/-! ### Operations -/

/-- **Every operation keeps what was posted traceable.** -/
theorem Operation.traceable (env : Surroundings) (op : Operation)
    (hids : (db.rows.accounts.map (·.id)).Nodup) (h : db.rows.Traceable) :
    (op.perform env db).db.rows.Traceable := by
  cases op with
  | openAccount owner balance currency =>
      show (Ledger.openAccount env owner balance currency db).db.rows.Traceable
      unfold Ledger.openAccount
      rcases checkOpening owner currency with e | ⟨owner', c⟩
      · exact h
      exact (perform_cameOut (env.clock 0) (.createAccount owner' balance c) db).traceable_createAccount h
  | closeAccount id =>
      exact traceable_execute h fun v db' hclosed => (closeWork_closed hclosed).traceable h
  | adjustBalance id amount =>
      show (Ledger.adjustBalance env id amount db).db.rows.Traceable
      unfold Ledger.adjustBalance
      rcases ensure (amount ≠ 0) .zeroAdjustment with e | u
      · exact h
      apply traceable_execute h
      intro receipt db' hmade
      obtain ⟨entry, rfl, -, made, haccount⟩ := adjustWork_made hids hmade
      exact made.traceable haccount.readable h
  | transferFunds request => exact traceable_transfer (fun _ _ => rfl) hids h
  | transferFundsWith token cancelled request =>
      cases cancelled with
      | none => exact traceable_transfer (fun _ _ => rfl) hids h
      | some n => exact traceable_transfer (Work.submitEach_cancelAfter n _) hids h
  | getAccount | listAccounts | getTransfer | listTransfers | getEntry | listEntries | createUser
  | getUser | requestVerification | getVerification | verifyEmail | status =>
      exact h.same (Operation.sameLedger rfl env db)

end Ledger

/-! ### Ledgers in order -/

/-- The tables are there, their rows have their keys, and what was posted can
be traced. -/
structure Database.InOrder (db : Database) : Prop where
  migrated : db.Migrated
  keyed : db.Keyed
  traceable : db.rows.Traceable

namespace Database

/-- A new ledger is in order. -/
theorem inOrder_migrate_empty : ({} : Database).migrate.2.InOrder where
  migrated := migrated_migrate (.inl rfl)
  keyed := .empty _
  traceable := ⟨fun e he => (by cases he), fun t ht => (by cases ht)⟩

namespace InOrder

theorem migrate (h : db.InOrder) : db.migrate.2.InOrder where
  migrated := migrated_migrate (.inr h.migrated)
  keyed := h.keyed.of_rows rfl (Sequences.le_refl _)
  traceable := h.traceable

/-- It stays in order, whatever is done with it. -/
theorem perform (h : db.InOrder) (env : Surroundings) (op : Ledger.Operation) :
    (op.perform env db).db.InOrder where
  migrated := by
    have hstep : Ledger.Step.operation env op ≠ .migrate := nofun
    exact (run_catalog hstep db).trans h.migrated
  keyed := ((Ledger.Step.operation env op).grown h.keyed).keyed
  traceable := op.traceable env (h.keyed.ids .account).nodup h.traceable

theorem performed (h : db.InOrder) (op : Ledger.Operation) {outcome : Outcome op.Answer}
    (hran : op.perform env db = { outcome, db := db' }) : db'.InOrder := by
  have hafter := h.perform env op
  rw [hran] at hafter
  exact hafter

/-- An account that can be read is found. -/
theorem getAccount (h : db.InOrder) (hid : db.rows.ReadsAccount id) (env : Surroundings) :
    ∃ a, Ledger.getAccount env id db = { outcome := .ok a, db } := by
  obtain ⟨r, hr, hid, a, ha⟩ := hid
  have hsome : (db.rows.account? id).isSome = true := by
    apply List.find?_isSome.mpr
    exact ⟨r, hr, decide_eq_true hid⟩
  obtain ⟨row, hrow⟩ := Option.isSome_iff_exists.mp hsome
  obtain ⟨hmem, hrowId⟩ := Rows.account?_eq_some hrow
  -- ids differ, so it is the row that is looked up
  obtain rfl := h.keyed.account_eq hmem hr (hrowId.trans hid.symm)
  have htable : db.catalog.hasTable Migration.accountTable.name = true := by
    rw [h.migrated]
    exact fresh_hasTable.1
  refine ⟨a, submit_ok_iff.mpr ⟨rfl, ?_⟩⟩
  exact answers_findAccount_iff.mpr ⟨htable, row, hrow, ha, rfl⟩

/-- The source of a transfer that is looked up can be read. -/
theorem readsAccount_of_getTransfer (h : db.InOrder) {t : Transfer}
    (hok : Ledger.getTransfer env id db = { outcome := .ok t, db := db' }) :
    db'.rows.ReadsAccount t.fromId := by
  obtain ⟨-, hfound⟩ := submit_ok_iff.mp hok
  obtain ⟨-, row, hrow, hread, rfl⟩ := answers_findTransfer_iff.mp hfound
  rw [TransferRow.fromId_of_read hread]
  exact h.traceable.readsAccount (List.mem_of_find?_eq_some hrow) (.inl rfl)

/-- So can the account of an entry. -/
theorem readsAccount_of_getEntry (h : db.InOrder) {e : Entry}
    (hok : Ledger.getEntry env id db = { outcome := .ok e, db := db' }) :
    db'.rows.ReadsAccount e.accountId := by
  obtain ⟨-, hfound⟩ := submit_ok_iff.mp hok
  obtain ⟨-, row, hrow, hread, rfl⟩ := answers_findEntry_iff.mp hfound
  rw [EntryRow.accountId_of_read hread]
  exact h.traceable.entries row (List.mem_of_find?_eq_some hrow)

end InOrder

end Database

/-- A page of rows is only given for an account that can be read. -/
theorem Ledger.readsAccount_of_pageWork {clock : Nat → Instant} {accountId : Int64} {page : Page}
    {q : Query} (hq : q.movesMoney = false) {v : q.Answer}
    (hok : (pageWork accountId page q).submitEach clock db = { outcome := .ok v, db := db' }) :
    db'.rows.ReadsAccount accountId := by
  have hsame : db.rows.SameLedger ((pageWork accountId page q).submitEach clock db).db.rows :=
    Work.submitEach_sameLedger (pageWork_issues rfl hq) clock db
  rw [hok] at hsame
  unfold pageWork at hok
  rw [Work.submitEach_check_bind] at hok
  obtain ⟨_, -, hok⟩ := hok
  rw [Work.submitEach_query_bind] at hok
  obtain ⟨a, db₁, hfind, -⟩ := hok
  obtain ⟨-, hfind⟩ := submit_ok_iff.mp hfind
  obtain ⟨-, row, hrow, hread, -⟩ := answers_findAccount_iff.mp hfind
  obtain ⟨hmem, hid⟩ := Rows.account?_eq_some hrow
  exact Rows.ReadsAccount.same ⟨row, hmem, hid, a, hread⟩ hsame

end DoubleEntry
