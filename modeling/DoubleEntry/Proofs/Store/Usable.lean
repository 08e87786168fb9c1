/-
DoubleEntry/Proofs/Store/Usable.lean

Databases whose statements do what they are for.  `Database.Usable` says
that the tables of the ledger are there and that each account has an id of
its own and can be read; every database that a run of the ledger comes to is
usable (`WellKept.usable`).  On such a database a statement fails only for
the reason that is told: an account that is not there, or an id that is not
left.
-/
import DoubleEntry.Proofs.Store.Addition
import DoubleEntry.Proofs.Store.Kept

namespace DoubleEntry

/-! ### States and surroundings -/

/-- The tables of the ledger are there, its accounts have different ids, and
each of them can be read. -/
structure Database.Usable (db : Database) : Prop where
  accountTable : db.catalog.hasTable Migration.accountTable.name = true
  entryTable : db.catalog.hasTable Migration.entryTable.name = true
  transferTable : db.catalog.hasTable Migration.transferTable.name = true
  ids : (db.rows.accounts.map (·.id)).Nodup
  readable : db.rows.AccountsReadable

/-- A legible row can be read. -/
theorem AccountRow.IsLegible.exists_read {r : AccountRow} (h : r.IsLegible) :
    ∃ a, r.read = .ok a := by
  obtain ⟨c, t, hcurrency, hcreated⟩ := h
  have hcode : readCurrency r.currency = .ok c := by
    rw [hcurrency]
    exact readCurrency_code c
  let a : Account :=
    { id := r.id, owner := r.owner, balance := r.balance, currency := c, createdAt := t }
  exact ⟨a, read_eq_ok_iff.mpr ⟨hcode, hcreated, rfl⟩⟩

/-- A database that a run of the ledger has come to is usable. -/
theorem Database.WellKept.usable {db : Database} (h : db.WellKept) : db.Usable := by
  obtain ⟨haccounts, hentries, htransfers⟩ := Database.fresh_hasTable
  rw [← h.catalog] at haccounts hentries htransfers
  exact ⟨haccounts, hentries, htransfers, h.accounts.nodup,
    fun r hr => (h.legible r hr).exists_read⟩

/-- Nothing is made to fail, and the clock shows instants whose stored text
can be read back. -/
structure Surroundings.Orderly (env : Surroundings) : Prop where
  failOn : env.failOn = none
  clock : ∀ n, (env.clock n).IsRegular

/-! ### Statements -/

section Statements

open Performed

variable {db : Database} {now : Instant} {r : TransferRequest} {id : Int64}

/-- A new transfer of a positive amount is stored. -/
theorem submit_createTransfer {now : Instant} (h : now.IsRegular)
    (htable : db.catalog.hasTable Migration.transferTable.name = true)
    (hlast : db.sequences.transfer < 9223372036854775807) (hpos : 0 < r.amount.toInt) :
    ∃ id t, (TransferRow.written now id r).read = .ok t ∧
      submit now (.createTransfer r) db =
        { outcome := .ok t, db := db.addTransfer (.written now id r) } := by
  obtain ⟨id, hid⟩ := exists_nextId hlast
  have hread := TransferRow.read_written h id r
  refine ⟨id, _, hread, submit_ok_iff.mpr ⟨rfl, answers_createTransfer_iff.mpr ?_⟩⟩
  exact ⟨htable, id, Text.toInt_of_toInt64? hid, hpos, hread, rfl⟩

/-- A new entry is stored. -/
theorem submit_createEntry {now : Instant} (h : now.IsRegular)
    (htable : db.catalog.hasTable Migration.entryTable.name = true)
    (hlast : db.sequences.entry < 9223372036854775807) (accountId amount : Int64) :
    ∃ id e, (EntryRow.written now id accountId amount).read = .ok e ∧
      submit now (.createEntry accountId amount) db =
        { outcome := .ok e, db := db.addEntry (.written now id accountId amount) } := by
  obtain ⟨id, hid⟩ := exists_nextId hlast
  have hread := EntryRow.read_written h id accountId amount
  refine ⟨id, _, hread, submit_ok_iff.mpr ⟨rfl, answers_createEntry_iff.mpr ?_⟩⟩
  exact ⟨htable, id, Text.toInt_of_toInt64? hid, hread, rfl⟩

variable (haccounts : db.catalog.hasTable Migration.accountTable.name = true)
  (hentries : db.catalog.hasTable Migration.entryTable.name = true)

include haccounts in
/-- An account that is not there is not found. -/
theorem submit_accountForUpdate_of_none (h : db.rows.account? id = none) :
    submit now (.accountForUpdate id) db = { outcome := .error (.notFound (.account id)), db } := by
  have hperform : findAccount id db = missing (.account id) db := by
    rw [findAccount, h]
    exact findRow_none haccounts _ _
  exact submit_of_perform (q := .accountForUpdate id) rfl hperform

include haccounts in
/-- One that is there is found. -/
theorem submit_accountForUpdate_of_some {row : AccountRow} {a : Account}
    (h : db.rows.account? id = some row) (hread : row.read = .ok a) :
    submit now (.accountForUpdate id) db = { outcome := .ok a, db } := by
  apply submit_ok_iff.mpr
  exact ⟨rfl, answers_findAccount_iff.mpr ⟨haccounts, row, h, hread, rfl⟩⟩

include hentries in
/-- The first entry of an account tells whether it has any. -/
theorem submit_firstEntry (hreadable : ∀ e ∈ db.rows.entries, ∃ v, e.read = .ok v) :
    ∃ es, submit now (.entries id { limit := 1, offset := 0 }) db = { outcome := .ok es, db } ∧
      es.isEmpty = (db.rows.entries.filter fun e => e.accountId = id).isEmpty := by
  have hpage : ∀ es, (Page.select { limit := 1, offset := 0 }
        (db.rows.entries.filter fun e => e.accountId = id)).mapM EntryRow.read = .ok es →
      submit now (.entries id { limit := 1, offset := 0 }) db = { outcome := .ok es, db } := by
    intro es hes
    apply submit_ok_iff.mpr
    exact ⟨rfl, answers_listEntries_iff.mpr ⟨hentries, by decide, by decide, hes, rfl⟩⟩
  cases hmine : db.rows.entries.filter fun e => e.accountId = id with
  | nil =>
      refine ⟨[], hpage [] ?_, rfl⟩
      rw [hmine]
      rfl
  | cons e rest =>
      have hmem : e ∈ db.rows.entries.filter fun e => e.accountId = id := by
        rw [hmine]
        exact List.mem_cons_self
      obtain ⟨v, hv⟩ := hreadable e (List.mem_of_mem_filter hmem)
      refine ⟨[v], hpage [v] ?_, rfl⟩
      rw [hmine]
      show [e].mapM EntryRow.read = .ok [v]
      rw [List.mapM_cons, hv]
      rfl

include haccounts in
/-- An account that is there is removed. -/
theorem submit_deleteAccount {row : AccountRow} (h : db.rows.account? id = some row)
    (now : Instant) :
    submit now (.deleteAccount id) db =
      { outcome := .ok (), db := db.withRows (db.rows.removeAccount id) } := by
  apply submit_ok_iff.mpr
  exact ⟨rfl, answers_deleteAccount_iff.mpr ⟨haccounts, ⟨row, h⟩, rfl⟩⟩

end Statements

end DoubleEntry
