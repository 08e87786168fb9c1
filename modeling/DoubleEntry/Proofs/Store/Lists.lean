/-
DoubleEntry/Proofs/Store/Lists.lean

What is looked up and what is listed.  Where the keys are in order, a record is
found under its key exactly if it is read from a row of the table
(`Database.Keyed.findAccount_iff` and its likes).  A list is answered with what
is read from a page of the rows that it is about (`Rows.accountsOf` and its
likes); which ones these are, the records tell
(`Rows.exists_read_accountsOf_iff` and its likes).  Any page can be read if all
rows of the table can (`Rows.Readable`).  At regular instants no other rows are
ever written (`readable_perform`).
-/
import DoubleEntry.Proofs.Store.Preserved

namespace DoubleEntry

open Performed

variable {db db' : Database} {rows : Rows} {page : Page}

/-! ### Single records -/

/-- A record is found under its key exactly if a row of the table has it. -/
theorem exists_found_iff {ρ κ α ε : Type} [DecidableEq κ] {rs : List ρ} {key : ρ → κ}
    {read : ρ → Except ε α} {k : κ} {a : α} {P : Prop} (h : (rs.map key).Nodup) :
    (∃ r, rs.find? (fun x => key x = k) = some r ∧ read r = .ok a ∧ P) ↔
      (∃ r ∈ rs, key r = k ∧ read r = .ok a) ∧ P := by
  constructor
  · rintro ⟨r, hfound, hread, hp⟩
    obtain ⟨hr, hkey⟩ := (find?_key_eq_some_iff h).mp hfound
    exact ⟨⟨r, hr, hkey, hread⟩, hp⟩
  · rintro ⟨⟨r, hr, hkey, hread⟩, hp⟩
    exact ⟨r, (find?_key_eq_some_iff h).mpr ⟨hr, hkey⟩, hread, hp⟩

namespace Database.Keyed

variable {id : Int64}

theorem findAccount_iff (h : db.Keyed) {a : Account} :
    (findAccount id db).Answers a db' ↔
      db.catalog.hasTable Migration.accountTable.name = true ∧
        (∃ r ∈ db.rows.accounts, r.id = id ∧ r.read = .ok a) ∧ db' = db := by
  rw [answers_findAccount_iff]
  exact and_congr_right fun _ => exists_found_iff (h.ids .account).nodup

theorem findEntry_iff (h : db.Keyed) {e : Entry} :
    (findEntry id db).Answers e db' ↔
      db.catalog.hasTable Migration.entryTable.name = true ∧
        (∃ r ∈ db.rows.entries, r.id = id ∧ r.read = .ok e) ∧ db' = db := by
  rw [answers_findEntry_iff]
  exact and_congr_right fun _ => exists_found_iff (h.ids .entry).nodup

theorem findTransfer_iff (h : db.Keyed) {t : Transfer} :
    (findTransfer id db).Answers t db' ↔
      db.catalog.hasTable Migration.transferTable.name = true ∧
        (∃ r ∈ db.rows.transfers, r.id = id ∧ r.read = .ok t) ∧ db' = db := by
  rw [answers_findTransfer_iff]
  exact and_congr_right fun _ => exists_found_iff (h.ids .transfer).nodup

theorem findUser_iff (h : db.Keyed) {username : String} {u : User} :
    (findUser username db).Answers u db' ↔
      db.catalog.hasTable Migration.userTable.name = true ∧
        (∃ r ∈ db.rows.users, r.username = username ∧ r.read = .ok u) ∧ db' = db := by
  rw [answers_findUser_iff]
  exact and_congr_right fun _ => exists_found_iff h.usernames

theorem findVerification_iff (h : db.Keyed) {v : Verification} :
    (findVerification id db).Answers v db' ↔
      db.catalog.hasTable Migration.verificationTable.name = true ∧
        (∃ r ∈ db.rows.verifications, r.id = id ∧ r.read = .ok v) ∧ db' = db := by
  rw [answers_findVerification_iff]
  exact and_congr_right fun _ => exists_found_iff (h.ids .verification).nodup

end Database.Keyed

/-! ### Pages -/

/-- A page of what is read is what is read from the page. -/
theorem mapM_select {ρ α ε : Type} {read : ρ → Except ε α} {rs : List ρ} {as : List α}
    (h : rs.mapM read = .ok as) (page : Page) :
    (page.select rs).mapM read = .ok (page.select as) :=
  mapM_take (mapM_drop h _) _

theorem Page.select_sublist {α : Type} (page : Page) (as : List α) :
    (page.select as).Sublist as :=
  (List.take_sublist _ _).trans (List.drop_sublist _ _)

/-! ### What the lists are about -/

/-- The rows of accounts, all or those of one owner. -/
def Rows.accountsOf (rows : Rows) (owner : Option String) : List AccountRow :=
  match owner with
  | some o => rows.accounts.filter fun r => r.owner = o
  | none => rows.accounts

/-- The rows of the entries of an account. -/
def Rows.entriesOf (rows : Rows) (accountId : Int64) : List EntryRow :=
  rows.entries.filter fun r => r.accountId = accountId

/-- The rows of the transfers into or out of an account. -/
def Rows.transfersOf (rows : Rows) (accountId : Int64) : List TransferRow :=
  rows.transfers.filter fun r => r.fromId = accountId || r.toId = accountId

theorem Rows.accountsOf_sublist (rows : Rows) (owner : Option String) :
    (rows.accountsOf owner).Sublist rows.accounts := by
  cases owner with
  | none => exact .refl _
  | some o => exact List.filter_sublist

theorem Rows.mem_accountsOf_iff {owner : Option String} {r : AccountRow} :
    r ∈ rows.accountsOf owner ↔ r ∈ rows.accounts ∧ ∀ o, owner = some o → r.owner = o := by
  cases owner with
  | none => simp only [accountsOf, reduceCtorEq, false_implies, implies_true, and_true]
  | some o =>
      simp only [accountsOf, List.mem_filter, decide_eq_true_eq, Option.some.injEq, forall_eq']

theorem Rows.mem_entriesOf_iff {accountId : Int64} {r : EntryRow} :
    r ∈ rows.entriesOf accountId ↔ r ∈ rows.entries ∧ r.accountId = accountId := by
  simp only [entriesOf, List.mem_filter, decide_eq_true_eq]

theorem Rows.mem_transfersOf_iff {accountId : Int64} {r : TransferRow} :
    r ∈ rows.transfersOf accountId ↔
      r ∈ rows.transfers ∧ (r.fromId = accountId ∨ r.toId = accountId) := by
  simp only [transfersOf, List.mem_filter, Bool.or_eq_true, decide_eq_true_eq]

/-- Where what is read from a row tells whether the row is listed, the records
of the listed rows are told by themselves. -/
theorem exists_read_iff_of_mem_iff {ρ α ε : Type} {read : ρ → Except ε α} {rs table : List ρ}
    {B : ρ → Prop} {P : Prop} {a : α} (hmem : ∀ {r}, r ∈ rs ↔ r ∈ table ∧ B r)
    (hread : ∀ {r}, read r = .ok a → (B r ↔ P)) :
    (∃ r ∈ rs, read r = .ok a) ↔ (∃ r ∈ table, read r = .ok a) ∧ P := by
  constructor
  · rintro ⟨r, hr, ha⟩
    obtain ⟨hr, hb⟩ := hmem.mp hr
    exact ⟨⟨r, hr, ha⟩, (hread ha).mp hb⟩
  · rintro ⟨⟨r, hr, ha⟩, hp⟩
    exact ⟨r, hmem.mpr ⟨hr, (hread ha).mpr hp⟩, ha⟩

theorem Rows.exists_read_accountsOf_iff {owner : Option String} {a : Account} :
    (∃ r ∈ rows.accountsOf owner, r.read = .ok a) ↔
      (∃ r ∈ rows.accounts, r.read = .ok a) ∧ ∀ o, owner = some o → a.owner = o := by
  refine exists_read_iff_of_mem_iff mem_accountsOf_iff fun hread => ?_
  rw [AccountRow.owner_of_read hread]

theorem Rows.exists_read_entriesOf_iff {accountId : Int64} {e : Entry} :
    (∃ r ∈ rows.entriesOf accountId, r.read = .ok e) ↔
      (∃ r ∈ rows.entries, r.read = .ok e) ∧ e.accountId = accountId := by
  refine exists_read_iff_of_mem_iff mem_entriesOf_iff fun hread => ?_
  rw [EntryRow.accountId_of_read hread]

theorem Rows.exists_read_transfersOf_iff {accountId : Int64} {t : Transfer} :
    (∃ r ∈ rows.transfersOf accountId, r.read = .ok t) ↔
      (∃ r ∈ rows.transfers, r.read = .ok t) ∧ (t.fromId = accountId ∨ t.toId = accountId) := by
  refine exists_read_iff_of_mem_iff mem_transfersOf_iff fun hread => ?_
  rw [TransferRow.fromId_of_read hread, TransferRow.toId_of_read hread]

/-! ### When a list is answered -/

theorem answers_listAccounts_iff {owner : Option String} {as : List Account} :
    (listAccounts owner page db).Answers as db' ↔
      db.catalog.hasTable Migration.accountTable.name = true ∧
        0 ≤ page.limit.toInt ∧ 0 ≤ page.offset.toInt ∧
          (page.select (db.rows.accountsOf owner)).mapM AccountRow.read = .ok as ∧ db' = db := by
  unfold listAccounts Rows.accountsOf
  rw [answers_withTable_iff]
  exact and_congr_right fun _ => answers_readPage_iff

theorem answers_listTransfers_iff {accountId : Int64} {ts : List Transfer} :
    (listTransfers accountId page db).Answers ts db' ↔
      db.catalog.hasTable Migration.transferTable.name = true ∧
        0 ≤ page.limit.toInt ∧ 0 ≤ page.offset.toInt ∧
          (page.select (db.rows.transfersOf accountId)).mapM TransferRow.read = .ok ts ∧
          db' = db := by
  unfold listTransfers Rows.transfersOf
  rw [answers_withTable_iff, answers_readPage_iff]

/-! ### Rows that can be read -/

/-- Every entry can be read. -/
def Rows.EntriesReadable (rows : Rows) : Prop :=
  ∀ r ∈ rows.entries, ∃ e, r.read = .ok e

/-- Every transfer can be read. -/
def Rows.TransfersReadable (rows : Rows) : Prop :=
  ∀ r ∈ rows.transfers, ∃ t, r.read = .ok t

/-- All rows that are listed can be read. -/
structure Rows.Readable (rows : Rows) : Prop extends rows.Legible where
  entries : rows.EntriesReadable
  transfers : rows.TransfersReadable

theorem Rows.Readable.empty : ({} : Rows).Readable where
  accounts := List.forall_mem_nil _
  users := List.forall_mem_nil _
  verifications := List.forall_mem_nil _
  entries := List.forall_mem_nil _
  transfers := List.forall_mem_nil _

section

variable {now : Instant} {q : Query}

/-- Entries are written by one query only. -/
theorem Query.preserves_entriesReadable
    (hq : ¬ ∃ accountId amount, q = .createEntry accountId amount) :
    q.Preserves Rows.EntriesReadable := by
  intro db db' change hdb
  cases change with
  | createEntry => exact absurd ⟨_, _, rfl⟩ hq
  | _ => exact hdb

theorem entriesReadable_perform (hnow : now.IsRegular) (q : Query) (h : db.rows.EntriesReadable) :
    (q.perform now db).db.rows.EntriesReadable := by
  by_cases hq : ∃ accountId amount, q = .createEntry accountId amount
  · obtain ⟨accountId, amount, rfl⟩ := hq
    apply withTable_db (motive := fun d => d.rows.EntriesReadable) h
    apply withNextId_db (motive := fun d => d.rows.EntriesReadable) h
    intro id
    have hnew := EntryRow.read_written hnow id accountId amount
    exact List.forall_mem_append.mpr ⟨h, List.forall_mem_singleton.mpr ⟨_, hnew⟩⟩
  · exact (perform_cameOut now q db).preserves (Query.preserves_entriesReadable hq) h

/-- Transfers are written by one query only. -/
theorem Query.preserves_transfersReadable (hq : ¬ ∃ request, q = .createTransfer request) :
    q.Preserves Rows.TransfersReadable := by
  intro db db' change hdb
  cases change with
  | createTransfer => exact absurd ⟨_, rfl⟩ hq
  | _ => exact hdb

theorem transfersReadable_perform (hnow : now.IsRegular) (q : Query)
    (h : db.rows.TransfersReadable) : (q.perform now db).db.rows.TransfersReadable := by
  by_cases hq : ∃ request, q = .createTransfer request
  · obtain ⟨request, rfl⟩ := hq
    apply withTable_db (motive := fun d => d.rows.TransfersReadable) h
    apply withNextId_db (motive := fun d => d.rows.TransfersReadable) h
    intro id
    dsimp only
    split
    · have hnew := TransferRow.read_written hnow id request
      exact List.forall_mem_append.mpr ⟨h, List.forall_mem_singleton.mpr ⟨_, hnew⟩⟩
    · exact h
  · exact (perform_cameOut now q db).preserves (Query.preserves_transfersReadable hq) h

/-- At a regular instant every query writes rows that can be read. -/
theorem readable_perform (hnow : now.IsRegular) (q : Query) (h : db.rows.Readable) :
    (q.perform now db).db.rows.Readable where
  toLegible := legible_perform h.toLegible hnow q
  entries := entriesReadable_perform hnow q h.entries
  transfers := transfersReadable_perform hnow q h.transfers

end

end DoubleEntry
