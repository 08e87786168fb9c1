/-
DoubleEntry/Proofs/Store/Records.lean

Records of all tables.  `Rows.Holds rows r` says that a row stands for the
record `r`; the queries are described by the records that they store, change
and show, whatever the table:

* a record that was stored is held, and has what the query was given
  (`Rows.holds_of_stored`, `Query.gives_of_answers`);
* it is held until a query takes effect that changes the row with its key
  (`Query.preserves_holds`);
* a record that is shown is held, and no two that are held share a key
  (`Rows.holds_of_shown`, `Database.Keyed.eq_of_holds`);
* a record that is held is found under its key, and on each first page that is
  about it and not full (`Database.Keyed.get_iff`, `Rows.Holds.shown`).
-/
import DoubleEntry.Proofs.Store.Lists

namespace DoubleEntry

open Performed

variable {now : Instant} {db db' : Database} {rows : Rows} {q : Query}

/-! ### Records and keys -/

/-- What a record is found under. -/
inductive Key where
  | account (id : Int64)
  | entry (id : Int64)
  | transfer (id : Int64)
  | user (username : String)
  | verification (id : Int64)
  deriving DecidableEq

/-- A record of one of the tables. -/
inductive Record where
  | account (account : Account)
  | entry (entry : Entry)
  | transfer (transfer : Transfer)
  | user (user : User)
  | verification (verification : Verification)
  deriving DecidableEq

namespace Key

/-- The table of the record. -/
def table : Key → Table
  | account _ => Migration.accountTable
  | entry _ => Migration.entryTable
  | transfer _ => Migration.transferTable
  | user _ => Migration.userTable
  | verification _ => Migration.verificationTable

/-- The query that looks the record up. -/
def get : Key → Query
  | account id => .account id
  | entry id => .entry id
  | transfer id => .transfer id
  | user username => .user username
  | verification id => .verification id

theorem get_possible (k : Key) (now : Instant) : k.get.isImpossible now = false := by
  cases k <;> rfl

theorem fresh_hasTable (k : Key) : Database.fresh.catalog.hasTable k.table.name = true := by
  have hall : ∀ t ∈ [Migration.accountTable, Migration.entryTable, Migration.transferTable,
      Migration.userTable, Migration.verificationTable],
      Database.fresh.catalog.hasTable t.name = true := by
    decide +kernel
  refine hall _ ?_
  cases k <;> simp only [table, List.mem_cons, true_or, or_true]

end Key

namespace Record

def key : Record → Key
  | account a => .account a.id
  | entry e => .entry e.id
  | transfer t => .transfer t.id
  | user u => .user u.username
  | verification v => .verification v.id

/-- The record as it is answered under its key. -/
def answer : (r : Record) → r.key.get.Answer
  | account a => a
  | entry e => e
  | transfer t => t
  | user u => u
  | verification v => v

end Record

namespace Query

/-- The record that a query has stored. -/
def stored? : (q : Query) → q.Answer → Option Record
  | createAccount .., a => some (.account a)
  | createEntry .., e => some (.entry e)
  | createTransfer .., t => some (.transfer t)
  | createUser .., u => some (.user u)
  | createVerification .., v => some (.verification v)
  | _, _ => none

/-- The record that a query changes or removes. -/
def changed? : Query → Option Key
  | addBalance id _ | deleteAccount id => some (.account id)
  | updateUser username .. => some (.user username)
  | updateVerification id _ => some (.verification id)
  | _ => none

/-- The records that a query shows, one or a list of them. -/
def shown : (q : Query) → q.Answer → List Record
  | account _, a | accountForUpdate _, a => [.account a]
  | accounts .., as => as.map .account
  | entry _, e => [.entry e]
  | entries .., es => es.map .entry
  | transfer _, t => [.transfer t]
  | transfers .., ts => ts.map .transfer
  | user _, u => [.user u]
  | verification _, v => [.verification v]
  | _, _ => []

/-- Whether a list is about a record. -/
def Concerns : Query → Record → Prop
  | accounts owner _, .account a => ∀ o, owner = some o → a.owner = o
  | entries accountId _, .entry e => e.accountId = accountId
  | transfers accountId _, .transfer t => t.fromId = accountId ∨ t.toId = accountId
  | _, _ => False

/-- The page of a list that is asked for. -/
def page? : Query → Option Page
  | accounts _ page | entries _ page | transfers _ page => some page
  | _ => none

end Query

/-- A row stands for the record. -/
def Rows.Holds (rows : Rows) : Record → Prop
  | .account a => ∃ r ∈ rows.accounts, r.read = .ok a
  | .entry e => ∃ r ∈ rows.entries, r.read = .ok e
  | .transfer t => ∃ r ∈ rows.transfers, r.read = .ok t
  | .user u => ∃ r ∈ rows.users, r.read = .ok u
  | .verification v => ∃ r ∈ rows.verifications, r.read = .ok v

/-! ### What a query has stored -/

/-- The instant that a record tells, for one that was stored.  A leap second is
not told. -/
def Instant.Told (now t : Instant) : Prop :=
  now.nanos < 1000000000 → t = now

/-- A new record has what the query was given: all texts and numbers, and the
instant.  A verification expires when its lifetime is over. -/
def Query.Gives (now : Instant) : (q : Query) → q.Answer → Prop
  | .createAccount owner balance currency, a =>
      a = { id := a.id, owner, balance, currency, createdAt := a.createdAt } ∧
        now.Told a.createdAt
  | .createEntry accountId amount, e =>
      e = { id := e.id, accountId, amount, createdAt := e.createdAt } ∧ now.Told e.createdAt
  | .createTransfer request, t =>
      t = { id := t.id, fromId := request.fromId, toId := request.toId,
            amount := request.amount, createdAt := t.createdAt } ∧ now.Told t.createdAt
  | .createUser username fullName email, u =>
      u = { username, fullName, email, isEmailVerified := false, createdAt := u.createdAt } ∧
        now.Told u.createdAt
  | .createVerification username email secretCode lifetime, v =>
      v = { id := v.id, username, email, secretCode, isUsed := false, createdAt := v.createdAt,
            expiredAt := v.expiredAt } ∧
        now.Told v.createdAt ∧
          (now.nanos < 1000000000 →
            v.expiredAt.toNanos - v.createdAt.toNanos = lifetime.nanos)
  | _, _ => True

theorem Instant.told_of_readInstant {column : String} {t : Instant}
    (h : readInstant column now.storedText = .ok t) : now.Told t :=
  fun hnow => eq_of_readInstant_storedText hnow h

/-- What is answered for a new record is what was given. -/
theorem Query.gives_of_answers {a : q.Answer} (h : (q.perform now db).Answers a db') :
    q.Gives now a := by
  -- the answer is read from the row as it was written, column by column
  cases q with
  | createAccount owner balance currency =>
      obtain ⟨-, id, -, hread, -⟩ := answers_createAccount_iff.mp h
      obtain ⟨hcurrency, hcreated, ha⟩ := AccountRow.read_eq_ok_iff.mp hread
      have hsame : currency = a.currency :=
        Except.ok.inj ((readCurrency_code currency).symm.trans hcurrency)
      refine ⟨?_, Instant.told_of_readInstant hcreated⟩
      rw [ha, ← hsame]
      rfl
  | createEntry accountId amount =>
      obtain ⟨-, id, -, hread, -⟩ := answers_createEntry_iff.mp h
      obtain ⟨hcreated, he⟩ := EntryRow.read_eq_ok_iff.mp hread
      refine ⟨?_, Instant.told_of_readInstant hcreated⟩
      rw [he]
      rfl
  | createTransfer request =>
      obtain ⟨-, id, -, -, hread, -⟩ := answers_createTransfer_iff.mp h
      obtain ⟨hcreated, ht⟩ := TransferRow.read_eq_ok_iff.mp hread
      refine ⟨?_, Instant.told_of_readInstant hcreated⟩
      rw [ht]
      rfl
  | createUser username fullName email =>
      obtain ⟨-, -, hread, -⟩ := answers_createUser_iff.mp h
      obtain ⟨hcreated, hu⟩ := UserRow.read_eq_ok_iff.mp hread
      exact ⟨hu, Instant.told_of_readInstant hcreated⟩
  | createVerification username email secretCode lifetime =>
      obtain ⟨-, id, -, hread, -⟩ := answers_createVerification_iff.mp h
      obtain ⟨hcreated, hexpired, hv⟩ := VerificationRow.read_eq_ok_iff.mp hread
      have hcreatedAt := Instant.told_of_readInstant hcreated
      refine ⟨?_, hcreatedAt, fun hnow => ?_⟩
      · rw [hv]
        rfl
      · have hexpiredAt := Instant.told_of_readInstant hexpired (now.later_nanos_lt hnow lifetime)
        rw [hexpiredAt, hcreatedAt hnow, Instant.toNanos_later hnow, add_sub_cancel_left]
  | _ => trivial

/-- What is answered for a new record is held. -/
theorem Rows.holds_of_stored {a : q.Answer} {r : Record} (h : (q.perform now db).Answers a db')
    (hr : q.stored? a = some r) :
    db.catalog.hasTable r.key.table.name = true ∧ db'.rows.Holds r := by
  cases q with
  | createAccount owner balance currency =>
      cases hr
      obtain ⟨htable, id, -, hread, rfl⟩ := answers_createAccount_iff.mp h
      exact ⟨htable, _, List.mem_append_right _ List.mem_cons_self, hread⟩
  | createEntry accountId amount =>
      cases hr
      obtain ⟨htable, id, -, hread, rfl⟩ := answers_createEntry_iff.mp h
      exact ⟨htable, _, List.mem_append_right _ List.mem_cons_self, hread⟩
  | createTransfer request =>
      cases hr
      obtain ⟨htable, id, -, -, hread, rfl⟩ := answers_createTransfer_iff.mp h
      exact ⟨htable, _, List.mem_append_right _ List.mem_cons_self, hread⟩
  | createUser username fullName email =>
      cases hr
      obtain ⟨htable, -, hread, rfl⟩ := answers_createUser_iff.mp h
      exact ⟨htable, _, List.mem_append_right _ List.mem_cons_self, hread⟩
  | createVerification username email secretCode lifetime =>
      cases hr
      obtain ⟨htable, id, -, hread, rfl⟩ := answers_createVerification_iff.mp h
      exact ⟨htable, _, List.mem_append_right _ List.mem_cons_self, hread⟩
  | _ => cases hr

/-! ### Until the row is changed -/

/-- A row that is there is still there when another one has been added. -/
theorem exists_read_append {ρ α : Type} {read : ρ → Except Fault α} {rs : List ρ} {a : α}
    (h : ∃ r ∈ rs, read r = .ok a) (new : ρ) : ∃ r ∈ rs ++ [new], read r = .ok a := by
  obtain ⟨r, hr, hread⟩ := h
  exact ⟨r, List.mem_append_left _ hr, hread⟩

/-- A record stays if no row with its key is replaced. -/
theorem exists_read_replaced {ρ α : Type} {read : ρ → Except Fault α} {rs : List ρ} {a : α}
    {new : ρ} {p : ρ → Prop} [DecidablePred p] (h : ∃ r ∈ rs, read r = .ok a)
    (hp : ∀ {r}, read r = .ok a → ¬ p r) :
    ∃ r ∈ rs.map fun r => if p r then new else r, read r = .ok a := by
  obtain ⟨r, hr, hread⟩ := h
  exact ⟨r, mem_replaced_iff.mpr (.inl ⟨hr, hp hread⟩), hread⟩

/-- A record is held until the row with its key is changed or removed. -/
theorem Query.preserves_holds {r : Record} (hq : q.changed? ≠ some r.key) :
    q.Preserves fun rows => rows.Holds r := by
  intro db db' change hdb
  -- a change to another table does not matter, nor does one that adds a row; one
  -- that replaces or removes rows does so by their key
  cases change with
  | lookUp => exact hdb
  | createAccount =>
      cases r with
      | account a => exact exists_read_append hdb _
      | _ => exact hdb
  | createEntry =>
      cases r with
      | entry e => exact exists_read_append hdb _
      | _ => exact hdb
  | createTransfer =>
      cases r with
      | transfer t => exact exists_read_append hdb _
      | _ => exact hdb
  | createUser =>
      cases r with
      | user u => exact exists_read_append hdb _
      | _ => exact hdb
  | createVerification =>
      cases r with
      | verification v => exact exists_read_append hdb _
      | _ => exact hdb
  | addBalance row balance amount found sum =>
      cases r with
      | account a =>
          refine exists_read_replaced hdb fun hread hid => hq ?_
          exact congrArg (some ∘ Key.account) ((AccountRow.id_of_read hread).trans hid).symm
      | _ => exact hdb
  | deleteAccount row found =>
      cases r with
      | account a =>
          obtain ⟨s, hs, hread⟩ := hdb
          refine ⟨s, List.mem_filter.mpr ⟨hs, decide_eq_true fun hid => hq ?_⟩, hread⟩
          exact congrArg (some ∘ Key.account) ((AccountRow.id_of_read hread).trans hid).symm
      | _ => exact hdb
  | updateUser row fullName isEmailVerified found =>
      cases r with
      | user u =>
          refine exists_read_replaced hdb fun hread hname => hq ?_
          exact congrArg (some ∘ Key.user) ((UserRow.username_of_read hread).trans hname).symm
      | _ => exact hdb
  | updateVerification row isUsed found =>
      cases r with
      | verification v =>
          refine exists_read_replaced hdb fun hread hid => hq ?_
          exact congrArg (some ∘ Key.verification)
            ((VerificationRow.id_of_read hread).trans hid).symm
      | _ => exact hdb

/-! ### Records that are shown -/

/-- No two records that are held share a key. -/
theorem Database.Keyed.eq_of_holds (h : db.Keyed) {r s : Record} (hr : db.rows.Holds r)
    (hs : db.rows.Holds s) (hkey : r.key = s.key) : r = s := by
  cases r with
  | account a =>
      cases s with
      | account b =>
          exact congrArg Record.account
            (eq_of_read_of_key (h.ids .account).nodup AccountRow.id_of_read hr hs
              (Key.account.inj hkey))
      | _ => cases hkey
  | entry e =>
      cases s with
      | entry f =>
          exact congrArg Record.entry
            (eq_of_read_of_key (h.ids .entry).nodup EntryRow.id_of_read hr hs
              (Key.entry.inj hkey))
      | _ => cases hkey
  | transfer t =>
      cases s with
      | transfer u =>
          exact congrArg Record.transfer
            (eq_of_read_of_key (h.ids .transfer).nodup TransferRow.id_of_read hr hs
              (Key.transfer.inj hkey))
      | _ => cases hkey
  | user u =>
      cases s with
      | user v =>
          exact congrArg Record.user
            (eq_of_read_of_key h.usernames UserRow.username_of_read hr hs (Key.user.inj hkey))
      | _ => cases hkey
  | verification v =>
      cases s with
      | verification w =>
          exact congrArg Record.verification
            (eq_of_read_of_key (h.ids .verification).nodup VerificationRow.id_of_read hr hs
              (Key.verification.inj hkey))
      | _ => cases hkey

/-- What is read from a page is read from a row of the table. -/
theorem exists_read_of_mem_page {ρ α : Type} {read : ρ → Except Fault α} {table rs : List ρ}
    {page : Page} {as : List α} (h : (page.select rs).mapM read = .ok as) (hrs : rs.Sublist table)
    {a : α} (ha : a ∈ as) : ∃ r ∈ table, read r = .ok a := by
  obtain ⟨r, hr, hread⟩ := (mem_iff_of_mapM h).mp ha
  exact ⟨r, hrs.subset ((page.select_sublist rs).subset hr), hread⟩

/-- A record that is shown is held. -/
theorem Database.Keyed.holds_of_shown (hdb : db.Keyed) {a : q.Answer} {r : Record}
    (h : (q.perform now db).Answers a db') (hr : r ∈ q.shown a) : db.rows.Holds r := by
  cases q with
  | account id | accountForUpdate id =>
      obtain rfl := List.mem_singleton.mp hr
      obtain ⟨-, ⟨s, hs, -, hread⟩, -⟩ := hdb.findAccount_iff.mp h
      exact ⟨s, hs, hread⟩
  | entry id =>
      obtain rfl := List.mem_singleton.mp hr
      obtain ⟨-, ⟨s, hs, -, hread⟩, -⟩ := hdb.findEntry_iff.mp h
      exact ⟨s, hs, hread⟩
  | transfer id =>
      obtain rfl := List.mem_singleton.mp hr
      obtain ⟨-, ⟨s, hs, -, hread⟩, -⟩ := hdb.findTransfer_iff.mp h
      exact ⟨s, hs, hread⟩
  | user username =>
      obtain rfl := List.mem_singleton.mp hr
      obtain ⟨-, ⟨s, hs, -, hread⟩, -⟩ := hdb.findUser_iff.mp h
      exact ⟨s, hs, hread⟩
  | verification id =>
      obtain rfl := List.mem_singleton.mp hr
      obtain ⟨-, ⟨s, hs, -, hread⟩, -⟩ := hdb.findVerification_iff.mp h
      exact ⟨s, hs, hread⟩
  | accounts owner page =>
      obtain ⟨b, hb, rfl⟩ := List.mem_map.mp hr
      obtain ⟨-, -, -, hread, -⟩ := answers_listAccounts_iff.mp h
      exact exists_read_of_mem_page hread (db.rows.accountsOf_sublist owner) hb
  | entries accountId page =>
      obtain ⟨e, he, rfl⟩ := List.mem_map.mp hr
      obtain ⟨-, -, -, hread, -⟩ := answers_listEntries_iff.mp h
      exact exists_read_of_mem_page hread List.filter_sublist he
  | transfers accountId page =>
      obtain ⟨t, ht, rfl⟩ := List.mem_map.mp hr
      obtain ⟨-, -, -, hread, -⟩ := answers_listTransfers_iff.mp h
      exact exists_read_of_mem_page hread List.filter_sublist ht
  | _ => cases hr

/-- Where what is read tells its key, to ask for the key besides is to ask for
nothing more. -/
theorem exists_key_read_iff {ρ κ α : Type} {read : ρ → Except Fault α} {rs : List ρ}
    {key : ρ → κ} {keyOf : α → κ} (hread : ∀ {r a}, read r = .ok a → keyOf a = key r) {a : α} :
    (∃ r ∈ rs, key r = keyOf a ∧ read r = .ok a) ↔ ∃ r ∈ rs, read r = .ok a :=
  exists_congr fun _ => and_congr_right fun _ =>
    ⟨fun h => h.2, fun h => ⟨(hread h).symm, h⟩⟩

/-- A record is answered under its key exactly if it is held. -/
theorem Database.Keyed.get_iff (h : db.Keyed) {r : Record} :
    (r.key.get.perform now db).Answers r.answer db' ↔
      db.catalog.hasTable r.key.table.name = true ∧ db.rows.Holds r ∧ db' = db := by
  cases r with
  | account a =>
      exact h.findAccount_iff.trans (and_congr_right fun _ =>
        and_congr_left fun _ => exists_key_read_iff AccountRow.id_of_read)
  | entry e =>
      exact h.findEntry_iff.trans (and_congr_right fun _ =>
        and_congr_left fun _ => exists_key_read_iff EntryRow.id_of_read)
  | transfer t =>
      exact h.findTransfer_iff.trans (and_congr_right fun _ =>
        and_congr_left fun _ => exists_key_read_iff TransferRow.id_of_read)
  | user u =>
      exact h.findUser_iff.trans (and_congr_right fun _ =>
        and_congr_left fun _ => exists_key_read_iff UserRow.username_of_read)
  | verification v =>
      exact h.findVerification_iff.trans (and_congr_right fun _ =>
        and_congr_left fun _ => exists_key_read_iff VerificationRow.id_of_read)

/-- Where its table is there, a record that is held is looked up, and nothing
is changed. -/
theorem Database.Keyed.submit_get (h : db.Keyed) {r : Record}
    (htable : db.catalog.hasTable r.key.table.name = true) (hr : db.rows.Holds r)
    (now : Instant) : submit now r.key.get db = { outcome := .ok r.answer, db } :=
  submit_ok_iff.mpr ⟨r.key.get_possible now, h.get_iff.mpr ⟨htable, hr, rfl⟩⟩

theorem Database.Keyed.submit_get_ok_iff (h : db.Keyed) {r : Record}
    (htable : db.catalog.hasTable r.key.table.name = true) :
    (submit now r.key.get db).outcome = .ok r.answer ↔ db.rows.Holds r := by
  constructor
  · intro hok
    have hresult := (submit_outcome_ok_iff.mp hok).2
    exact (h.get_iff.mp ⟨hresult, rfl⟩).2.1
  · intro hr
    rw [h.submit_get htable hr]

/-- A first page that is not full has all that there is. -/
theorem mem_of_first_page {ρ α : Type} {read : ρ → Except Fault α} {rs : List ρ} {page : Page}
    {as : List α} (h : (page.select rs).mapM read = .ok as) (hfirst : page.offset = 0)
    (hshort : as.length < page.limit.toInt) {a : α} (ha : ∃ r ∈ rs, read r = .ok a) :
    a ∈ as := by
  have hlength := length_of_mapM h
  have hselect : page.select rs = rs.take page.limit.toInt.toNat := by
    unfold Page.select
    rw [hfirst]
    rfl
  rw [hselect, List.length_take] at hlength
  have hall : page.select rs = rs := by
    -- fewer rows were taken than there was room for
    rw [hselect]
    exact List.take_of_length_le (by omega)
  rw [hall] at h
  exact (mem_iff_of_mapM h).mpr ha

/-- A record that is held is on each first page that is about it and not
full. -/
theorem Rows.Holds.shown {a : q.Answer} {r : Record} {page : Page} (hr : db.rows.Holds r)
    (h : (q.perform now db).Answers a db') (hq : q.Concerns r) (hpage : q.page? = some page)
    (hfirst : page.offset = 0) (hshort : (q.shown a).length < page.limit.toInt) :
    r ∈ q.shown a := by
  cases q with
  | accounts owner page =>
      cases r with
      | account b =>
          cases hpage
          obtain ⟨-, -, -, hread, -⟩ := answers_listAccounts_iff.mp h
          simp only [Query.shown, List.length_map] at hshort
          have hof := Rows.exists_read_accountsOf_iff.mpr ⟨hr, hq⟩
          exact List.mem_map_of_mem (mem_of_first_page hread hfirst hshort hof)
      | _ => cases hq
  | entries accountId page =>
      cases r with
      | entry e =>
          cases hpage
          obtain ⟨-, -, -, hread, -⟩ := answers_listEntries_iff.mp h
          simp only [Query.shown, List.length_map] at hshort
          have hof := Rows.exists_read_entriesOf_iff.mpr ⟨hr, hq⟩
          exact List.mem_map_of_mem (mem_of_first_page hread hfirst hshort hof)
      | _ => cases hq
  | transfers accountId page =>
      cases r with
      | transfer t =>
          cases hpage
          obtain ⟨-, -, -, hread, -⟩ := answers_listTransfers_iff.mp h
          simp only [Query.shown, List.length_map] at hshort
          have hof := Rows.exists_read_transfersOf_iff.mpr ⟨hr, hq⟩
          exact List.mem_map_of_mem (mem_of_first_page hread hfirst hshort hof)
      | _ => cases hq
  | _ => cases hpage

end DoubleEntry
