/-
DoubleEntry/Proofs/Store/Change.lean

What a query can do to the database, said once for all queries.  A query that
takes effect adds a row under an id that was drawn, replaces the row it
names, removes it, or only looks rows up (`Change`); one that does not leaves
the rows alone and at most draws an id in vain (`perform_cameOut`).

Whether a query has taken effect is told by its outcome alone
(`Outcome.tookEffect`): it has when it answers, and also when it fails only
because the row that it wrote or found cannot be read back.  What holds of
every query, submitted by itself or issued in a transaction, is derived from
these cases.
-/
import DoubleEntry.Proofs.Store.SingleStatement

namespace DoubleEntry

open Performed

variable {α : Type} {db db' : Database} {q : Query}

/-! ### Rows that are replaced -/

/-- The rows of users with another row for a user. -/
def Rows.replaceUser (rows : Rows) (row : UserRow) : Rows :=
  { rows with users := rows.users.map fun r => if r.username = row.username then row else r }

/-- The rows of verifications with another row for a verification. -/
def Rows.replaceVerification (rows : Rows) (row : VerificationRow) : Rows :=
  { rows with verifications := rows.verifications.map fun r => if r.id = row.id then row else r }

/-- The row of a user with the fields set that are given. -/
def UserRow.updated (r : UserRow) (fullName : Option String) (isEmailVerified : Option Bool) :
    UserRow :=
  { r with
    fullName := fullName.getD r.fullName
    isEmailVerified := isEmailVerified.getD r.isEmailVerified }

/-- The database with a new user. -/
def Database.addUser (db : Database) (row : UserRow) : Database :=
  db.withRows { db.rows with users := db.rows.users ++ [row] }

theorem Rows.user?_username {rows : Rows} {username : String} {r : UserRow}
    (h : rows.user? username = some r) : r.username = username := by
  have hname := List.find?_some h
  exact of_decide_eq_true hname

theorem Rows.verification?_id {rows : Rows} {id : Int64} {r : VerificationRow}
    (h : rows.verification? id = some r) : r.id = id := by
  have hid := List.find?_some h
  exact of_decide_eq_true hid

/-! ### Changes -/

/-- Whether a query stores, changes or removes rows. -/
def Query.writes : Query → Bool
  | .account .. | .accountForUpdate .. | .accounts .. | .entry .. | .entries .. => false
  | .transfer .. | .transfers .. | .user .. | .verification .. => false
  | _ => true

/-- What a query that takes effect does to the database. -/
inductive Change (db : Database) : Query → Database → Prop
  | createAccount (now : Instant) (id : Int64) (owner : String) (balance : Int64)
      (currency : Currency) (drawn : id.toInt = db.sequences.account + 1) :
      Change db (.createAccount owner balance currency)
        (db.addAccount (.written now id owner balance currency))
  | addBalance (row : AccountRow) (balance amount : Int64)
      (found : db.rows.account? row.id = some row)
      (sum : balance.toInt = row.balance.toInt + amount.toInt) :
      Change db (.addBalance row.id amount)
        (db.withRows (db.rows.replaceAccount { row with balance }))
  | deleteAccount (row : AccountRow) (found : db.rows.account? row.id = some row) :
      Change db (.deleteAccount row.id) (db.withRows (db.rows.removeAccount row.id))
  | createEntry (now : Instant) (id accountId amount : Int64)
      (drawn : id.toInt = db.sequences.entry + 1) :
      Change db (.createEntry accountId amount)
        (db.addEntry (.written now id accountId amount))
  | createTransfer (now : Instant) (id : Int64) (request : TransferRequest)
      (drawn : id.toInt = db.sequences.transfer + 1) (positive : 0 < request.amount.toInt) :
      Change db (.createTransfer request) (db.addTransfer (.written now id request))
  | createUser (now : Instant) (username fullName email : String)
      (fresh : ∀ r ∈ db.rows.users, r.username ≠ username ∧ r.email ≠ email) :
      Change db (.createUser username fullName email)
        (db.addUser (.written now username fullName email))
  | updateUser (row : UserRow) (fullName : Option String) (isEmailVerified : Option Bool)
      (found : db.rows.user? row.username = some row) :
      Change db (.updateUser row.username fullName isEmailVerified)
        (db.withRows (db.rows.replaceUser (row.updated fullName isEmailVerified)))
  | createVerification (now expiredAt : Instant) (id : Int64)
      (username email secretCode : String) (lifetime : Duration)
      (drawn : id.toInt = db.sequences.verification + 1) :
      Change db (.createVerification username email secretCode lifetime)
        (db.addVerification (.written now expiredAt id username email secretCode))
  | updateVerification (row : VerificationRow) (isUsed : Bool)
      (found : db.rows.verification? row.id = some row) :
      Change db (.updateVerification row.id isUsed)
        (db.withRows (db.rows.replaceVerification { row with isUsed }))
  | lookUp (q : Query) (only : q.writes = false) : Change db q db

/-! ### Rows that cannot be read -/

/-- What is read from rows is there, or one of their columns cannot be
read. -/
def OnlyUnreadable (r : Except Fault α) : Prop :=
  ∀ f, r = .error f → ∃ column, f = .undecodable column

namespace OnlyUnreadable

variable {β : Type}

theorem ok (a : α) : OnlyUnreadable (.ok a) := by
  intro f h
  cases h

theorem bind {r : Except Fault α} {f : α → Except Fault β} (hr : OnlyUnreadable r)
    (hf : ∀ a, OnlyUnreadable (f a)) : OnlyUnreadable (r >>= f) := by
  cases r with
  | ok a => exact hf a
  | error e =>
      intro f h
      cases h
      exact hr e rfl

theorem readInstant (column text : String) : OnlyUnreadable (readInstant column text) := by
  unfold DoubleEntry.readInstant
  split
  · exact ok _
  · intro f h
    cases h
    exact ⟨column, rfl⟩

theorem readCurrency (text : String) : OnlyUnreadable (readCurrency text) := by
  unfold DoubleEntry.readCurrency
  split
  · exact ok _
  · intro f h
    cases h
    exact ⟨"currency", rfl⟩

theorem account (r : AccountRow) : OnlyUnreadable r.read :=
  (readCurrency _).bind fun _ => (readInstant _ _).bind fun _ => ok _

theorem entry (r : EntryRow) : OnlyUnreadable r.read :=
  (readInstant _ _).bind fun _ => ok _

theorem transfer (r : TransferRow) : OnlyUnreadable r.read :=
  (readInstant _ _).bind fun _ => ok _

theorem user (r : UserRow) : OnlyUnreadable r.read :=
  (readInstant _ _).bind fun _ => ok _

theorem verification (r : VerificationRow) : OnlyUnreadable r.read :=
  (readInstant _ _).bind fun _ => (readInstant _ _).bind fun _ => ok _

theorem mapM {ρ : Type} {read : ρ → Except Fault α} (hread : ∀ r, OnlyUnreadable (read r))
    (rows : List ρ) : OnlyUnreadable (rows.mapM read) := by
  induction rows with
  | nil => exact ok _
  | cons r rows ih =>
      rw [List.mapM_cons]
      exact (hread r).bind fun a => ih.bind fun as => ok (a :: as)

end OnlyUnreadable

/-! ### How a query comes out -/

/-- Whether a query that ended so has taken effect. -/
def Outcome.tookEffect : Outcome α → Bool
  | .ok _ => true
  | .error (.database (.undecodable _)) => true
  | _ => false

/-- A query has taken effect and changed the database as told, or it has not,
and at most an id is gone. -/
inductive CameOut (outcome : Outcome α) (changed : Database → Prop) (db db' : Database) : Prop
  | done (effect : outcome.tookEffect = true) (change : changed db')
  | failed (effect : outcome.tookEffect = false) (s : Sequences) (forward : db.sequences ≤ s)
      (same : db' = db.withSequences s)

namespace Performed

variable {changed : Database → Prop}

/-- How a statement comes out. -/
def CameOut (p : Performed α) (changed : Database → Prop) (db : Database) : Prop :=
  DoubleEntry.CameOut (.ofExcept p.result) changed db p.db

theorem cameOut_refused {e : Error} (he : (Outcome.error e : Outcome α).tookEffect = false) :
    (refused e db : Performed α).CameOut changed db :=
  .failed he db.sequences (Sequences.le_refl _) rfl

theorem cameOut_missing (what : Missing) : (missing what db : Performed α).CameOut changed db :=
  .failed rfl db.sequences (Sequences.le_refl _) rfl

theorem cameOut_reading {r : Except Fault α} (hr : OnlyUnreadable r) (h : changed db') :
    (reading r db').CameOut changed db := by
  refine .done ?_ h
  cases r with
  | ok a => rfl
  | error f =>
      obtain ⟨column, rfl⟩ := hr f rfl
      rfl

theorem cameOut_withTable (table : Table) {p : Performed α} (h : p.CameOut changed db) :
    (withTable table db p).CameOut changed db := by
  unfold withTable
  split
  · exact h
  · exact cameOut_refused rfl

theorem cameOut_withNextId {last : Nat} {p : Int64 → Performed α}
    (h : ∀ id : Int64, id.toInt = last + 1 → (p id).CameOut changed db) :
    (withNextId last db p).CameOut changed db := by
  rcases hid : Text.toInt64? (last + 1 : Nat) with - | id
  · rw [withNextId_none hid]
    exact cameOut_refused rfl
  · rw [withNextId_some hid]
    exact h id (Text.toInt_of_toInt64? hid)

theorem cameOut_findRow {ρ : Type} {read : ρ → Except Fault α}
    (hread : ∀ r, OnlyUnreadable (read r)) (table : Table) (row? : Option ρ) (what : Missing)
    (h : changed db) : (findRow table row? read what db).CameOut changed db := by
  refine cameOut_withTable _ ?_
  cases row? with
  | none => exact cameOut_missing _
  | some row => exact cameOut_reading (hread row) h

theorem cameOut_readPage {ρ : Type} {read : ρ → Except Fault α}
    {changed : Database → Prop} (hread : ∀ r, OnlyUnreadable (read r)) (page : Page)
    (rows : List ρ) (h : changed db) : (readPage read page rows db).CameOut changed db := by
  unfold readPage
  split
  · exact cameOut_refused rfl
  · exact cameOut_reading (.mapM hread _) h

end Performed

/-- **What a query can do.**  It takes effect and makes its change, or it
fails and leaves all rows as they are. -/
theorem perform_cameOut (now : Instant) (q : Query) (db : Database) :
    (q.perform now db).CameOut (Change db q) db := by
  cases q with
  | createAccount owner balance currency =>
      refine cameOut_withTable _ (cameOut_withNextId fun id hid => ?_)
      exact cameOut_reading (.account _) (.createAccount now id owner balance currency hid)
  | createEntry accountId amount =>
      refine cameOut_withTable _ (cameOut_withNextId fun id hid => ?_)
      exact cameOut_reading (.entry _) (.createEntry now id accountId amount hid)
  | createTransfer request =>
      refine cameOut_withTable _ (cameOut_withNextId fun id hid => ?_)
      dsimp only
      split
      case isTrue hpositive =>
        exact cameOut_reading (.transfer _) (.createTransfer now id request hid hpositive)
      case isFalse =>
        -- the id is gone all the same
        exact .failed rfl { db.sequences with transfer := db.sequences.transfer + 1 }
          ⟨Nat.le_refl _, Nat.le_refl _, Nat.le_succ _, Nat.le_refl _⟩ rfl
  | createVerification username email secretCode lifetime =>
      refine cameOut_withTable _ (cameOut_withNextId fun id hid => ?_)
      exact cameOut_reading (.verification _)
        (.createVerification now (now.later lifetime) id username email secretCode lifetime hid)
  | createUser username fullName email =>
      refine cameOut_withTable _ ?_
      split
      case isTrue => exact cameOut_refused rfl
      case isFalse hfresh =>
        refine cameOut_reading (.user _) (.createUser now username fullName email ?_)
        intro r hr
        simp only [List.any_eq_true, not_exists, not_and, Bool.or_eq_true, decide_eq_true_eq,
          not_or] at hfresh
        exact hfresh r hr
  | addBalance id amount =>
      refine cameOut_withTable _ ?_
      cases hrow : db.rows.account? id with
      | none => exact cameOut_missing _
      | some row =>
          obtain ⟨-, rfl⟩ := Rows.account?_eq_some hrow
          dsimp only
          rcases hsum : checkedAdd row.balance amount with - | balance
          · exact cameOut_refused rfl
          · exact cameOut_reading (.account _)
              (.addBalance row balance amount hrow (Text.toInt_of_toInt64? hsum))
  | deleteAccount id =>
      refine cameOut_withTable _ ?_
      cases hrow : db.rows.account? id with
      | none => exact cameOut_missing _
      | some row =>
          obtain ⟨-, rfl⟩ := Rows.account?_eq_some hrow
          exact cameOut_reading (.ok ()) (.deleteAccount row hrow)
  | updateUser username fullName isEmailVerified =>
      refine cameOut_withTable _ ?_
      cases hrow : db.rows.user? username with
      | none => exact cameOut_missing _
      | some row =>
          obtain rfl := Rows.user?_username hrow
          exact cameOut_reading (.user _) (.updateUser row fullName isEmailVerified hrow)
  | updateVerification id isUsed =>
      refine cameOut_withTable _ ?_
      cases hrow : db.rows.verification? id with
      | none => exact cameOut_missing _
      | some row =>
          obtain rfl := Rows.verification?_id hrow
          exact cameOut_reading (.verification _) (.updateVerification row isUsed hrow)
  | account id | accountForUpdate id =>
      exact cameOut_findRow .account _ _ _ (.lookUp _ rfl)
  | entry id => exact cameOut_findRow .entry _ _ _ (.lookUp _ rfl)
  | transfer id => exact cameOut_findRow .transfer _ _ _ (.lookUp _ rfl)
  | user username => exact cameOut_findRow .user _ _ _ (.lookUp _ rfl)
  | verification id => exact cameOut_findRow .verification _ _ _ (.lookUp _ rfl)
  | accounts owner page =>
      exact cameOut_withTable _ (cameOut_readPage .account page _ (.lookUp _ rfl))
  | entries accountId page =>
      exact cameOut_withTable _ (cameOut_readPage .entry page _ (.lookUp _ rfl))
  | transfers accountId page =>
      exact cameOut_withTable _ (cameOut_readPage .transfer page _ (.lookUp _ rfl))

end DoubleEntry
