/-
DoubleEntry/Proofs/Store/SpentIds.lean

What a statement sees of the ids that are gone, be it through rows that are
still there or through work that was not kept.

* `perform_withSequences`: a statement that draws no id does not see them.
* `perform_sameButId`: a statement that draws one does the same under another
  id.

As for proper statements, both are shown of the forms first.
-/
import Mathlib.Data.List.ModifyLast
import DoubleEntry.Proofs.Store.Statement

namespace DoubleEntry

open DoubleEntry.Text
open Performed

/-! ### Statements that draw no id -/

namespace Performed

variable {α : Type}

/-- The same result over other sequences. -/
def withSequences (p : Performed α) (s : Sequences) : Performed α :=
  { p with db := p.db.withSequences s }

theorem withTable_withSequences {table : Table} {db : Database} {s : Sequences}
    {p p' : Performed α} (h : p' = p.withSequences s) :
    withTable table (db.withSequences s) p' = (withTable table db p).withSequences s := by
  subst h
  unfold withTable
  rw [Database.withSequences_catalog]
  split <;> rfl

theorem refused_withSequences (e : Error) (db : Database) (s : Sequences) :
    (refused e (db.withSequences s) : Performed α) = (refused e db).withSequences s := rfl

theorem reading_withSequences (r : Except Fault α) (db : Database) (s : Sequences) :
    reading r (db.withSequences s) = (reading r db).withSequences s := rfl

theorem findRow_withSequences {ρ : Type} (table : Table) (row? : Option ρ)
    (read : ρ → Except Fault α) (what : Missing) (db : Database) (s : Sequences) :
    findRow table row? read what (db.withSequences s) =
      (findRow table row? read what db).withSequences s := by
  refine withTable_withSequences ?_
  cases row? with
  | none => rfl
  | some row => exact reading_withSequences _ db _

theorem readPage_withSequences {ρ : Type} (read : ρ → Except Fault α) (page : Page)
    (rows : List ρ) (db : Database) (s : Sequences) :
    readPage read page rows (db.withSequences s) =
      (readPage read page rows db).withSequences s := by
  unfold readPage
  split <;> rfl

end Performed

/-- Whether a query stores a row under a new id. -/
def Query.drawsId : Query → Bool
  | .createAccount .. | .createEntry .. | .createTransfer .. | .createVerification .. => true
  | _ => false

/-- A query that stores no row under a new id does not see the sequences. -/
theorem perform_withSequences_of_not_drawsId {q : Query} (hq : q.drawsId = false) (now : Instant)
    (db : Database) (s : Sequences) :
    q.perform now (db.withSequences s) = (q.perform now db).withSequences s := by
  cases q with
  | createAccount owner balance currency => cases hq
  | createEntry accountId amount => cases hq
  | createTransfer request => cases hq
  | createVerification username email secretCode lifetime => cases hq
  | account id | accountForUpdate id | entry id | transfer id | user username | verification id =>
      exact findRow_withSequences _ _ _ _ db s
  | accounts owner page | entries accountId page | transfers accountId page =>
      exact withTable_withSequences (readPage_withSequences _ _ _ _ _)
  | addBalance id amount =>
      refine withTable_withSequences ?_
      simp only [Database.withSequences_rows]
      cases db.rows.account? id with
      | none => rfl
      | some row =>
          dsimp only
          cases checkedAdd row.balance amount with
          | none => exact refused_withSequences _ db _
          | some balance => exact reading_withSequences _ (db.withRows _) _
  | deleteAccount id =>
      refine withTable_withSequences ?_
      simp only [Database.withSequences_rows]
      cases db.rows.account? id with
      | none => rfl
      | some row => exact reading_withSequences _ (db.withRows _) _
  | createUser username fullName email =>
      refine withTable_withSequences ?_
      by_cases h : (db.rows.users.any fun r => r.username = username || r.email = email) = true
      · simp only [Database.withSequences_rows, h, if_true]
        exact refused_withSequences _ db _
      · simp only [Database.withSequences_rows, h]
        exact reading_withSequences _ (db.withRows _) _
  | updateUser username fullName isEmailVerified =>
      refine withTable_withSequences ?_
      simp only [Database.withSequences_rows]
      cases db.rows.user? username with
      | none => rfl
      | some row => exact reading_withSequences _ (db.withRows _) _
  | updateVerification id isUsed =>
      refine withTable_withSequences ?_
      simp only [Database.withSequences_rows]
      cases db.rows.verification? id with
      | none => rfl
      | some row => exact reading_withSequences _ (db.withRows _) _

/-! ### Statements that draw an id -/

/-- A statement that would draw an id, and has not, was refused; it is
refused all the same when more ids are gone. -/
theorem withTable_withNextId_withSequences {α : Type} {table : Table} {last last' : Nat}
    {db : Database} {s : Sequences} {p p' : Int64 → Performed α} (hlast : last ≤ last')
    (hdraws : ∀ id, (p id).db.sequences ≠ db.sequences)
    (h : (withTable table db (withNextId last db p)).db.sequences = db.sequences) :
    withTable table (db.withSequences s) (withNextId last' (db.withSequences s) p') =
      (withTable table db (withNextId last db p)).withSequences s := by
  unfold withTable at h ⊢
  rw [Database.withSequences_catalog]
  split at h
  case isTrue htable =>
    rw [if_pos htable, if_pos htable]
    rcases hid : toInt64? (last + 1 : Nat) with - | id
    · -- a sequence that is exhausted stays so
      have hid' : toInt64? (last' + 1 : Nat) = none := by
        rw [toInt64?_eq_none_iff] at hid ⊢
        omega
      rw [withNextId_none hid, withNextId_none hid']
      rfl
    · rw [withNextId_some hid] at h
      exact absurd h (hdraws id)
  case isFalse htable =>
    rw [if_neg htable, if_neg htable]
    rfl

/-- A query that has drawn no id does not see how many ids are gone. -/
theorem perform_withSequences {q : Query} {now : Instant} {db : Database} {s : Sequences}
    (h : (q.perform now db).db.sequences = db.sequences) (hs : db.sequences ≤ s) :
    q.perform now (db.withSequences s) = (q.perform now db).withSequences s := by
  by_cases hq : q.drawsId = true
  · cases q with
    | createAccount owner balance currency =>
        refine withTable_withNextId_withSequences hs.1 (fun id hid => ?_) h
        have hnext := congrArg Sequences.account hid
        exact absurd hnext (Nat.succ_ne_self _)
    | createEntry accountId amount =>
        refine withTable_withNextId_withSequences hs.2.1 (fun id hid => ?_) h
        have hnext := congrArg Sequences.entry hid
        exact absurd hnext (Nat.succ_ne_self _)
    | createTransfer request =>
        refine withTable_withNextId_withSequences hs.2.2.1 (fun id hid => ?_) h
        have hnext := congrArg Sequences.transfer hid
        dsimp only at hnext
        split at hnext <;> exact absurd hnext (Nat.succ_ne_self _)
    | createVerification username email secretCode lifetime =>
        refine withTable_withNextId_withSequences hs.2.2.2 (fun id hid => ?_) h
        have hnext := congrArg Sequences.verification hid
        exact absurd hnext (Nat.succ_ne_self _)
    | _ => cases hq
  · exact perform_withSequences_of_not_drawsId (Bool.eq_false_iff.mpr hq) now db s

/-! ### The same statement under another id -/

namespace Query

/-- An answer with another id. -/
def withId (id : Int64) : (q : Query) → q.Answer → q.Answer
  | createAccount .., a => { a with id }
  | createEntry .., e => { e with id }
  | createTransfer .., t => { t with id }
  | createVerification .., v => { v with id }
  | _, answer => answer

/-- The rows that a query left behind, with another id for the one it added:
the last of its table. -/
def renumber (id : Int64) (rows : Rows) : Query → Rows
  | createAccount .. =>
      { rows with accounts := rows.accounts.modifyLast fun r => { r with id } }
  | createEntry .. =>
      { rows with entries := rows.entries.modifyLast fun r => { r with id } }
  | createTransfer .. =>
      { rows with transfers := rows.transfers.modifyLast fun r => { r with id } }
  | createVerification .. =>
      { rows with verifications := rows.verifications.modifyLast fun r => { r with id } }
  | _ => rows

/-- The query came out the same, or the same but for the id that it drew. -/
structure SameButId (q : Query) (p p' : Performed q.Answer) : Prop where
  spoils : p'.spoils = p.spoils
  answer : (p'.result = p.result ∧ p'.db.rows = p.db.rows) ∨
    ∃ id, p'.result = p.result.map (q.withId id) ∧ p'.db.rows = q.renumber id p.db.rows

variable {q : Query} {db : Database} {s : Sequences}

theorem SameButId.withSequences (p : Performed q.Answer) (s : Sequences) :
    q.SameButId p (p.withSequences s) :=
  ⟨rfl, .inl ⟨rfl, rfl⟩⟩

end Query

/-- A statement that draws an id does so on both sides, as long as ids are
left. -/
theorem withTable_withNextId_rel {α : Type} {R : Performed α → Performed α → Prop} {table : Table}
    {last last' : Nat} {db db' : Database} {p p' : Int64 → Performed α}
    (hcatalog : db'.catalog = db.catalog) (hlast : last ≤ last')
    (havailable : last' < 9223372036854775807)
    (hrefused : ∀ e, R (refused e db) (refused e db')) (hdraw : ∀ id id', R (p id) (p' id')) :
    R (withTable table db (withNextId last db p))
      (withTable table db' (withNextId last' db' p')) := by
  obtain ⟨id, hid⟩ := exists_nextId (Nat.lt_of_le_of_lt hlast havailable)
  obtain ⟨id', hid'⟩ := exists_nextId havailable
  rw [withNextId_some hid, withNextId_some hid']
  unfold withTable
  rw [hcatalog]
  split
  · exact hdraw id id'
  · exact hrefused _

/-- What is read from the row under another id is the same with that id. -/
theorem Query.SameButId.reading {q : Query} {id : Int64} {r r' : Except Fault q.Answer}
    {db db' : Database} (hr : r' = r.map (q.withId id))
    (hrows : db'.rows = q.renumber id db.rows) :
    q.SameButId (reading r db) (reading r' db') := by
  subst hr
  refine ⟨rfl, .inr ⟨id, ?_, hrows⟩⟩
  cases r <;> rfl

theorem AccountRow.read_withId (r : AccountRow) (id : Int64) :
    { r with id }.read = r.read.map fun a => { a with id } := by
  unfold AccountRow.read
  cases readCurrency r.currency with
  | error e => rfl
  | ok currency => cases readInstant "created_at" r.createdAt <;> rfl

theorem EntryRow.read_withId (r : EntryRow) (id : Int64) :
    { r with id }.read = r.read.map fun e => { e with id } := by
  unfold EntryRow.read
  cases readInstant "created_at" r.createdAt <;> rfl

theorem TransferRow.read_withId (r : TransferRow) (id : Int64) :
    { r with id }.read = r.read.map fun t => { t with id } := by
  unfold TransferRow.read
  cases readInstant "created_at" r.createdAt <;> rfl

theorem VerificationRow.read_withId (r : VerificationRow) (id : Int64) :
    { r with id }.read = r.read.map fun v => { v with id } := by
  unfold VerificationRow.read
  cases readInstant "created_at" r.createdAt with
  | error e => rfl
  | ok t => cases readInstant "expired_at" r.expiredAt <;> rfl

/-- A query does the same when more ids are gone, but for the id it draws. -/
theorem perform_sameButId {q : Query} {now : Instant} {db : Database} {s : Sequences}
    (hs : db.sequences ≤ s) (ha : s.Available) :
    q.SameButId (q.perform now db) (q.perform now (db.withSequences s)) := by
  have hrefused : ∀ e, q.SameButId (refused e db) (refused e (db.withSequences s)) :=
    fun e => .withSequences (refused e db) s
  by_cases hq : q.drawsId = true
  · -- the row goes to the end of its table, where `renumber` finds it
    cases q with
    | createAccount owner balance currency =>
        refine withTable_withNextId_rel rfl hs.1 ha.account hrefused fun id id' => ?_
        let row : AccountRow :=
          { id, owner, balance, currency := currency.code, createdAt := now.storedText }
        exact .reading (row.read_withId id') (by
          simp only [Query.renumber, List.modifyLast_concat]
          rfl)
    | createEntry accountId amount =>
        refine withTable_withNextId_rel rfl hs.2.1 ha.entry hrefused fun id id' => ?_
        let row : EntryRow := { id, accountId, amount, createdAt := now.storedText }
        exact .reading (row.read_withId id') (by
          simp only [Query.renumber, List.modifyLast_concat]
          rfl)
    | createTransfer request =>
        refine withTable_withNextId_rel rfl hs.2.2.1 ha.transfer hrefused fun id id' => ?_
        dsimp only
        split
        · let row : TransferRow :=
            { id, fromId := request.fromId, toId := request.toId, amount := request.amount,
              createdAt := now.storedText }
          exact .reading (row.read_withId id') (by
            simp only [Query.renumber, Database.withRows, List.modifyLast_concat]
            rfl)
        · exact ⟨rfl, .inl ⟨rfl, rfl⟩⟩
    | createVerification username email secretCode lifetime =>
        refine withTable_withNextId_rel rfl hs.2.2.2 ha.verification hrefused fun id id' => ?_
        let row : VerificationRow :=
          { id, username, email, secretCode, isUsed := false, createdAt := now.storedText,
            expiredAt := (now.later lifetime).storedText }
        exact .reading (row.read_withId id') (by
          simp only [Query.renumber, List.modifyLast_concat]
          rfl)
    | _ => cases hq
  · rw [perform_withSequences_of_not_drawsId (Bool.eq_false_iff.mpr hq)]
    exact .withSequences _ s

end DoubleEntry
