/-
DoubleEntry/Proofs/Store/UserAnswers.lean

When the queries of users and verifications are answered, and what they have
done then: for each of them one equivalence that opens it up, as there is for
the queries of accounts, entries and transfers.
-/
import DoubleEntry.Proofs.Store.Change

namespace DoubleEntry

open Performed

variable {now expiredAt : Instant} {db db' : Database}

/-! ### Users -/

theorem answers_createUser_iff {username fullName email : String} {u : User} :
    (createUser now username fullName email db).Answers u db' ↔
      db.catalog.hasTable Migration.userTable.name = true ∧
        (∀ r ∈ db.rows.users, r.username ≠ username ∧ r.email ≠ email) ∧
          (UserRow.written now username fullName email).read = .ok u ∧
          db' = db.addUser (.written now username fullName email) := by
  have htaken : (db.rows.users.any fun r => r.username = username || r.email = email) = true ↔
      ¬ ∀ r ∈ db.rows.users, r.username ≠ username ∧ r.email ≠ email := by
    simp only [List.any_eq_true, Bool.or_eq_true, decide_eq_true_eq, ← not_or, not_forall,
      not_not, exists_prop]
  unfold createUser
  rw [answers_withTable_iff]
  refine and_congr_right fun _ => ?_
  split
  case isTrue hany =>
    have hfree := htaken.mp hany
    exact iff_of_false (not_answers_refused _) fun h => hfree h.1
  case isFalse hany =>
    have hfree := not_not.mp (mt htaken.mpr hany)
    exact answers_reading_iff.trans (and_iff_right hfree).symm

theorem answers_findUser_iff {username : String} {u : User} :
    (findUser username db).Answers u db' ↔
      db.catalog.hasTable Migration.userTable.name = true ∧
        ∃ row, db.rows.user? username = some row ∧ row.read = .ok u ∧ db' = db :=
  answers_findRow_iff

theorem answers_updateUser_iff {username : String} {fullName : Option String}
    {isEmailVerified : Option Bool} {u : User} :
    (updateUser username fullName isEmailVerified db).Answers u db' ↔
      db.catalog.hasTable Migration.userTable.name = true ∧
        ∃ row, db.rows.user? username = some row ∧
          (row.updated fullName isEmailVerified).read = .ok u ∧
          db' = db.withRows (db.rows.replaceUser (row.updated fullName isEmailVerified)) := by
  unfold updateUser
  rw [answers_withTable_iff]
  refine and_congr_right fun _ => ?_
  cases hrow : db.rows.user? username with
  | none => simp only [not_answers_missing, reduceCtorEq, false_and, exists_false]
  | some row =>
      obtain rfl := Rows.user?_username hrow
      simp only [Option.some.injEq, exists_eq_left']
      exact answers_reading_iff

/-! ### Verifications -/

theorem answers_findVerification_iff {id : Int64} {v : Verification} :
    (findVerification id db).Answers v db' ↔
      db.catalog.hasTable Migration.verificationTable.name = true ∧
        ∃ row, db.rows.verification? id = some row ∧ row.read = .ok v ∧ db' = db :=
  answers_findRow_iff

theorem answers_createVerification_iff {username email secretCode : String} {v : Verification} :
    (createVerification now expiredAt username email secretCode db).Answers v db' ↔
      db.catalog.hasTable Migration.verificationTable.name = true ∧
        ∃ id : Int64, id.toInt = db.sequences.verification + 1 ∧
          (VerificationRow.written now expiredAt id username email secretCode).read = .ok v ∧
          db' = db.addVerification (.written now expiredAt id username email secretCode) := by
  unfold createVerification
  rw [answers_withTable_iff, answers_withNextId_iff]
  refine and_congr_right fun _ => exists_congr fun id => and_congr_right fun _ => ?_
  exact answers_reading_iff

theorem answers_updateVerification_iff {id : Int64} {isUsed : Bool} {v : Verification} :
    (updateVerification id isUsed db).Answers v db' ↔
      db.catalog.hasTable Migration.verificationTable.name = true ∧
        ∃ row, db.rows.verification? id = some row ∧ { row with isUsed }.read = .ok v ∧
          db' = db.withRows (db.rows.replaceVerification { row with isUsed }) := by
  unfold updateVerification
  rw [answers_withTable_iff]
  refine and_congr_right fun _ => ?_
  cases hrow : db.rows.verification? id with
  | none => simp only [not_answers_missing, reduceCtorEq, false_and, exists_false]
  | some row =>
      obtain rfl := Rows.verification?_id hrow
      simp only [Option.some.injEq, exists_eq_left']
      exact answers_reading_iff

end DoubleEntry
