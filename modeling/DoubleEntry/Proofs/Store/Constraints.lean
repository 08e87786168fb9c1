/-
DoubleEntry/Proofs/Store/Constraints.lean

When the database refuses a row.  A new user whose name or address is taken
and a transfer of no positive amount violate what the tables declare
(`Query.Violates`).  No other query is answered with a violated constraint,
and one that is leaves the rows alone (`submit_refused`); both of these are
answered so wherever their tables are there (`submit_of_violates`).

The id for a transfer is drawn before its amount is checked.  So the refusal
of a transfer takes an id.  When all ids of 64 bits have been drawn, that is
what a transfer fails for, be its amount positive or not.
-/
import DoubleEntry.Proofs.Store.Statement

namespace DoubleEntry

open Performed

variable {α : Type} {db : Database} {now : Instant} {q : Query}

/-- The query is to store a row that its table does not admit. -/
def Query.Violates (rows : Rows) : Query → Prop
  | .createUser username _ email =>
      ∃ r ∈ rows.users, r.username = username ∨ r.email = email
  | .createTransfer request => request.amount.toInt ≤ 0
  | _ => False

/-- The query is to store a transfer, and no id is left for one. -/
def Query.LacksTransferId (s : Sequences) : Query → Prop
  | .createTransfer _ => 9223372036854775807 ≤ s.transfer
  | _ => False

/-! ### Forms of statements -/

namespace Performed

variable {violated : Prop}

/-- The statement is answered with a violated constraint only where there is
one, and then has left the rows alone. -/
def Refuses (violated : Prop) (db : Database) (p : Performed α) : Prop :=
  ∀ v, p.result = .error (.constraint v) → violated ∧ p.db.rows = db.rows

theorem refuses_reading (r : Except Fault α) (db' : Database) :
    (reading r db').Refuses violated db := by
  intro v h
  cases r with
  | ok a => cases h
  | error f => cases h

theorem refuses_missing (what : Missing) (db' : Database) :
    (missing what db' : Performed α).Refuses violated db := by
  intro v h
  cases h

theorem refuses_fault (f : Fault) (db' : Database) :
    (refused (.database f) db' : Performed α).Refuses violated db := by
  intro v h
  cases h

theorem refuses_withTable (table : Table) {p : Performed α} (h : p.Refuses violated db) :
    (withTable table db p).Refuses violated db := by
  unfold withTable
  split
  · exact h
  · exact refuses_fault _ db

theorem refuses_withNextId (last : Nat) {p : Int64 → Performed α}
    (h : ∀ id, (p id).Refuses violated db) : (withNextId last db p).Refuses violated db := by
  unfold withNextId
  generalize Text.toInt64? (last + 1 : Nat) = next
  cases next with
  | some id => exact h id
  | none => exact refuses_fault _ db

theorem refuses_readPage {ρ : Type} (read : ρ → Except Fault α) (page : Page) (rows : List ρ) :
    (readPage read page rows db).Refuses violated db := by
  unfold readPage
  split
  · exact refuses_fault _ db
  · exact refuses_reading _ db

end Performed

/-! ### Queries -/

/-- No query is answered with a violated constraint but those that violate
one. -/
theorem perform_refuses (now : Instant) (q : Query) (db : Database) :
    (q.perform now db).Refuses (q.Violates db.rows) db := by
  cases q with
  | createUser username fullName email =>
      refine refuses_withTable _ ?_
      split
      case isTrue htaken =>
        intro v _
        simp only [List.any_eq_true, Bool.or_eq_true, decide_eq_true_eq] at htaken
        exact ⟨htaken, rfl⟩
      case isFalse => exact refuses_reading _ _
  | createTransfer request =>
      refine refuses_withTable _ (refuses_withNextId _ fun id => ?_)
      dsimp only
      split
      case isTrue => exact refuses_reading _ _
      case isFalse hamount =>
        intro v _
        exact ⟨Int.not_lt.mp hamount, rfl⟩
  | createAccount owner balance currency =>
      exact refuses_withTable _ (refuses_withNextId _ fun id => refuses_reading _ _)
  | createEntry accountId amount =>
      exact refuses_withTable _ (refuses_withNextId _ fun id => refuses_reading _ _)
  | createVerification username email secretCode lifetime =>
      exact refuses_withTable _ (refuses_withNextId _ fun id => refuses_reading _ _)
  | account id | accountForUpdate id | entry id | transfer id | user username | verification id =>
      refine refuses_withTable _ ?_
      split
      · exact refuses_reading _ _
      · exact refuses_missing _ _
  | accounts owner page | entries accountId page | transfers accountId page =>
      exact refuses_withTable _ (refuses_readPage _ _ _)
  | addBalance id amount =>
      refine refuses_withTable _ ?_
      split
      · exact refuses_missing _ _
      · split
        · exact refuses_fault _ _
        · exact refuses_reading _ _
  | deleteAccount id | updateUser username fullName isEmailVerified
  | updateVerification id isUsed =>
      refine refuses_withTable _ ?_
      split
      · exact refuses_missing _ _
      · exact refuses_reading _ _

/-- A query that is submitted and answered with a violated constraint violates
one, and has stored nothing. -/
theorem submit_refused {v : Violation} (h : (submit now q db).outcome = .error (.constraint v)) :
    q.Violates db.rows ∧ (submit now q db).db.rows = db.rows := by
  by_cases himpossible : q.isImpossible now = true
  · have hsubmit : submit now q db = { outcome := .crash, db } := if_pos himpossible
    rw [hsubmit] at h
    cases h
  · rw [submit_of_perform (Bool.eq_false_iff.mpr himpossible) rfl] at h ⊢
    cases hresult : (q.perform now db).result with
    | ok a =>
        rw [hresult] at h
        cases h
    | error e =>
        rw [hresult] at h
        cases h
        exact perform_refuses now q db v hresult

/-- A query that violates a constraint is answered with that where its table is
there, unless it does not come to the check because no id is left. -/
theorem submit_of_violates (hviolates : q.Violates db.rows)
    (husers : db.catalog.hasTable Migration.userTable.name = true)
    (htransfers : db.catalog.hasTable Migration.transferTable.name = true) (now : Instant) :
    (∃ v, (submit now q db).outcome = .error (.constraint v)) ∨
      q.LacksTransferId db.sequences ∧
        (submit now q db).outcome = .error (.database .sequenceExhausted) := by
  cases q with
  | createUser username fullName email =>
      have htaken : (db.rows.users.any fun r => r.username = username || r.email = email) =
          true := by
        simp only [List.any_eq_true, Bool.or_eq_true, decide_eq_true_eq]
        exact hviolates
      refine .inl ⟨.duplicateKey, ?_⟩
      show Outcome.ofExcept (createUser now username fullName email db).result = _
      unfold createUser withTable
      rw [if_pos husers, if_pos htaken]
      rfl
  | createTransfer request =>
      have hamount : ¬ 0 < request.amount.toInt := Int.not_lt.mpr hviolates
      have hran : (submit now (.createTransfer request) db).outcome =
          Outcome.ofExcept (createTransfer now request db).result := rfl
      rw [hran]
      unfold createTransfer withTable
      rw [if_pos htransfers]
      rcases Nat.lt_or_ge db.sequences.transfer 9223372036854775807 with hleft | hnone
      · obtain ⟨id, hid⟩ := exists_nextId hleft
        refine .inl ⟨.checkFailed, ?_⟩
        rw [withNextId_some hid]
        dsimp only
        rw [if_neg hamount]
        rfl
      · refine .inr ⟨hnone, ?_⟩
        rw [withNextId_none (Text.toInt64?_eq_none_iff.mpr ?_)]
        · rfl
        · omega
  | _ => cases hviolates

end DoubleEntry
