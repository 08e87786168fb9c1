/-
DoubleEntry/Proofs/Store/Statement.lean

What holds of every statement, whatever it is about: it leaves the catalog
alone, its sequences never go back, and if it answers it has not spoiled its
transaction (`perform_proper`).

A statement is put together from a few forms (`refused`, `missing`,
`reading`, `withTable`, `withNextId`, `readPage`).  What is shown of every
statement is shown of the forms first.
-/
import DoubleEntry.Store.Work

namespace DoubleEntry

open DoubleEntry.Text

/-! ### Sequences -/

namespace Sequences

/-- No sequence is behind the other. -/
instance : LE Sequences where
  le a b := a.account ≤ b.account ∧ a.entry ≤ b.entry ∧ a.transfer ≤ b.transfer ∧
    a.verification ≤ b.verification

/-- Each sequence has a next id. -/
structure Available (s : Sequences) : Prop where
  account : s.account < 9223372036854775807
  entry : s.entry < 9223372036854775807
  transfer : s.transfer < 9223372036854775807
  verification : s.verification < 9223372036854775807

variable {a b c : Sequences}

theorem le_refl (a : Sequences) : a ≤ a :=
  ⟨Nat.le_refl _, Nat.le_refl _, Nat.le_refl _, Nat.le_refl _⟩

theorem le_trans (hab : a ≤ b) (hbc : b ≤ c) : a ≤ c :=
  ⟨Nat.le_trans hab.1 hbc.1, Nat.le_trans hab.2.1 hbc.2.1, Nat.le_trans hab.2.2.1 hbc.2.2.1,
    Nat.le_trans hab.2.2.2 hbc.2.2.2⟩

theorem le_antisymm (hab : a ≤ b) (hba : b ≤ a) : a = b := by
  obtain ⟨h₁, h₂, h₃, h₄⟩ := hab
  obtain ⟨k₁, k₂, k₃, k₄⟩ := hba
  cases a
  cases b
  simp only [Sequences.mk.injEq]
  exact ⟨Nat.le_antisymm h₁ k₁, Nat.le_antisymm h₂ k₂, Nat.le_antisymm h₃ k₃,
    Nat.le_antisymm h₄ k₄⟩

end Sequences

/-- The database with other sequences. -/
def Database.withSequences (db : Database) (s : Sequences) : Database :=
  { db with sequences := s }

@[simp] theorem Database.withSequences_rows (db : Database) (s : Sequences) :
    (db.withSequences s).rows = db.rows := rfl

@[simp] theorem Database.withSequences_catalog (db : Database) (s : Sequences) :
    (db.withSequences s).catalog = db.catalog := rfl

/-! ### Next ids -/

/-- A sequence has a next id until the ids of 64 bits are used up. -/
theorem exists_nextId {last : Nat} (h : last < 9223372036854775807) :
    ∃ id, toInt64? (last + 1 : Nat) = some id := by
  rcases hid : toInt64? (last + 1 : Nat) with - | id
  · rw [toInt64?_eq_none_iff] at hid
    omega
  · exact ⟨id, rfl⟩

theorem withNextId_some {α : Type} {last : Nat} {id : Int64}
    (h : toInt64? (last + 1 : Nat) = some id) (db : Database) (p : Int64 → Performed α) :
    withNextId last db p = p id := by
  rw [withNextId, h]
  rfl

theorem withNextId_none {α : Type} {last : Nat} (h : toInt64? (last + 1 : Nat) = none)
    (db : Database) (p : Int64 → Performed α) :
    withNextId last db p = .refused (.database .sequenceExhausted) db := by
  rw [withNextId, h]
  rfl

/-! ### Proper statements -/

namespace Performed

variable {α : Type} {db : Database}

/-- A statement leaves the catalog alone, its sequences never go back, and
one that answers has not spoiled its transaction. -/
structure Proper (db : Database) (p : Performed α) : Prop where
  catalog : p.db.catalog = db.catalog
  sequences : db.sequences ≤ p.db.sequences
  sound : ∀ a, p.result = .ok a → p.spoils = false

theorem proper_refused (e : Error) {db' : Database} (hc : db'.catalog = db.catalog)
    (hs : db.sequences ≤ db'.sequences) : (refused e db' : Performed α).Proper db where
  catalog := hc
  sequences := hs
  sound := by
    intro a h
    cases h

theorem proper_missing (what : Missing) : (missing what db : Performed α).Proper db where
  catalog := rfl
  sequences := Sequences.le_refl _
  sound _ _ := rfl

theorem proper_reading (r : Except Fault α) {db' : Database} (hc : db'.catalog = db.catalog)
    (hs : db.sequences ≤ db'.sequences) : (reading r db').Proper db where
  catalog := hc
  sequences := hs
  sound _ _ := rfl

theorem proper_withTable (table : Table) {p : Performed α} (h : p.Proper db) :
    (withTable table db p).Proper db := by
  unfold withTable
  split
  · exact h
  · exact proper_refused _ rfl (Sequences.le_refl _)

theorem proper_withNextId (last : Nat) {p : Int64 → Performed α} (h : ∀ id, (p id).Proper db) :
    (withNextId last db p).Proper db := by
  unfold withNextId
  generalize toInt64? (last + 1 : Nat) = next
  cases next with
  | some id => exact h id
  | none => exact proper_refused _ rfl (Sequences.le_refl _)

theorem proper_findRow {ρ : Type} (table : Table) (row? : Option ρ) (read : ρ → Except Fault α)
    (what : Missing) : (findRow table row? read what db).Proper db := by
  refine proper_withTable _ ?_
  cases row? with
  | none => exact proper_missing _
  | some row => exact proper_reading _ rfl (Sequences.le_refl _)

theorem proper_readPage {ρ : Type} (read : ρ → Except Fault α) (page : Page) (rows : List ρ) :
    (readPage read page rows db).Proper db := by
  unfold readPage
  split
  · exact proper_refused _ rfl (Sequences.le_refl _)
  · exact proper_reading _ rfl (Sequences.le_refl _)

/-- A row that is not there is not found. -/
theorem findRow_none {ρ : Type} {table : Table} (h : db.catalog.hasTable table.name = true)
    (read : ρ → Except Fault α) (what : Missing) :
    findRow table none read what db = missing what db :=
  if_pos h

end Performed

open Performed

/-- Every statement is proper. -/
theorem perform_proper (now : Instant) (q : Query) (db : Database) :
    (q.perform now db).Proper db := by
  have hseq : ∀ s : Sequences, s ≤ s := Sequences.le_refl
  cases q with
  | createAccount owner balance currency =>
      refine proper_withTable _ (proper_withNextId _ fun id => proper_reading _ rfl ?_)
      exact ⟨Nat.le_succ _, Nat.le_refl _, Nat.le_refl _, Nat.le_refl _⟩
  | createEntry accountId amount =>
      refine proper_withTable _ (proper_withNextId _ fun id => proper_reading _ rfl ?_)
      exact ⟨Nat.le_refl _, Nat.le_succ _, Nat.le_refl _, Nat.le_refl _⟩
  | createTransfer request =>
      have hdraw : db.sequences ≤
          { db.sequences with transfer := db.sequences.transfer + 1 } :=
        ⟨Nat.le_refl _, Nat.le_refl _, Nat.le_succ _, Nat.le_refl _⟩
      refine proper_withTable _ (proper_withNextId _ fun id => ?_)
      dsimp only
      split
      · exact proper_reading _ rfl hdraw
      · exact proper_refused _ rfl hdraw
  | createVerification username email secretCode lifetime =>
      refine proper_withTable _ (proper_withNextId _ fun id => proper_reading _ rfl ?_)
      exact ⟨Nat.le_refl _, Nat.le_refl _, Nat.le_refl _, Nat.le_succ _⟩
  | createUser username fullName email =>
      refine proper_withTable _ ?_
      split
      · exact proper_refused _ rfl (hseq _)
      · exact proper_reading _ rfl (hseq _)
  | account id | accountForUpdate id | entry id | transfer id | user username | verification id =>
      exact proper_findRow _ _ _ _
  | accounts owner page | entries accountId page | transfers accountId page =>
      exact proper_withTable _ (proper_readPage _ _ _)
  | addBalance id amount =>
      refine proper_withTable _ ?_
      split
      · exact proper_missing _
      · split
        · exact proper_refused _ rfl (hseq _)
        · exact proper_reading _ rfl (hseq _)
  | deleteAccount id | updateUser username fullName isEmailVerified
  | updateVerification id isUsed =>
      refine proper_withTable _ ?_
      split
      · exact proper_missing _
      · exact proper_reading _ rfl (hseq _)

/-! ### Queries by themselves -/

/-- A query that is not impossible ends as its statement does. -/
theorem submit_of_perform {now : Instant} {q : Query} {db : Database} {p : Performed q.Answer}
    (hpossible : q.isImpossible now = false) (h : q.perform now db = p) :
    submit now q db = { outcome := .ofExcept p.result, db := p.db } := by
  rw [← h]
  exact if_neg (Bool.eq_false_iff.mp hpossible)

/-- A submitted query leaves what its statement leaves, or has not run. -/
theorem submit_db (now : Instant) (q : Query) (db : Database) :
    (submit now q db).db = db ∨ (submit now q db).db = (q.perform now db).db := by
  unfold submit
  split
  · exact .inl rfl
  · exact .inr rfl

end DoubleEntry
