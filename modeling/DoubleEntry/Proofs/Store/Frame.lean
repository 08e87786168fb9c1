/-
DoubleEntry/Proofs/Store/Frame.lean

What a query leaves alone, and with it every unit made of such queries.
`Work.Issues P` says that a unit issues only queries of which `P` holds.  A
relation that each of these keeps is kept by the unit, whether it is run by
itself or in a transaction (`submitEach_keeps`, `execute_keeps`).

* `Database.Succeeds`: no query at all touches the catalog, and none sets a
  sequence back.
* `Rows.SameLedger`: only five queries touch the accounts, the entries or the
  transfers.
-/
import DoubleEntry.Proofs.Store.Atomicity

namespace DoubleEntry

variable {α : Type} {db db' : Database}

/-! ### Units made of certain queries -/

namespace Work

variable {P : Query → Prop} {R : Database → Database → Prop}

/-- Every query that the unit may issue is one of these. -/
def Issues (P : Query → Prop) : Work α → Prop
  | done _ => True
  | fail _ => True
  | crash => True
  | cancel next => next.Issues P
  | call q next => P q ∧ ∀ a, (next a).Issues P

theorem issues_query {q : Query} (hq : P q) : (query q).Issues P :=
  ⟨hq, fun _ => trivial⟩

theorem issues_query_bind {q : Query} {f : q.Answer → Work α} (hq : P q)
    (hf : ∀ a, (f a).Issues P) : (query q >>= f).Issues P :=
  ⟨hq, hf⟩

/-- Behind a condition it is known that the condition holds. -/
theorem issues_check_bind {β : Type} {r : Except Error β} {f : β → Work α}
    (hf : ∀ b, r = .ok b → (f b).Issues P) : (check r >>= f).Issues P := by
  cases r with
  | ok b => exact hf b rfl
  | error e => trivial

theorem issues_bind {β : Type} {w : Work β} {f : β → Work α} (hw : w.Issues P)
    (hf : ∀ b, (f b).Issues P) : (w >>= f).Issues P := by
  induction w with
  | done b => exact hf b
  | fail e => trivial
  | crash => trivial
  | cancel next ih => exact ih hw
  | call q next ih => exact ⟨hw.1, fun a => ih a (hw.2 a)⟩

theorem Issues.imp {P' : Query → Prop} {w : Work α} (hw : w.Issues P) (h : ∀ q, P q → P' q) :
    w.Issues P' := by
  induction w with
  | done a => trivial
  | fail e => trivial
  | crash => trivial
  | cancel next ih => exact ih hw
  | call q next ih => exact ⟨h q hw.1, fun a => ih a (hw.2 a)⟩

theorem issues_true (w : Work α) : w.Issues fun _ => True := by
  induction w with
  | done a => trivial
  | fail e => trivial
  | crash => trivial
  | cancel next ih => exact ih
  | call q next ih => exact ⟨trivial, ih⟩

/-- Run by itself, a unit keeps what its queries keep. -/
theorem submitEach_keeps {w : Work α} (hw : w.Issues P) (hrefl : ∀ db, R db db)
    (htrans : ∀ {db₁ db₂ db₃}, R db₁ db₂ → R db₂ db₃ → R db₁ db₃)
    (hP : ∀ q, P q → ∀ now db, R db (q.perform now db).db) (clock : Nat → Instant)
    (db : Database) : R db (w.submitEach clock db).db := by
  induction w generalizing clock db with
  | done a => exact hrefl db
  | fail e => exact hrefl db
  | crash => exact hrefl db
  | cancel next ih => exact ih hw clock db
  | call q next ih =>
      obtain ⟨hq, hnext⟩ := hw
      have hsubmit : R db (submit (clock 0) q db).db := by
        rcases submit_db (clock 0) q db with hdb | hdb
        · rw [hdb]
          exact hrefl db
        · rw [hdb]
          exact hP q hq _ db
      simp only [submitEach]
      generalize submit (clock 0) q db = ran at hsubmit
      obtain ⟨outcome, db₁⟩ := ran
      cases outcome with
      | ok a => exact htrans hsubmit (ih a (hnext a) _ db₁)
      | error e => exact hsubmit
      | crash => exact hsubmit

/-- So it does in a transaction, kept or not, if gone ids do not matter. -/
theorem execute_keeps {w : Work α} (hw : w.Issues P) (hrefl : ∀ db, R db db)
    (htrans : ∀ {db₁ db₂ db₃}, R db₁ db₂ → R db₂ db₃ → R db₁ db₃)
    (hsequences : ∀ db s, db.sequences ≤ s → R db (db.withSequences s))
    (hP : ∀ q, P q → ∀ now db, R db (q.perform now db).db) (env : Surroundings)
    (token : CancelToken) (db : Database) : R db (w.execute env token db).db := by
  by_cases hok : ∃ v, (w.execute env token db).outcome = .ok v
  · -- a unit that is kept has been run by itself
    obtain ⟨v, hv⟩ := hok
    have hkept := submitEach_keeps hw hrefl htrans hP env.clock db
    rw [execute_kept hv] at hkept
    exact hkept
  · obtain ⟨s, hs, hdb⟩ := execute_undone fun v hv => hok ⟨v, hv⟩
    rw [hdb]
    exact hsequences db s hs

end Work

/-! ### Catalog and sequences -/

/-- Work leaves the catalog alone, and its sequences do not go back. -/
structure Database.Succeeds (db db' : Database) : Prop where
  catalog : db'.catalog = db.catalog
  sequences : db.sequences ≤ db'.sequences

namespace Database.Succeeds

theorem refl (db : Database) : db.Succeeds db :=
  ⟨rfl, Sequences.le_refl _⟩

theorem trans {db₁ db₂ db₃ : Database} (h : db₁.Succeeds db₂) (h' : db₂.Succeeds db₃) :
    db₁.Succeeds db₃ :=
  ⟨h'.catalog.trans h.catalog, Sequences.le_trans h.sequences h'.sequences⟩

theorem perform (q : Query) (now : Instant) (db : Database) :
    db.Succeeds (q.perform now db).db :=
  ⟨(perform_proper now q db).catalog, (perform_proper now q db).sequences⟩

theorem submit (now : Instant) (q : Query) (db : Database) :
    db.Succeeds (submit now q db).db := by
  rcases submit_db now q db with hdb | hdb
  · rw [hdb]
    exact .refl db
  · rw [hdb]
    exact .perform q now db

theorem submitEach (w : Work α) (clock : Nat → Instant) (db : Database) :
    db.Succeeds (w.submitEach clock db).db :=
  w.submitEach_keeps w.issues_true refl trans (fun q _ => perform q) clock db

theorem execute (w : Work α) (env : Surroundings) (token : CancelToken) (db : Database) :
    db.Succeeds (w.execute env token db).db :=
  w.execute_keeps w.issues_true refl trans (fun _ _ hs => ⟨rfl, hs⟩) (fun q _ => perform q) env
    token db

end Database.Succeeds

/-! ### Accounts, entries and transfers -/

/-- The same accounts, entries and transfers. -/
structure Rows.SameLedger (r r' : Rows) : Prop where
  accounts : r'.accounts = r.accounts
  entries : r'.entries = r.entries
  transfers : r'.transfers = r.transfers

namespace Rows.SameLedger

theorem refl (r : Rows) : r.SameLedger r :=
  ⟨rfl, rfl, rfl⟩

theorem trans {r₁ r₂ r₃ : Rows} (h : r₁.SameLedger r₂) (h' : r₂.SameLedger r₃) :
    r₁.SameLedger r₃ :=
  ⟨h'.accounts.trans h.accounts, h'.entries.trans h.entries, h'.transfers.trans h.transfers⟩

end Rows.SameLedger

/-- Whether a query changes accounts, entries or transfers. -/
def Query.movesMoney : Query → Bool
  | .createAccount .. | .addBalance .. | .deleteAccount .. => true
  | .createEntry .. | .createTransfer .. => true
  | _ => false

open Performed

/-- What holds of the database and of what a statement leaves holds of what it
leaves on a table. -/
theorem withTable_db {motive : Database → Prop} {table : Table} {p : Performed α}
    (hdb : motive db) (hp : motive p.db) : motive (withTable table db p).db := by
  unfold withTable
  split
  · exact hp
  · exact hdb

theorem withNextId_db {motive : Database → Prop} {last : Nat} {p : Int64 → Performed α}
    (hdb : motive db) (hp : ∀ id, motive (p id).db) : motive (withNextId last db p).db := by
  unfold withNextId
  generalize Text.toInt64? (last + 1 : Nat) = next
  cases next with
  | some id => exact hp id
  | none => exact hdb

theorem readPage_db {ρ : Type} (read : ρ → Except Fault α) (page : Page) (rows : List ρ)
    (db : Database) : (readPage read page rows db).db = db := by
  unfold readPage
  split <;> rfl

/-- All other queries leave these tables as they are. -/
theorem perform_sameLedger {q : Query} (hq : q.movesMoney = false) (now : Instant)
    (db : Database) : db.rows.SameLedger (q.perform now db).db.rows := by
  have hrefl := Rows.SameLedger.refl db.rows
  cases q with
  | createAccount owner balance currency => cases hq
  | addBalance id amount => cases hq
  | deleteAccount id => cases hq
  | createEntry accountId amount => cases hq
  | createTransfer request => cases hq
  | account id | accountForUpdate id | entry id | transfer id | user username | verification id =>
      apply withTable_db (motive := fun d => db.rows.SameLedger d.rows) hrefl
      split <;> exact hrefl
  | accounts owner page | entries accountId page | transfers accountId page =>
      apply withTable_db (motive := fun d => db.rows.SameLedger d.rows) hrefl
      rw [readPage_db]
      exact hrefl
  | createUser username fullName email =>
      apply withTable_db (motive := fun d => db.rows.SameLedger d.rows) hrefl
      split
      · exact hrefl
      · exact ⟨rfl, rfl, rfl⟩
  | createVerification username email secretCode lifetime =>
      apply withTable_db (motive := fun d => db.rows.SameLedger d.rows) hrefl
      apply withNextId_db (motive := fun d => db.rows.SameLedger d.rows) hrefl
      intro id
      exact ⟨rfl, rfl, rfl⟩
  | updateUser username fullName isEmailVerified | updateVerification id isUsed =>
      apply withTable_db (motive := fun d => db.rows.SameLedger d.rows) hrefl
      split
      · exact hrefl
      · exact ⟨rfl, rfl, rfl⟩

theorem submit_sameLedger {q : Query} (hq : q.movesMoney = false) (now : Instant)
    (db : Database) : db.rows.SameLedger (submit now q db).db.rows := by
  rcases submit_db now q db with hdb | hdb
  · rw [hdb]
    exact .refl db.rows
  · rw [hdb]
    exact perform_sameLedger hq now db

/-- A unit of such queries leaves them as they are. -/
theorem Work.submitEach_sameLedger {w : Work α} (hw : w.Issues (·.movesMoney = false))
    (clock : Nat → Instant) (db : Database) :
    db.rows.SameLedger (w.submitEach clock db).db.rows :=
  submitEach_keeps (R := fun d d' => d.rows.SameLedger d'.rows) hw (fun _ => .refl _) .trans
    (fun _ hq => perform_sameLedger hq) clock db

theorem Work.execute_sameLedger {w : Work α} (hw : w.Issues (·.movesMoney = false))
    (env : Surroundings) (token : CancelToken) (db : Database) :
    db.rows.SameLedger (w.execute env token db).db.rows :=
  execute_keeps (R := fun d d' => d.rows.SameLedger d'.rows) hw (fun _ => .refl _) .trans
    (fun _ _ _ => .refl _) (fun _ hq => perform_sameLedger hq) env token db

end DoubleEntry
