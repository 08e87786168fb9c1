/-
DoubleEntry/Proofs/Store/Answers.lean

When a query is answered, and what it has done then.  `Performed.Answers`
says that a statement gave an answer and left a database; for each query of
the accounts, the entries and the transfers there is one equivalence that
opens it up.  A longer unit of work is opened statement by statement, by
`submitEach_query_bind` and `submitEach_check_bind`.
-/
import DoubleEntry.Proofs.Store.Statement
import DoubleEntry.Proofs.Store.Written

namespace DoubleEntry

open DoubleEntry.Text

/-! ### Answers of statements -/

namespace Performed

variable {α : Type} {a : α} {db db' : Database} {p : Performed α}

/-- The statement gave an answer and left a database. -/
def Answers (p : Performed α) (a : α) (db' : Database) : Prop :=
  p.result = .ok a ∧ p.db = db'

theorem not_answers_refused (e : Error) : ¬ (refused e db : Performed α).Answers a db' := by
  rintro ⟨h, -⟩
  cases h

theorem not_answers_missing (what : Missing) :
    ¬ (missing what db : Performed α).Answers a db' := by
  rintro ⟨h, -⟩
  cases h

theorem answers_reading_iff {r : Except Fault α} :
    (reading r db).Answers a db' ↔ r = .ok a ∧ db' = db := by
  unfold Answers reading
  cases r with
  | ok b => simp only [Except.mapError, Except.ok.injEq, eq_comm]
  | error e => simp only [Except.mapError, reduceCtorEq, false_and]

theorem answers_withTable_iff {table : Table} :
    (withTable table db p).Answers a db' ↔
      db.catalog.hasTable table.name = true ∧ p.Answers a db' := by
  unfold withTable
  split
  case isTrue htable => simp only [htable, true_and]
  case isFalse htable => simp only [htable, false_and, not_answers_refused, Bool.false_eq_true]

/-- A row that is looked up has to be there, and to be legible. -/
theorem answers_findRow_iff {ρ : Type} {table : Table} {row? : Option ρ}
    {read : ρ → Except Fault α} {what : Missing} :
    (findRow table row? read what db).Answers a db' ↔
      db.catalog.hasTable table.name = true ∧
        ∃ row, row? = some row ∧ read row = .ok a ∧ db' = db := by
  unfold findRow
  rw [answers_withTable_iff]
  refine and_congr_right fun _ => ?_
  cases row? with
  | none => simp only [not_answers_missing, reduceCtorEq, false_and, exists_false]
  | some row => simp only [answers_reading_iff, Option.some.injEq, exists_eq_left']

theorem answers_withNextId_iff {last : Nat} {p : Int64 → Performed α} :
    (withNextId last db p).Answers a db' ↔
      ∃ id : Int64, id.toInt = last + 1 ∧ (p id).Answers a db' := by
  rcases hid : toInt64? (last + 1 : Nat) with - | id
  · rw [withNextId_none hid]
    refine ⟨fun h => absurd h (not_answers_refused _), ?_⟩
    rintro ⟨id, hlast, -⟩
    have hcast : ((last + 1 : Nat) : Int) = last + 1 := Int.natCast_add last 1
    have hsome := toInt64?_toInt id
    rw [hlast, ← hcast, hid] at hsome
    cases hsome
  · rw [withNextId_some hid]
    have hlast : id.toInt = last + 1 := toInt_of_toInt64? hid
    refine ⟨fun h => ⟨id, hlast, h⟩, ?_⟩
    rintro ⟨id', hlast', h⟩
    rw [Int64.toInt_inj.mp (hlast.trans hlast'.symm)]
    exact h

theorem answers_readPage_iff {ρ : Type} {read : ρ → Except Fault α} {page : Page}
    {rows : List ρ} {as : List α} :
    (readPage read page rows db).Answers as db' ↔
      0 ≤ page.limit.toInt ∧ 0 ≤ page.offset.toInt ∧
        (page.select rows).mapM read = .ok as ∧ db' = db := by
  unfold readPage
  split
  case isTrue hbad =>
    refine ⟨fun h => absurd h (not_answers_refused _), ?_⟩
    rintro ⟨hlimit, hoffset, -⟩
    omega
  case isFalse hgood =>
    rw [answers_reading_iff]
    have hlimit : 0 ≤ page.limit.toInt := by omega
    have hoffset : 0 ≤ page.offset.toInt := by omega
    simp only [hlimit, hoffset, true_and]

end Performed

open Performed

variable {now : Instant} {db db' : Database}

/-! ### Accounts -/

/-- The database with a new account, under an id that was drawn. -/
def Database.addAccount (db : Database) (row : AccountRow) : Database :=
  { db with
    rows := { db.rows with accounts := db.rows.accounts ++ [row] }
    sequences := { db.sequences with account := db.sequences.account + 1 } }

theorem answers_createAccount_iff {owner : String} {balance : Int64} {currency : Currency}
    {a : Account} :
    (createAccount now owner balance currency db).Answers a db' ↔
      db.catalog.hasTable Migration.accountTable.name = true ∧
        ∃ id : Int64, id.toInt = db.sequences.account + 1 ∧
          (AccountRow.written now id owner balance currency).read = .ok a ∧
          db' = db.addAccount (.written now id owner balance currency) := by
  unfold createAccount
  rw [answers_withTable_iff, answers_withNextId_iff]
  refine and_congr_right fun _ => exists_congr fun id => and_congr_right fun _ => ?_
  exact answers_reading_iff

/-- At a regular instant a new account is refused before it is stored, or it
is stored and can be read. -/
theorem createAccount_answers (h : now.IsRegular) (owner : String) (balance : Int64)
    (currency : Currency) (db : Database) :
    (∃ a db', (createAccount now owner balance currency db).Answers a db') ∨
      ∃ e, createAccount now owner balance currency db = refused e db := by
  by_cases htable : db.catalog.hasTable Migration.accountTable.name = true
  · rcases hid : toInt64? (db.sequences.account + 1 : Nat) with - | id
    · right
      unfold createAccount withTable
      rw [if_pos htable, withNextId_none hid]
      exact ⟨_, rfl⟩
    · left
      have hread := AccountRow.read_written h id owner balance currency
      refine ⟨_, _, answers_createAccount_iff.mpr ⟨htable, id, ?_, hread, rfl⟩⟩
      exact toInt_of_toInt64? hid
  · right
    unfold createAccount withTable
    rw [if_neg htable]
    exact ⟨_, rfl⟩

/-- A row that is found is one of the table, and has the id. -/
theorem Rows.account?_eq_some {rows : Rows} {id : Int64} {row : AccountRow}
    (h : rows.account? id = some row) : row ∈ rows.accounts ∧ row.id = id := by
  unfold Rows.account? at h
  have hid := List.find?_some h
  exact ⟨List.mem_of_find?_eq_some h, of_decide_eq_true hid⟩

theorem answers_findAccount_iff {id : Int64} {a : Account} :
    (findAccount id db).Answers a db' ↔
      db.catalog.hasTable Migration.accountTable.name = true ∧
        ∃ row, db.rows.account? id = some row ∧ row.read = .ok a ∧ db' = db :=
  answers_findRow_iff

/-- The rows with another row for an account. -/
def Rows.replaceAccount (rows : Rows) (row : AccountRow) : Rows :=
  { rows with accounts := rows.accounts.map fun r => if r.id = row.id then row else r }

theorem answers_addBalance_iff {id amount : Int64} {a : Account} :
    (addBalance id amount db).Answers a db' ↔
      db.catalog.hasTable Migration.accountTable.name = true ∧
        ∃ row balance, db.rows.account? id = some row ∧
          balance.toInt = row.balance.toInt + amount.toInt ∧
          { row with balance }.read = .ok a ∧
          db' = db.withRows (db.rows.replaceAccount { row with balance }) := by
  unfold addBalance
  rw [answers_withTable_iff]
  refine and_congr_right fun _ => ?_
  cases hrow : db.rows.account? id with
  | none => simp only [not_answers_missing, reduceCtorEq, false_and, exists_false]
  | some row =>
      obtain ⟨-, rfl⟩ := Rows.account?_eq_some hrow
      simp only [Option.some.injEq, exists_and_left, exists_eq_left']
      rcases hsum : checkedAdd row.balance amount with - | balance
      · -- the sum is out of range, so no balance is that sum
        refine ⟨fun h => absurd h (not_answers_refused _), ?_⟩
        rintro ⟨balance, hbalance, -⟩
        have hsome := toInt64?_toInt balance
        rw [hbalance] at hsome
        rw [checkedAdd, hsome] at hsum
        cases hsum
      · have hbalance : balance.toInt = row.balance.toInt + amount.toInt :=
          toInt_of_toInt64? hsum
        refine ⟨fun h => ?_, ?_⟩
        · obtain ⟨hread, rfl⟩ := answers_reading_iff.mp h
          exact ⟨balance, hbalance, hread, rfl⟩
        · rintro ⟨balance', hbalance', hread, rfl⟩
          obtain rfl := Int64.toInt_inj.mp (hbalance'.trans hbalance.symm)
          exact answers_reading_iff.mpr ⟨hread, rfl⟩

/-- The rows without an account. -/
def Rows.removeAccount (rows : Rows) (id : Int64) : Rows :=
  { rows with accounts := rows.accounts.filter fun r => r.id ≠ id }

theorem answers_deleteAccount_iff {id : Int64} {a : Unit} :
    (deleteAccount id db).Answers a db' ↔
      db.catalog.hasTable Migration.accountTable.name = true ∧
        (∃ row, db.rows.account? id = some row) ∧
          db' = db.withRows (db.rows.removeAccount id) := by
  unfold deleteAccount
  rw [answers_withTable_iff]
  refine and_congr_right fun _ => ?_
  cases db.rows.account? id with
  | none => simp only [not_answers_missing, reduceCtorEq, exists_false, false_and]
  | some row =>
      simp only [answers_reading_iff, true_and, Option.some.injEq, exists_eq']
      rfl

/-! ### Entries and transfers -/

/-- The database with a new entry, under an id that was drawn. -/
def Database.addEntry (db : Database) (row : EntryRow) : Database :=
  { db with
    rows := { db.rows with entries := db.rows.entries ++ [row] }
    sequences := { db.sequences with entry := db.sequences.entry + 1 } }

theorem answers_createEntry_iff {accountId amount : Int64} {e : Entry} :
    (createEntry now accountId amount db).Answers e db' ↔
      db.catalog.hasTable Migration.entryTable.name = true ∧
        ∃ id : Int64, id.toInt = db.sequences.entry + 1 ∧
          (EntryRow.written now id accountId amount).read = .ok e ∧
          db' = db.addEntry (.written now id accountId amount) := by
  unfold createEntry
  rw [answers_withTable_iff, answers_withNextId_iff]
  refine and_congr_right fun _ => exists_congr fun id => and_congr_right fun _ => ?_
  exact answers_reading_iff

theorem answers_findEntry_iff {id : Int64} {e : Entry} :
    (findEntry id db).Answers e db' ↔
      db.catalog.hasTable Migration.entryTable.name = true ∧
        ∃ row, (db.rows.entries.find? fun r => r.id = id) = some row ∧ row.read = .ok e ∧
          db' = db :=
  answers_findRow_iff

theorem answers_listEntries_iff {accountId : Int64} {page : Page} {es : List Entry} :
    (listEntries accountId page db).Answers es db' ↔
      db.catalog.hasTable Migration.entryTable.name = true ∧
        0 ≤ page.limit.toInt ∧ 0 ≤ page.offset.toInt ∧
          (page.select (db.rows.entries.filter fun r => r.accountId = accountId)).mapM
            EntryRow.read = .ok es ∧ db' = db := by
  unfold listEntries
  rw [answers_withTable_iff, answers_readPage_iff]

/-- The database with a new transfer, under an id that was drawn. -/
def Database.addTransfer (db : Database) (row : TransferRow) : Database :=
  { db with
    rows := { db.rows with transfers := db.rows.transfers ++ [row] }
    sequences := { db.sequences with transfer := db.sequences.transfer + 1 } }

theorem answers_createTransfer_iff {r : TransferRequest} {t : Transfer} :
    (createTransfer now r db).Answers t db' ↔
      db.catalog.hasTable Migration.transferTable.name = true ∧
        ∃ id : Int64, id.toInt = db.sequences.transfer + 1 ∧ 0 < r.amount.toInt ∧
          (TransferRow.written now id r).read = .ok t ∧
          db' = db.addTransfer (.written now id r) := by
  unfold createTransfer
  rw [answers_withTable_iff, answers_withNextId_iff]
  refine and_congr_right fun _ => exists_congr fun id => and_congr_right fun _ => ?_
  dsimp only
  split
  case isTrue hamount =>
    simp only [hamount, true_and]
    exact answers_reading_iff
  case isFalse hamount => simp only [hamount, not_answers_refused, false_and]

theorem answers_findTransfer_iff {id : Int64} {t : Transfer} :
    (findTransfer id db).Answers t db' ↔
      db.catalog.hasTable Migration.transferTable.name = true ∧
        ∃ row, (db.rows.transfers.find? fun r => r.id = id) = some row ∧ row.read = .ok t ∧
          db' = db :=
  answers_findRow_iff

/-! ### Queries by themselves -/

/-- A query that is submitted answers when its statement does. -/
theorem submit_ok_iff {q : Query} {a : q.Answer} :
    submit now q db = { outcome := .ok a, db := db' } ↔
      q.isImpossible now = false ∧ (q.perform now db).Answers a db' := by
  unfold submit Answers
  cases himpossible : q.isImpossible now with
  | true =>
      simp only [if_true, Ran.mk.injEq, reduceCtorEq, false_and]
  | false =>
      simp only [Bool.false_eq_true, if_false, Ran.mk.injEq, true_and]
      refine and_congr_left fun _ => ?_
      cases (q.perform now db).result with
      | ok b => simp only [Outcome.ofExcept, Outcome.ok.injEq, Except.ok.injEq]
      | error e => simp only [Outcome.ofExcept, reduceCtorEq]

theorem submit_outcome_ok_iff {q : Query} {a : q.Answer} :
    (submit now q db).outcome = .ok a ↔
      q.isImpossible now = false ∧ (q.perform now db).result = .ok a := by
  constructor
  · intro h
    have hsubmit : submit now q db = { outcome := .ok a, db := (submit now q db).db } := by rw [← h]
    obtain ⟨hpossible, hresult, -⟩ := submit_ok_iff.mp hsubmit
    exact ⟨hpossible, hresult⟩
  · rintro ⟨hpossible, hresult⟩
    have hsubmit := submit_ok_iff.mpr ⟨hpossible, hresult, rfl⟩
    rw [hsubmit]

/-! ### Work by itself -/

namespace Work

variable {α : Type} {clock : Nat → Instant} {v : α}

/-- A unit of one query answers when the query does. -/
theorem submitEach_query {q : Query} {a : q.Answer} :
    (query q).submitEach clock db = { outcome := .ok a, db := db' } ↔
      submit (clock 0) q db = { outcome := .ok a, db := db' } := by
  simp only [query, submitEach]
  rcases submit (clock 0) q db with ⟨outcome, db₁⟩
  cases outcome <;> rfl

/-- A unit that starts with a query answers when the query does and then the
rest, from where the query left the database. -/
theorem submitEach_query_bind {q : Query} {f : q.Answer → Work α} :
    (query q >>= f).submitEach clock db = { outcome := .ok v, db := db' } ↔
      ∃ a db₁, submit (clock 0) q db = { outcome := .ok a, db := db₁ } ∧
        (f a).submitEach (fun n => clock (n + 1)) db₁ = { outcome := .ok v, db := db' } := by
  have hcall : query q >>= f = call q f := rfl
  rw [hcall]
  simp only [submitEach]
  rcases submit (clock 0) q db with ⟨outcome, db₁⟩
  cases outcome with
  | ok a =>
      simp only [Ran.mk.injEq, Outcome.ok.injEq]
      refine ⟨fun h => ⟨a, db₁, ⟨rfl, rfl⟩, h⟩, ?_⟩
      rintro ⟨_, _, ⟨rfl, rfl⟩, h⟩
      exact h
  | error e => simp only [Ran.mk.injEq, reduceCtorEq, false_and, exists_false]
  | crash => simp only [Ran.mk.injEq, reduceCtorEq, false_and, exists_false]

/-- A unit that starts with a condition answers when the condition holds and
the rest answers. -/
theorem submitEach_check_bind {β : Type} {r : Except Error β} {f : β → Work α} :
    (check r >>= f).submitEach clock db = { outcome := .ok v, db := db' } ↔
      ∃ b, r = .ok b ∧ (f b).submitEach clock db = { outcome := .ok v, db := db' } := by
  cases r with
  | ok b => simp only [Except.ok.injEq, exists_eq_left']; rfl
  | error e =>
      have hfail : check (.error e) >>= f = fail e := rfl
      simp only [hfail, submitEach, Ran.mk.injEq, reduceCtorEq, false_and, exists_false]

/-- A unit behind another starts when that one has answered, at a later
reading of the clock. -/
theorem submitEach_bind {β : Type} {w : Work β} {f : β → Work α}
    (h : (w >>= f).submitEach clock db = { outcome := .ok v, db := db' }) :
    ∃ b db₁ k, w.submitEach clock db = { outcome := .ok b, db := db₁ } ∧
      (f b).submitEach (fun n => clock (n + k)) db₁ = { outcome := .ok v, db := db' } := by
  induction w generalizing clock db with
  | done b => exact ⟨b, db, 0, rfl, h⟩
  | fail e => cases h
  | crash => cases h
  | cancel next ih => exact ih h
  | call q next ih =>
      have hcall : call q next >>= f = query q >>= fun a => next a >>= f := rfl
      rw [hcall, submitEach_query_bind] at h
      obtain ⟨a, db₁, hquery, h⟩ := h
      -- one more reading for the query in front
      obtain ⟨b, db₂, k, hnext, h⟩ := ih a h
      refine ⟨b, db₂, k + 1, ?_, h⟩
      have hcons : call q next = query q >>= next := rfl
      rw [hcons, submitEach_query_bind]
      exact ⟨a, db₁, hquery, hnext⟩

end Work

end DoubleEntry
