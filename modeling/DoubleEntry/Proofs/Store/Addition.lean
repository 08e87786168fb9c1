/-
DoubleEntry/Proofs/Store/Addition.lean

Adding to a balance, in full.  `Rows.additionError?` says from the rows alone
why an amount cannot be added to the balance of an account; where nothing
stands against it, the row is replaced by one with the new balance
(`submit_addBalance`).  An addition to one account leaves the others, and
what can be added to them, as they were (`account?_replaceAccount_of_ne`,
`additionError?_replaceAccount`).
-/
import DoubleEntry.Proofs.Store.Answers

namespace DoubleEntry

open DoubleEntry.Text
open Performed

variable {now : Instant} {db db' : Database} {rows : Rows} {row : AccountRow} {id amount : Int64}

/-! ### Why an addition fails -/

/-- Why an amount cannot be added to the balance of an account: there is no
such account, or the sum leaves 64 bits. -/
def Rows.additionError? (rows : Rows) (id amount : Int64) : Option Error :=
  match rows.account? id with
  | none => some (.notFound (.account id))
  | some row =>
      if -9223372036854775808 ≤ row.balance.toInt + amount.toInt ∧
          row.balance.toInt + amount.toInt ≤ 9223372036854775807 then none
      else some (.database .outOfRange)

/-- Nothing stands against an addition to an account that is there when the
sum is within 64 bits. -/
theorem Rows.additionError?_eq_none_iff :
    rows.additionError? id amount = none ↔
      ∃ row, rows.account? id = some row ∧
        -9223372036854775808 ≤ row.balance.toInt + amount.toInt ∧
          row.balance.toInt + amount.toInt ≤ 9223372036854775807 := by
  unfold additionError?
  cases rows.account? id with
  | none => simp
  | some row => simp

/-! ### Replacing a row -/

/-- The rows that are looked up are those that were looked up before, with
the new one in its place. -/
theorem Rows.account?_replaceAccount (rows : Rows) (row : AccountRow) (id : Int64) :
    (rows.replaceAccount row).account? id =
      (rows.account? id).map fun r => if r.id = row.id then row else r := by
  have hsame : (fun r : AccountRow => decide (r.id = id)) ∘
      (fun r => if r.id = row.id then row else r) = fun r => decide (r.id = id) := by
    funext r
    show decide ((if r.id = row.id then row else r).id = id) = decide (r.id = id)
    split
    case isTrue h => rw [h]
    case isFalse h => rfl
  show (rows.accounts.map _).find? _ = _
  rw [List.find?_map, hsame]
  rfl

/-- The new row is found under its id. -/
theorem Rows.account?_replaceAccount_self {old : AccountRow}
    (h : rows.account? row.id = some old) :
    (rows.replaceAccount row).account? row.id = some row := by
  have hid : old.id = row.id := (account?_eq_some h).2
  rw [account?_replaceAccount, h, Option.map_some, if_pos hid]

/-- Under another id the rows are as before. -/
theorem Rows.account?_replaceAccount_of_ne (h : id ≠ row.id) :
    (rows.replaceAccount row).account? id = rows.account? id := by
  rw [account?_replaceAccount]
  cases hrow : rows.account? id with
  | none => rfl
  | some r =>
      have hid : r.id = id := (account?_eq_some hrow).2
      have hne : ¬ r.id = row.id := by
        rw [hid]
        exact h
      rw [Option.map_some, if_neg hne]

/-- What can be added to another account does not change. -/
theorem Rows.additionError?_replaceAccount (h : id ≠ row.id) (amount : Int64) :
    (rows.replaceAccount row).additionError? id amount = rows.additionError? id amount := by
  unfold additionError?
  rw [account?_replaceAccount_of_ne h]

/-! ### Rows that can be read -/

/-- Every account can be read. -/
def Rows.AccountsReadable (rows : Rows) : Prop :=
  ∀ r ∈ rows.accounts, ∃ a, r.read = .ok a

/-- A row can be read whatever its balance is. -/
theorem AccountRow.read_withBalance {a : Account} (h : row.read = .ok a) (balance : Int64) :
    { row with balance }.read = .ok { a with balance } := by
  obtain ⟨hcurrency, hcreated, ha⟩ := read_eq_ok_iff.mp h
  rw [read_eq_ok_iff]
  refine ⟨hcurrency, hcreated, ?_⟩
  rw [ha]

theorem Rows.AccountsReadable.replaceAccount {a : Account} (h : rows.AccountsReadable)
    (hrow : row.read = .ok a) : (rows.replaceAccount row).AccountsReadable := by
  intro r hr
  obtain ⟨r', hr', rfl⟩ := List.mem_map.mp hr
  split
  · exact ⟨a, hrow⟩
  · exact h r' hr'

/-! ### The query -/

/-- An addition that something stands against fails with that, and leaves
everything as it was. -/
theorem submit_addBalance_of_error {e : Error}
    (htable : db.catalog.hasTable Migration.accountTable.name = true)
    (h : db.rows.additionError? id amount = some e) :
    submit now (.addBalance id amount) db = { outcome := .error e, db } := by
  have hperform : ∃ spoils, addBalance id amount db =
      { result := .error e, db := db, spoils := spoils } := by
    unfold addBalance withTable
    rw [if_pos htable]
    unfold Rows.additionError? at h
    cases hrow : db.rows.account? id with
    | none =>
        simp only [hrow, Option.some.injEq] at h
        subst h
        exact ⟨false, rfl⟩
    | some row =>
        simp only [hrow] at h
        split at h
        · cases h
        next hout =>
          have hsum : checkedAdd row.balance amount = none := by
            unfold checkedAdd
            rw [toInt64?_eq_none_iff]
            omega
          simp only [Option.some.injEq] at h
          subst h
          simp only [hsum]
          exact ⟨true, rfl⟩
  obtain ⟨spoils, hperform⟩ := hperform
  exact submit_of_perform (q := .addBalance id amount) rfl hperform

/-- Any other addition is made. -/
theorem submit_addBalance (htable : db.catalog.hasTable Migration.accountTable.name = true)
    (hread : db.rows.AccountsReadable) (h : db.rows.additionError? id amount = none)
    (now : Instant) :
    ∃ row balance a, db.rows.account? id = some row ∧
      balance.toInt = row.balance.toInt + amount.toInt ∧ { row with balance }.read = .ok a ∧
      submit now (.addBalance id amount) db =
        { outcome := .ok a, db := db.withRows (db.rows.replaceAccount { row with balance }) } := by
  obtain ⟨row, hrow, hlow, hhigh⟩ := Rows.additionError?_eq_none_iff.mp h
  rcases hsum : toInt64? (row.balance.toInt + amount.toInt) with - | balance
  · rw [toInt64?_eq_none_iff] at hsum
    omega
  have hbalance : balance.toInt = row.balance.toInt + amount.toInt := toInt_of_toInt64? hsum
  obtain ⟨a, ha⟩ := hread row (Rows.account?_eq_some hrow).1
  have ha' := AccountRow.read_withBalance ha balance
  refine ⟨row, balance, _, hrow, hbalance, ha', ?_⟩
  apply submit_ok_iff.mpr
  exact ⟨rfl, answers_addBalance_iff.mpr ⟨htable, row, balance, hrow, hbalance, ha', rfl⟩⟩

end DoubleEntry
