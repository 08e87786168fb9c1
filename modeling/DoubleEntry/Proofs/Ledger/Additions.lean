/-
DoubleEntry/Proofs/Ledger/Additions.lean

Additions to two balances, the lower account id first.  `pairError?` says
from the rows alone why two amounts cannot be added, and with that which of
several failures is reported: that of the account with the lower id, if it
has one.  Where nothing stands against them, `addMoney` makes both
(`addMoney_of_none`); otherwise it fails with that error (`addMoney_of_some`).
-/
import DoubleEntry.Proofs.Ledger.Units
import DoubleEntry.Proofs.Store.Addition
import DoubleEntry.Proofs.Store.Steady

namespace DoubleEntry.Ledger

variable {db db' : Database} {id₁ id₂ amount₁ amount₂ : Int64} {a₁ a₂ : Account}

/-! ### What was added -/

/-- An account is stored as it was answered. -/
def Stored (rows : Rows) (id : Int64) (a : Account) : Prop :=
  ∃ row, rows.account? id = some row ∧ row.read = .ok a

/-- Two amounts were added to the balances of two accounts, which are stored
as they were answered; nothing else has changed. -/
structure PairAdded (id₁ amount₁ id₂ amount₂ : Int64) (a₁ a₂ : Account) (db db' : Database) :
    Prop where
  frame : db' = db.withRows { db.rows with accounts := db'.rows.accounts }
  accounts : Moved (fun id => movement id₁ amount₁.toInt id + movement id₂ amount₂.toInt id)
    db.rows.accounts db'.rows.accounts
  first : Stored db'.rows id₁ a₁
  second : Stored db'.rows id₂ a₂

/-- It does not matter which of the two is called the first. -/
theorem PairAdded.symm (h : PairAdded id₁ amount₁ id₂ amount₂ a₁ a₂ db db') :
    PairAdded id₂ amount₂ id₁ amount₁ a₂ a₁ db db' where
  frame := h.frame
  accounts := by
    have hcomm : (fun id => movement id₂ amount₂.toInt id + movement id₁ amount₁.toInt id) =
        fun id => movement id₁ amount₁.toInt id + movement id₂ amount₂.toInt id := by
      funext id
      exact Int.add_comm _ _
    rw [hcomm]
    exact h.accounts
  first := h.second
  second := h.first

/-- Why two amounts cannot be added to the balances of two accounts: the
account with the lower id comes first. -/
def pairError? (rows : Rows) (id₁ amount₁ id₂ amount₂ : Int64) : Option Error :=
  if id₁.toInt < id₂.toInt then
    (rows.additionError? id₁ amount₁).or (rows.additionError? id₂ amount₂)
  else (rows.additionError? id₂ amount₂).or (rows.additionError? id₁ amount₁)

theorem pairError?_eq_none_iff (rows : Rows) :
    pairError? rows id₁ amount₁ id₂ amount₂ = none ↔
      rows.additionError? id₁ amount₁ = none ∧ rows.additionError? id₂ amount₂ = none := by
  unfold pairError?
  split
  · exact Option.or_eq_none_iff
  · rw [Option.or_eq_none_iff, and_comm]

/-! ### One addition after the other -/

section InOrder

variable {α : Type} (g : Account → Account → α)

/-- An addition, and then one to another account. -/
def addBoth (id₁ amount₁ id₂ amount₂ : Int64) : Work α := do
  let a₁ ← Work.query (.addBalance id₁ amount₁)
  let a₂ ← Work.query (.addBalance id₂ amount₂)
  return g a₁ a₂

variable (htable : db.catalog.hasTable Migration.accountTable.name = true)
  (hread : db.rows.AccountsReadable) (hne : id₁ ≠ id₂)

include htable hread hne

/-- If something stands against the first addition, or else against the
second, that is the error; no id is drawn. -/
theorem addBoth_of_some {e : Error} (clock : Nat → Instant)
    (h : (db.rows.additionError? id₁ amount₁).or (db.rows.additionError? id₂ amount₂) = some e) :
    ∃ db', (addBoth g id₁ amount₁ id₂ amount₂).submitEach clock db =
        { outcome := .error e, db := db' } ∧ db'.sequences = db.sequences := by
  cases hfirst : db.rows.additionError? id₁ amount₁ with
  | some e₁ =>
      rw [hfirst, Option.some_or, Option.some.injEq] at h
      subst h
      exact ⟨db, Work.submitEach_of_refused _ (submit_addBalance_of_error htable hfirst), rfl⟩
  | none =>
      rw [hfirst, Option.none_or] at h
      obtain ⟨row, balance, a, hrow, -, -, hsubmit⟩ :=
        submit_addBalance htable hread hfirst (clock 0)
      have hid : row.id = id₁ := (Rows.account?_eq_some hrow).2
      -- the first addition has left the other account alone
      have hsecond : (db.rows.replaceAccount { row with balance }).additionError? id₂ amount₂ =
          some e := by
        rw [Rows.additionError?_replaceAccount]
        · exact h
        · show id₂ ≠ row.id
          rw [hid]
          exact hne.symm
      refine ⟨db.withRows (db.rows.replaceAccount { row with balance }), ?_, rfl⟩
      refine (Work.submitEach_of_answered _ hsubmit).trans ?_
      exact Work.submitEach_of_refused _ (submit_addBalance_of_error htable hsecond)

/-- Otherwise both are made. -/
theorem addBoth_of_none (hids : (db.rows.accounts.map (·.id)).Nodup) (clock : Nat → Instant)
    (hfirst : db.rows.additionError? id₁ amount₁ = none)
    (hsecond : db.rows.additionError? id₂ amount₂ = none) :
    ∃ a₁ a₂ db', (addBoth g id₁ amount₁ id₂ amount₂).submitEach clock db =
        { outcome := .ok (g a₁ a₂), db := db' } ∧
      PairAdded id₁ amount₁ id₂ amount₂ a₁ a₂ db db' := by
  obtain ⟨row₁, balance₁, a₁, hrow₁, hbalance₁, hread₁, hsubmit₁⟩ :=
    submit_addBalance htable hread hfirst (clock 0)
  obtain ⟨hmem₁, rfl⟩ := Rows.account?_eq_some hrow₁
  let new₁ : AccountRow := { row₁ with balance := balance₁ }
  let rows₁ := db.rows.replaceAccount new₁
  have hmoved₁ : Moved (movement row₁.id amount₁.toInt) db.rows.accounts rows₁.accounts :=
    moved_replaceAccount hids hmem₁ hbalance₁
  have hsecond₁ : rows₁.additionError? id₂ amount₂ = none := by
    rw [Rows.additionError?_replaceAccount]
    · exact hsecond
    · exact hne.symm
  have htable₁ : (db.withRows rows₁).catalog.hasTable Migration.accountTable.name = true := htable
  obtain ⟨row₂, balance₂, a₂, hrow₂, hbalance₂, hread₂, hsubmit₂⟩ :=
    submit_addBalance htable₁ (hread.replaceAccount hread₁) hsecond₁ (clock 1)
  obtain ⟨hmem₂, rfl⟩ := Rows.account?_eq_some hrow₂
  let new₂ : AccountRow := { row₂ with balance := balance₂ }
  have hids₁ : (rows₁.accounts.map (·.id)).Nodup := by
    rw [hmoved₁.ids]
    exact hids
  refine ⟨a₁, a₂, _,
    (Work.submitEach_of_answered _ hsubmit₁).trans (Work.submitEach_of_answered _ hsubmit₂), ?_⟩
  constructor
  case frame => rfl
  case accounts => exact hmoved₁.trans (moved_replaceAccount hids₁ hmem₂ hbalance₂)
  case first =>
    -- the second addition has left the first account alone
    refine ⟨new₁, ?_, hread₁⟩
    have hkept : (rows₁.replaceAccount new₂).account? new₁.id = rows₁.account? new₁.id :=
      Rows.account?_replaceAccount_of_ne hne
    have hfound : rows₁.account? new₁.id = some new₁ := Rows.account?_replaceAccount_self hrow₁
    exact hkept.trans hfound
  case second =>
    have hfound : (rows₁.replaceAccount new₂).account? new₂.id = some new₂ :=
      Rows.account?_replaceAccount_self hrow₂
    exact ⟨new₂, hfound, hread₂⟩

end InOrder

/-! ### In the order of the ids -/

theorem neverCancels_addMoney (id₁ amount₁ id₂ amount₂ : Int64) :
    (addMoney id₁ amount₁ id₂ amount₂).NeverCancels := by
  unfold addMoney
  split <;> exact fun _ _ => trivial

/-- Different accounts are changed in the order of their ids. -/
theorem addMoney_eq (hne : id₁ ≠ id₂) (amount₁ amount₂ : Int64) :
    addMoney id₁ amount₁ id₂ amount₂ =
      if id₁.toInt < id₂.toInt then addBoth Prod.mk id₁ amount₁ id₂ amount₂
      else addBoth (fun a₂ a₁ => (a₁, a₂)) id₂ amount₂ id₁ amount₁ := by
  have hvalue : id₁.toInt ≠ id₂.toInt := fun h => hne (Int64.toInt_inj.mp h)
  by_cases hlt : id₁.toInt < id₂.toInt
  · have horder : (lockOrder id₁ id₂).1 = id₁ := by
      rw [lockOrder, if_pos (Int.le_of_lt hlt)]
    rw [addMoney, if_pos horder, if_pos hlt]
    rfl
  · have horder : ¬ (lockOrder id₁ id₂).1 = id₁ := by
      rw [lockOrder, if_neg (by omega)]
      exact hne.symm
    rw [addMoney, if_neg horder, if_neg hlt]
    rfl

variable (htable : db.catalog.hasTable Migration.accountTable.name = true)
  (hread : db.rows.AccountsReadable) (hne : id₁ ≠ id₂)

include htable hread hne

/-- The additions fail with the error of the account with the lower id, or
else with that of the other. -/
theorem addMoney_of_some {e : Error} (clock : Nat → Instant)
    (h : pairError? db.rows id₁ amount₁ id₂ amount₂ = some e) :
    ∃ db', (addMoney id₁ amount₁ id₂ amount₂).submitEach clock db =
        { outcome := .error e, db := db' } ∧ db'.sequences = db.sequences := by
  unfold pairError? at h
  rw [addMoney_eq hne]
  split at h
  case isTrue hlt =>
    rw [if_pos hlt]
    exact addBoth_of_some Prod.mk htable hread hne clock h
  case isFalse hlt =>
    rw [if_neg hlt]
    exact addBoth_of_some _ htable hread hne.symm clock h

/-- If neither has one, both are made. -/
theorem addMoney_of_none (hids : (db.rows.accounts.map (·.id)).Nodup) (clock : Nat → Instant)
    (h : pairError? db.rows id₁ amount₁ id₂ amount₂ = none) :
    ∃ a₁ a₂ db', (addMoney id₁ amount₁ id₂ amount₂).submitEach clock db =
        { outcome := .ok (a₁, a₂), db := db' } ∧
      PairAdded id₁ amount₁ id₂ amount₂ a₁ a₂ db db' := by
  obtain ⟨hfirst, hsecond⟩ := (pairError?_eq_none_iff db.rows).mp h
  rw [addMoney_eq hne]
  split
  · exact addBoth_of_none Prod.mk htable hread hne hids clock hfirst hsecond
  · obtain ⟨a₂, a₁, db', hrun, hadded⟩ :=
      addBoth_of_none (fun a₂ a₁ => (a₁, a₂)) htable hread hne.symm hids clock hsecond hfirst
    exact ⟨a₁, a₂, db', hrun, hadded.symm⟩

end DoubleEntry.Ledger
