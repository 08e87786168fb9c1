/-
DoubleEntry/Proofs/Ledger/Posting.lean

How entries come about.  `Posted` splits a table of entries, from its first
row to its last: every transfer has posted a debit and a credit, one directly
behind the other, every adjustment a single entry, and nothing else has
posted any.  What it says in numbers is

    entries = 2 * transfers + adjustments                   (`Posted.length_eq`)
    all entries = all adjustments                           (`Posted.sum_eq`)
    entries of an account
      = transfers in - transfers out + its adjustments      (`Posted.entrySum_eq`)
-/
import Mathlib.Algebra.Order.Ring.Int
import DoubleEntry.Store.Row

namespace DoubleEntry.Ledger

/-! ### Sums over chosen rows -/

section Sums

variable {α : Type} (p : α → Bool) (amount : α → Int)

/-- The sum of the amounts of the rows that are chosen. -/
def sumWhere (rows : List α) : Int :=
  ((rows.filter p).map amount).sum

theorem sumWhere_append (rows rows' : List α) :
    sumWhere p amount (rows ++ rows') = sumWhere p amount rows + sumWhere p amount rows' := by
  simp only [sumWhere, List.filter_append, List.map_append, List.sum_append]

theorem sumWhere_cons (row : α) (rows : List α) :
    sumWhere p amount (row :: rows) =
      (if p row then amount row else 0) + sumWhere p amount rows := by
  unfold sumWhere
  cases h : p row with
  | true => simp only [List.filter_cons_of_pos h, List.map_cons, List.sum_cons, if_true]
  | false =>
      rw [List.filter_cons_of_neg (by simp [h])]
      simp only [Bool.false_eq_true, if_false, Int.zero_add]

@[simp] theorem sumWhere_nil : sumWhere p amount [] = 0 := rfl

/-- Rows of which none is chosen add up to nothing. -/
theorem sumWhere_eq_zero {p : α → Bool} {rows : List α} (h : ∀ row ∈ rows, p row = false) :
    sumWhere p amount rows = 0 := by
  unfold sumWhere
  rw [List.filter_eq_nil_iff.mpr fun row hrow => by simp [h row hrow]]
  rfl

end Sums

/-- The sum of the entries of an account. -/
def entrySum (id : Int64) : List EntryRow → Int :=
  sumWhere (fun e => e.accountId = id) fun e => e.amount.toInt

/-- The sum of the transfers into an account. -/
def transfersIn (id : Int64) : List TransferRow → Int :=
  sumWhere (fun t => t.toId = id) fun t => t.amount.toInt

/-- The sum of the transfers out of an account. -/
def transfersOut (id : Int64) : List TransferRow → Int :=
  sumWhere (fun t => t.fromId = id) fun t => t.amount.toInt

/-- The sum of the adjustments of an account. -/
def adjustmentSum (id : Int64) : List (Int64 × Int64) → Int :=
  sumWhere (fun a => a.1 = id) fun a => a.2.toInt

/-! ### Postings -/

/-- The entries are those that the adjustments and the transfers have
posted, in their order. -/
inductive Posted : List (Int64 × Int64) → List TransferRow → List EntryRow → Prop
  | nil : Posted [] [] []
  | transfer {adjustments transfers entries} (before : Posted adjustments transfers entries)
      (t : TransferRow) (debit credit : EntryRow) (consecutive : credit.id.toInt = debit.id.toInt + 1)
      (debit_account : debit.accountId = t.fromId) (debit_amount : debit.amount.toInt = -t.amount.toInt)
      (credit_account : credit.accountId = t.toId) (credit_amount : credit.amount.toInt = t.amount.toInt) :
      Posted adjustments (transfers ++ [t]) (entries ++ [debit, credit])
  | adjustment {adjustments transfers entries} (before : Posted adjustments transfers entries)
      (entry : EntryRow) :
      Posted (adjustments ++ [(entry.accountId, entry.amount)]) transfers (entries ++ [entry])

namespace Posted

variable {adjustments : List (Int64 × Int64)} {transfers : List TransferRow}
  {entries : List EntryRow}

/-- Every transfer has two entries, every adjustment one. -/
theorem length_eq (h : Posted adjustments transfers entries) :
    entries.length = 2 * transfers.length + adjustments.length := by
  induction h with
  | nil => rfl
  | transfer _ t debit credit _ _ _ _ _ ih =>
      simp only [List.length_append, List.length_cons, List.length_nil]
      omega
  | adjustment _ entry ih =>
      simp only [List.length_append, List.length_cons, List.length_nil]
      omega

/-- Transfers cancel out over all entries. -/
theorem sum_eq (h : Posted adjustments transfers entries) :
    (entries.map (·.amount.toInt)).sum = (adjustments.map (·.2.toInt)).sum := by
  induction h with
  | nil => rfl
  | transfer _ t debit credit _ _ hdebit _ hcredit ih =>
      simp only [List.map_append, List.map_cons, List.map_nil, List.sum_append, List.sum_cons,
        List.sum_nil, hdebit, hcredit]
      omega
  | adjustment _ entry ih =>
      simp only [List.map_append, List.map_cons, List.map_nil, List.sum_append, List.sum_cons,
        List.sum_nil]
      omega

/-- The entries of an account are what transfers and adjustments have done
to it. -/
theorem entrySum_eq (h : Posted adjustments transfers entries) (id : Int64) :
    entrySum id entries =
      transfersIn id transfers - transfersOut id transfers + adjustmentSum id adjustments := by
  induction h with
  | nil => rfl
  | transfer _ t debit credit _ hdebitId hdebit hcreditId hcredit ih =>
      simp only [entrySum, transfersIn, transfersOut] at ih ⊢
      simp only [sumWhere_append, sumWhere_cons, sumWhere_nil, hdebitId, hdebit, hcreditId,
        hcredit, ih]
      -- the debit counts for the one account, the credit for the other
      by_cases hfrom : t.fromId = id
      · by_cases hto : t.toId = id
        · simp only [hfrom, hto, decide_true, if_true]
          omega
        · simp only [hfrom, hto, decide_true, decide_false, if_true, Bool.false_eq_true, if_false]
          omega
      · by_cases hto : t.toId = id
        · simp only [hfrom, hto, decide_true, decide_false, if_true, Bool.false_eq_true, if_false]
          omega
        · simp only [hfrom, hto, decide_false, Bool.false_eq_true, if_false]
          omega
  | adjustment _ entry ih =>
      simp only [entrySum, adjustmentSum] at ih ⊢
      simp only [sumWhere_append, sumWhere_cons, sumWhere_nil, ih]
      omega

end Posted

end DoubleEntry.Ledger
