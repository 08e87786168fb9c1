/-
DoubleEntry/Proofs/Ledger/References.lean

References to accounts.  An entry refers to one account and a transfer to
two, but no table declares it.  What keeps the references whole is the way
entries are posted: an account has an entry exactly if one of the adjustments
or transfers has touched it (`Posted.exists_entry_iff`).  So a look at the
entries of an account, as they are stored now, tells whether anything in the
whole history has touched it (`Books.Recorded.touched_iff`).
-/
import DoubleEntry.Proofs.Ledger.Audit

namespace DoubleEntry

/-- The request that a stored transfer has carried out. -/
def TransferRow.request (t : TransferRow) : TransferRequest :=
  { fromId := t.fromId, toId := t.toId, amount := t.amount }

/-- The transfer takes from the account or adds to it. -/
def TransferRequest.Touches (r : TransferRequest) (id : Int64) : Prop :=
  r.fromId = id ∨ r.toId = id

/-- No account has the id, and no entry and no transfer refers to it. -/
structure Rows.Without (rows : Rows) (id : Int64) : Prop where
  accounts : ∀ r ∈ rows.accounts, r.id ≠ id
  entries : ∀ e ∈ rows.entries, e.accountId ≠ id
  transfers : ∀ t ∈ rows.transfers, ¬ t.request.Touches id

namespace Ledger

/-! ### Entries and what has posted them -/

/-- An account has an entry exactly if an adjustment or a transfer has touched
it. -/
theorem Posted.exists_entry_iff {adjustments : List (Int64 × Int64)} {transfers : List TransferRow}
    {entries : List EntryRow} (h : Posted adjustments transfers entries) (id : Int64) :
    (∃ e ∈ entries, e.accountId = id) ↔
      (∃ a ∈ adjustments, a.1 = id) ∨ ∃ t ∈ transfers, t.request.Touches id := by
  -- over the postings, the last one apart from those before it
  induction h with
  | nil => simp
  | transfer _ t debit credit _ hdebit _ hcredit _ ih =>
      have hnew : (∃ e ∈ [debit, credit], e.accountId = id) ↔ t.request.Touches id := by
        simp [TransferRequest.Touches, TransferRow.request, hdebit, hcredit]
      simp only [List.mem_append, or_and_right, exists_or, ih, hnew, List.mem_singleton,
        exists_eq_left, or_assoc]
  | adjustment _ entry ih =>
      simp only [List.mem_append, or_and_right, exists_or, ih, List.mem_singleton, exists_eq_left]
      exact or_right_comm

/-! ### Stored and confirmed -/

/-- An adjustment or a transfer that was confirmed has touched the account. -/
def Books.Touched (b : Books) (id : Int64) : Prop :=
  (∃ a ∈ b.adjustments, a.1 = id) ∨ ∃ r ∈ b.transfersMade, r.Touches id

/-- The transfers that are stored are those that were confirmed, in their
order, and every entry can be read. -/
structure Books.Recorded (b : Books) : Prop where
  transfers : b.db.rows.transfers.map (·.request) = b.transfersMade
  readable : ∀ e ∈ b.db.rows.entries, ∃ v, e.read = .ok v

namespace Books.Recorded

variable {b : Books}

theorem empty : Books.empty.Recorded where
  transfers := rfl
  readable e he := by cases he

/-- Each call stores what it confirms. -/
theorem record (h : b.Recorded) (haudited : b.Audited) (c : Call) : (b.record c).Recorded := by
  have heffect : Effect b.db (b.record c).db _ := c.effect haudited.kept
  have hmade := b.transfersMade_record c
  cases heffect with
  | idle same opening adjustment transfer =>
      rw [transfer, Option.toList_none, List.append_nil] at hmade
      constructor
      case transfers => rw [same.transfers, hmade, h.transfers]
      case readable => rw [same.entries]; exact h.readable
  | opened row made opening adjustment transfer =>
      rw [transfer, Option.toList_none, List.append_nil] at hmade
      constructor
      case transfers => rw [made.transfers, hmade, h.transfers]
      case readable => rw [made.entries]; exact h.readable
  | closed id made opening adjustment transfer =>
      rw [transfer, Option.toList_none, List.append_nil] at hmade
      constructor
      case transfers => rw [made.transfers, hmade, h.transfers]
      case readable => rw [made.entries]; exact h.readable
  | adjusted entry made opening adjustment transfer =>
      rw [transfer, Option.toList_none, List.append_nil] at hmade
      constructor
      case transfers => rw [made.transfers, hmade, h.transfers]
      case readable =>
        rw [made.entries]
        intro e he
        rcases List.mem_append.mp he with he | he
        · exact h.readable e he
        · rw [List.mem_singleton.mp he]
          exact made.readable
  | transferred t debit credit made opening adjustment transfer =>
      rw [transfer, Option.toList_some] at hmade
      constructor
      case transfers =>
        rw [made.transfers, hmade, List.map_append, h.transfers]
        rfl
      case readable =>
        rw [made.entries]
        intro e he
        rcases List.mem_append.mp he with he | he
        · exact h.readable e he
        · rcases List.mem_pair.mp he with rfl | rfl
          · exact made.debit_readable
          · exact made.credit_readable

/-- The entries of an account tell whether it was ever touched. -/
theorem touched_iff (h : b.Recorded) (haudited : b.Audited) (id : Int64) :
    b.Touched id ↔ ∃ e ∈ b.db.rows.entries, e.accountId = id := by
  rw [haudited.posted.exists_entry_iff, Touched, ← h.transfers]
  simp only [List.mem_map, exists_exists_and_eq_and]

end Books.Recorded

theorem recorded_after (calls : List Call) : (Books.after calls).Recorded := by
  have hboth : (Books.after calls).Audited ∧ (Books.after calls).Recorded := by
    apply Books.after_induction (motive := fun b => b.Audited ∧ b.Recorded)
    · exact ⟨Books.audited_empty, .empty⟩
    · rintro b c ⟨haudited, hrecorded⟩
      exact ⟨haudited.record c, hrecorded.record haudited c⟩
  exact hboth.2

/-! ### References -/

namespace Books.Audited

variable {b : Books}

/-- An entry refers to an account that is there. -/
theorem account_of_entry (h : b.Audited) {id : Int64}
    (hentry : ∃ e ∈ b.db.rows.entries, e.accountId = id) :
    ∃ r ∈ b.db.rows.accounts, r.id = id := by
  obtain ⟨e, he, rfl⟩ := hentry
  exact h.owned e he

/-- A transfer refers to accounts that are there, since each of them has an
entry. -/
theorem account_of_transfer (h : b.Audited) {id : Int64} {t : TransferRow}
    (ht : t ∈ b.db.rows.transfers) (htouches : t.request.Touches id) :
    ∃ r ∈ b.db.rows.accounts, r.id = id := by
  apply h.account_of_entry
  rw [h.posted.exists_entry_iff]
  exact Or.inr ⟨t, ht, htouches⟩

end Books.Audited

end Ledger

end DoubleEntry
