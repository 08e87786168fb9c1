/-
DoubleEntry/Proofs/Ledger/Audit.lean

Every balance can be accounted for.  `Books.Audited` is what the database of
a run has to do with its history; each call keeps it (`Audited.record`), so
all books have it (`audited_after`), and `audit_trail` reads off it what the
balance of an account is made of: the balance that the account was opened
with, and the entries against it, which in turn are the transfers into it
less the transfers out of it and the adjustments that were confirmed.
-/
import DoubleEntry.Proofs.Ledger.Effect
import DoubleEntry.Proofs.Ledger.Posting

namespace DoubleEntry.Ledger

/-! ### Books and their history -/

/-- The database agrees with the history: the accounts are some of those that
were opened, in that order; the entries are posted by the transfers and the
adjustments, each against an account that is still there; and each balance
is made up of the opening balance and the entries. -/
structure Books.Audited (b : Books) : Prop where
  kept : b.db.WellKept
  drawn : Drawn b.db.sequences.account (b.openings.map (·.1))
  opened : (b.db.rows.accounts.map (·.id)).Sublist (b.openings.map (·.1))
  posted : Posted b.adjustments b.db.rows.transfers b.db.rows.entries
  owned : ∀ e ∈ b.db.rows.entries, ∃ r ∈ b.db.rows.accounts, r.id = e.accountId
  balanced : ∀ r ∈ b.db.rows.accounts, ∀ o ∈ b.openings, o.1 = r.id →
    r.balance.toInt = o.2.toInt + entrySum r.id b.db.rows.entries

theorem Books.audited_empty : Books.empty.Audited where
  kept := Database.wellKept_fresh
  drawn := .nil
  opened := .slnil
  posted := .nil
  owned e he := by cases he
  balanced r hr := by cases hr

variable {b : Books}

theorem entrySum_nil (id : Int64) : entrySum id [] = 0 := rfl

/-- An entry counts for its account as a movement on it. -/
theorem entrySum_cons (id : Int64) (e : EntryRow) (entries : List EntryRow) :
    entrySum id (e :: entries) = movement e.accountId e.amount.toInt id + entrySum id entries := by
  unfold entrySum movement
  rw [sumWhere_cons]
  by_cases h : e.accountId = id
  · rw [if_pos (decide_eq_true h), if_pos h.symm]
  · rw [if_neg (by rw [decide_eq_true_eq]; exact h), if_neg (Ne.symm h)]

/-- Entries stay with their accounts when balances are changed. -/
theorem exists_account_of_moved {delta : Int64 → Int} {rows rows' : List AccountRow} {id : Int64}
    (h : Moved delta rows rows') (hid : ∃ r ∈ rows, r.id = id) : ∃ r ∈ rows', r.id = id := by
  obtain ⟨r, hr, rfl⟩ := hid
  have hmem : r.id ∈ rows'.map (·.id) := by
    rw [h.ids]
    exact List.mem_map_of_mem hr
  exact List.mem_map.mp hmem

/-! ### One call -/

namespace Books.Audited

/-- A new account has no entries yet. -/
theorem entrySum_next (h : b.Audited) {id : Int64}
    (hid : id.toInt = b.db.sequences.account + 1) : entrySum id b.db.rows.entries = 0 := by
  apply sumWhere_eq_zero
  intro e he
  -- the account of an entry is there, and has an older id
  obtain ⟨r, hr, hre⟩ := h.owned e he
  have hne := h.kept.accounts.ne hid (List.mem_map_of_mem hr)
  rw [decide_eq_false_iff_not, ← hre]
  exact hne

/-- What a movement does to the balances is what new entries add up to. -/
theorem balanced_of_moved (h : b.Audited) {delta : Int64 → Int} {rows' : List AccountRow}
    {entries : List EntryRow} (hmoved : Moved delta b.db.rows.accounts rows')
    (hentries : ∀ id, entrySum id entries = delta id) :
    ∀ r' ∈ rows', ∀ o ∈ b.openings, o.1 = r'.id →
      r'.balance.toInt = o.2.toInt + entrySum r'.id (b.db.rows.entries ++ entries) := by
  intro r' hr' o ho hid
  obtain ⟨r, hr, hmove⟩ := hmoved.exists_of_mem hr'
  have hold := h.balanced r hr o ho (hid.trans hmove.id_eq)
  have hsum : entrySum r'.id (b.db.rows.entries ++ entries) =
      entrySum r.id b.db.rows.entries + delta r.id := by
    rw [hmove.id_eq, ← hentries r.id]
    exact sumWhere_append _ _ _ _
  rw [hmove.balance, hsum, hold]
  omega

/-- Books over the same accounts, entries and transfers. -/
theorem idle {b' : Books} (h : b.Audited) (hkept : b'.db.WellKept)
    (hsucceeds : b.db.Succeeds b'.db) (same : b.db.rows.SameLedger b'.db.rows)
    (hopenings : b'.openings = b.openings) (hadjustments : b'.adjustments = b.adjustments) :
    b'.Audited where
  kept := hkept
  drawn := by
    rw [hopenings]
    exact h.drawn.mono hsucceeds.sequences.1
  opened := by
    rw [hopenings, same.accounts]
    exact h.opened
  posted := by
    rw [hadjustments, same.transfers, same.entries]
    exact h.posted
  owned := by
    rw [same.accounts, same.entries]
    exact h.owned
  balanced := by
    rw [hopenings, same.accounts, same.entries]
    exact h.balanced

/-- A new account starts with its opening balance and no entry. -/
theorem openAccount {b' : Books} {row : AccountRow} (h : b.Audited) (hkept : b'.db.WellKept)
    (made : AccountOpened row b.db b'.db)
    (hopenings : b'.openings = b.openings ++ [(row.id, row.balance)])
    (hadjustments : b'.adjustments = b.adjustments) : b'.Audited where
  kept := hkept
  drawn := by
    rw [hopenings, made.sequence, List.map_append]
    exact h.drawn.append made.id
  opened := by
    rw [hopenings, made.accounts, List.map_append, List.map_append]
    exact h.opened.append_right _
  posted := by
    rw [hadjustments, made.transfers, made.entries]
    exact h.posted
  owned := by
    rw [made.accounts, made.entries]
    intro e he
    obtain ⟨r, hr, hid⟩ := h.owned e he
    exact ⟨r, List.mem_append_left _ hr, hid⟩
  balanced := by
    rw [hopenings, made.accounts, made.entries]
    intro r hr o ho hid
    -- a row and an opening of one id are both old or both new
    rcases List.mem_append.mp hr with hr | hr
    · rcases List.mem_append.mp ho with ho | ho
      · exact h.balanced r hr o ho hid
      · rw [List.mem_singleton] at ho
        subst ho
        exact absurd hid.symm (h.kept.accounts.ne made.id (List.mem_map_of_mem hr))
    · rw [List.mem_singleton] at hr
      subst hr
      rcases List.mem_append.mp ho with ho | ho
      · exact absurd hid (h.drawn.ne made.id (List.mem_map_of_mem ho))
      · rw [List.mem_singleton] at ho
        subst ho
        rw [h.entrySum_next made.id, Int.add_zero]

/-- A closed account takes nothing with it. -/
theorem closeAccount {b' : Books} {id : Int64} (h : b.Audited) (hkept : b'.db.WellKept)
    (hsucceeds : b.db.Succeeds b'.db) (made : AccountClosed id b.db b'.db)
    (hopenings : b'.openings = b.openings) (hadjustments : b'.adjustments = b.adjustments) :
    b'.Audited where
  kept := hkept
  drawn := by
    rw [hopenings]
    exact h.drawn.mono hsucceeds.sequences.1
  opened := by
    rw [hopenings, made.accounts]
    exact (List.filter_sublist.map _).trans h.opened
  posted := by
    rw [hadjustments, made.transfers, made.entries]
    exact h.posted
  owned := by
    rw [made.accounts, made.entries]
    intro e he
    obtain ⟨r, hr, hid⟩ := h.owned e he
    -- an account with an entry is not the one that was closed
    refine ⟨r, List.mem_filter.mpr ⟨hr, decide_eq_true ?_⟩, hid⟩
    rw [hid]
    exact made.unused e he
  balanced := by
    rw [hopenings, made.accounts, made.entries]
    intro r hr
    exact h.balanced r (List.mem_of_mem_filter hr)

/-- An adjustment changes one balance by its entry. -/
theorem adjust {b' : Books} {entry : EntryRow} (h : b.Audited) (hkept : b'.db.WellKept)
    (hsucceeds : b.db.Succeeds b'.db) (made : AdjustmentMade entry b.db b'.db)
    (hopenings : b'.openings = b.openings)
    (hadjustments : b'.adjustments = b.adjustments ++ [(entry.accountId, entry.amount)]) :
    b'.Audited where
  kept := hkept
  drawn := by
    rw [hopenings]
    exact h.drawn.mono hsucceeds.sequences.1
  opened := by
    rw [hopenings, made.accounts.ids]
    exact h.opened
  posted := by
    rw [hadjustments, made.transfers, made.entries]
    exact h.posted.adjustment entry
  owned := by
    rw [made.entries]
    intro e he
    apply exists_account_of_moved made.accounts
    rcases List.mem_append.mp he with he | he
    · exact h.owned e he
    · rw [List.mem_singleton.mp he]
      exact made.account
  balanced := by
    rw [hopenings, made.entries]
    apply h.balanced_of_moved made.accounts
    intro id
    rw [entrySum_cons, entrySum_nil, Int.add_zero]

/-- A transfer changes two balances by its two entries. -/
theorem transfer {b' : Books} {t : TransferRow} {debit credit : EntryRow} (h : b.Audited)
    (hkept : b'.db.WellKept) (hsucceeds : b.db.Succeeds b'.db)
    (made : TransferMade t debit credit b.db b'.db) (hopenings : b'.openings = b.openings)
    (hadjustments : b'.adjustments = b.adjustments) : b'.Audited where
  kept := hkept
  drawn := by
    rw [hopenings]
    exact h.drawn.mono hsucceeds.sequences.1
  opened := by
    rw [hopenings, made.accounts.ids]
    exact h.opened
  posted := by
    have hconsecutive : credit.id.toInt = debit.id.toInt + 1 := by
      rw [made.credit_id, made.debit_id]
      omega
    rw [hadjustments, made.transfers, made.entries]
    exact h.posted.transfer t debit credit hconsecutive made.debit_account made.debit_amount
      made.credit_account made.credit_amount
  owned := by
    rw [made.entries]
    intro e he
    apply exists_account_of_moved made.accounts
    rcases List.mem_append.mp he with he | he
    · exact h.owned e he
    · rcases List.mem_pair.mp he with rfl | rfl
      · rw [made.debit_account]
        exact made.source
      · rw [made.credit_account]
        exact made.target
  balanced := by
    rw [hopenings, made.entries]
    apply h.balanced_of_moved made.accounts
    intro id
    rw [entrySum_cons, entrySum_cons, entrySum_nil, Int.add_zero, made.debit_account,
      made.debit_amount, made.credit_account, made.credit_amount]

/-- Each call keeps the books in agreement with their history. -/
theorem record (h : b.Audited) (c : Call) : (b.record c).Audited := by
  have heffect : Effect b.db (b.record c).db _ := c.effect h.kept
  have hsucceeds : b.db.Succeeds (b.record c).db := c.succeeds b.db
  have hkept := heffect.wellKept hsucceeds h.kept
  -- the history grows by what the effect says of the answer
  have hopenings := b.openings_record c
  have hadjustments := b.adjustments_record c
  cases heffect with
  | idle same opening adjustment =>
      rw [opening, Option.toList_none, List.append_nil] at hopenings
      rw [adjustment, Option.toList_none, List.append_nil] at hadjustments
      exact h.idle hkept hsucceeds same hopenings hadjustments
  | opened row made opening adjustment =>
      rw [opening, Option.toList_some] at hopenings
      rw [adjustment, Option.toList_none, List.append_nil] at hadjustments
      exact h.openAccount hkept made hopenings hadjustments
  | closed id made opening adjustment =>
      rw [opening, Option.toList_none, List.append_nil] at hopenings
      rw [adjustment, Option.toList_none, List.append_nil] at hadjustments
      exact h.closeAccount hkept hsucceeds made hopenings hadjustments
  | adjusted entry made opening adjustment =>
      rw [opening, Option.toList_none, List.append_nil] at hopenings
      rw [adjustment, Option.toList_some] at hadjustments
      exact h.adjust hkept hsucceeds made hopenings hadjustments
  | transferred t debit credit made opening adjustment =>
      rw [opening, Option.toList_none, List.append_nil] at hopenings
      rw [adjustment, Option.toList_none, List.append_nil] at hadjustments
      exact h.transfer hkept hsucceeds made hopenings hadjustments

end Books.Audited

/-- The books of every run agree with their history. -/
theorem audited_after (calls : List Call) : (Books.after calls).Audited :=
  Books.after_induction Books.audited_empty (fun _ c h => h.record c) calls

/-! ### The audit trail -/

/-- Of pairs with different keys, one is found under its key. -/
theorem filter_eq_singleton {β : Type} {o : Int64 × β} {pairs : List (Int64 × β)}
    (hkeys : (pairs.map (·.1)).Nodup) (ho : o ∈ pairs) :
    pairs.filter (fun p => p.1 = o.1) = [o] := by
  induction pairs with
  | nil => cases ho
  | cons p pairs ih =>
      obtain ⟨hp, hpairs⟩ := List.nodup_cons.mp hkeys
      rcases List.mem_cons.mp ho with rfl | ho
      · have hothers : pairs.filter (fun p => p.1 = o.1) = [] := by
          rw [List.filter_eq_nil_iff]
          intro p hmem
          rw [decide_eq_true_eq]
          intro heq
          exact hp (List.mem_map.mpr ⟨p, hmem, heq⟩)
        simp only [List.filter_cons, decide_true, if_true, hothers]
      · have hne : p.1 ≠ o.1 := by
          intro heq
          exact hp (List.mem_map.mpr ⟨o, ho, heq.symm⟩)
        rw [List.filter_cons_of_neg (by rw [decide_eq_true_eq]; exact hne), ih hpairs ho]

/-- **The audit trail.**  After any run an account was opened by one call,
its balance is the opening balance and its entries, and these are the
transfers into it less those out of it and its adjustments. -/
theorem audit_trail (calls : List Call) (row : AccountRow)
    (hrow : row ∈ (Books.after calls).db.rows.accounts) :
    ∃ opening : Int64,
      (Books.after calls).openings.filter (fun o => o.1 = row.id) = [(row.id, opening)] ∧
      row.balance.toInt =
        opening.toInt + entrySum row.id (Books.after calls).db.rows.entries ∧
      entrySum row.id (Books.after calls).db.rows.entries =
        transfersIn row.id (Books.after calls).db.rows.transfers -
            transfersOut row.id (Books.after calls).db.rows.transfers +
          adjustmentSum row.id (Books.after calls).adjustments := by
  have h := audited_after calls
  have hopened := h.opened.subset (List.mem_map_of_mem hrow)
  obtain ⟨⟨id, opening⟩, ho, hid⟩ := List.mem_map.mp hopened
  obtain rfl : id = row.id := hid
  refine ⟨opening, ?_, ?_, ?_⟩
  · exact filter_eq_singleton h.drawn.nodup ho
  · exact h.balanced row hrow _ ho rfl
  · exact h.posted.entrySum_eq row.id

/-- Ann opens an account with 100, Bob one with 20; Ann sends Bob 30, and 5 are
taken from Bob. -/
def auditedCalls : List Call :=
  [.atEpoch (.openAccount "ann" 100 "USD"), .atEpoch (.openAccount "bob" 20 "USD"),
    .atEpoch (.transferFunds ⟨1, 2, 30⟩), .atEpoch (.adjustBalance 2 (-5))]

theorem audit_trail_of_bob :
    let row : AccountRow := ⟨2, "bob", 45, "USD", "1970-01-01T00:00:00+00:00"⟩
    row ∈ (Books.after auditedCalls).db.rows.accounts ∧
      ∃ opening : Int64,
        (Books.after auditedCalls).openings.filter (fun o => o.1 = 2) = [(2, opening)] ∧
        row.balance.toInt =
          opening.toInt + entrySum 2 (Books.after auditedCalls).db.rows.entries ∧
        entrySum 2 (Books.after auditedCalls).db.rows.entries =
          transfersIn 2 (Books.after auditedCalls).db.rows.transfers -
              transfersOut 2 (Books.after auditedCalls).db.rows.transfers +
            adjustmentSum 2 (Books.after auditedCalls).adjustments := by
  have hrow : (⟨2, "bob", 45, "USD", "1970-01-01T00:00:00+00:00"⟩ : AccountRow) ∈
      (Books.after auditedCalls).db.rows.accounts := by decide +kernel
  exact ⟨hrow, audit_trail auditedCalls _ hrow⟩

end DoubleEntry.Ledger
