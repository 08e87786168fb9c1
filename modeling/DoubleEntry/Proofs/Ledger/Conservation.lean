/-
DoubleEntry/Proofs/Ledger/Conservation.lean

Money is neither made nor lost.  All balances together are what the open
accounts were opened with and what was adjusted (`Books.Audited.total_eq`);
a transfer, made or refused, leaves their sum as it is (`total_transfer`).
`double_entry` puts this together with the split of the entries.
-/
import Mathlib.Algebra.BigOperators.Group.List.Basic
import DoubleEntry.Proofs.Ledger.Audit
import DoubleEntry.Proofs.Store.Totals

namespace DoubleEntry.Ledger

/-- The sum of all balances. -/
def total (rows : List AccountRow) : Int :=
  (rows.map (·.balance.toInt)).sum

/-- The openings of the accounts that are still open. -/
def Books.openOpenings (b : Books) : List (Int64 × Int64) :=
  b.openings.filter fun o => (b.db.rows.account? o.1).isSome

/-! ### Open accounts -/

/-- Of different ids, those of a sublist are the sublist. -/
theorem filter_mem_eq_of_sublist {ids ids' : List Int64} (hids : ids.Nodup)
    (h : ids'.Sublist ids) : ids.filter (fun id => id ∈ ids') = ids' := by
  have hself : ids'.filter (fun id => id ∈ ids') = ids' := by
    rw [List.filter_eq_self]
    intro id hid
    exact decide_eq_true hid
  have hsub : ids'.Sublist (ids.filter fun id => id ∈ ids') := by
    have hfilter := h.filter fun id => decide (id ∈ ids')
    rw [hself] at hfilter
    exact hfilter
  -- each is a sublist of the ids and has the same members, so neither is longer
  have hperm : ids'.Perm (ids.filter fun id => id ∈ ids') := by
    rw [List.perm_ext_iff_of_nodup (hids.sublist h) (hids.filter _)]
    intro id
    rw [List.mem_filter, decide_eq_true_eq]
    exact ⟨fun hid => ⟨h.subset hid, hid⟩, And.right⟩
  exact (hsub.eq_of_length hperm.length_eq).symm

theorem account?_isSome_iff (rows : Rows) (id : Int64) :
    (rows.account? id).isSome = true ↔ id ∈ rows.accounts.map (·.id) := by
  unfold Rows.account?
  rw [List.find?_isSome]
  simp only [decide_eq_true_eq, List.mem_map]

namespace Books.Audited

variable {b : Books}

/-- The open accounts are those whose openings count. -/
theorem openOpenings_ids (h : b.Audited) :
    b.openOpenings.map (·.1) = b.db.rows.accounts.map (·.id) := by
  have hfilter := filter_mem_eq_of_sublist h.drawn.nodup h.opened
  rw [List.filter_map] at hfilter
  rw [← hfilter]
  unfold openOpenings
  congr 2
  funext o
  rw [Bool.eq_iff_iff, account?_isSome_iff]
  simp only [Function.comp_apply, decide_eq_true_eq]

/-! ### Totals -/

/-- Balances that are made up of openings and something more add up to the
openings and all of that. -/
theorem sum_balances {f : Int64 → Int} {rows : List AccountRow} {openings : List (Int64 × Int64)}
    (hids : openings.map (·.1) = rows.map (·.id))
    (hbalances : ∀ r ∈ rows, ∀ o ∈ openings, o.1 = r.id → r.balance.toInt = o.2.toInt + f r.id) :
    total rows = (openings.map (·.2.toInt)).sum + (rows.map (f ·.id)).sum := by
  induction rows generalizing openings with
  | nil =>
      rw [List.map_nil, List.map_eq_nil_iff] at hids
      subst hids
      rfl
  | cons r rows ih =>
      cases openings with
      | nil => cases hids
      | cons o openings =>
          obtain ⟨hid, hids⟩ := List.cons.inj hids
          have hr := hbalances r List.mem_cons_self o List.mem_cons_self hid
          have hrest := ih hids fun r hr o ho =>
            hbalances r (List.mem_cons_of_mem _ hr) o (List.mem_cons_of_mem _ ho)
          unfold total at hrest ⊢
          simp only [List.map_cons, List.sum_cons, hr, hrest]
          omega

/-- The entries of all accounts are all entries. -/
theorem sum_entrySum {rows : List AccountRow} {entries : List EntryRow}
    (hids : (rows.map (·.id)).Nodup) (howned : ∀ e ∈ entries, ∃ r ∈ rows, r.id = e.accountId) :
    (rows.map fun r => entrySum r.id entries).sum = (entries.map (·.amount.toInt)).sum := by
  -- over the entries: each counts for the one account that has its id
  induction entries with
  | nil =>
      simp only [entrySum_nil, List.map_nil, List.sum_nil]
      exact List.sum_eq_zero (by simp)
  | cons e entries ih =>
      obtain ⟨⟨r, hr, hid⟩, hentries⟩ := List.forall_mem_cons.mp howned
      have hone := sum_movement e.amount.toInt hids hr
      rw [hid] at hone
      simp only [entrySum_cons, List.sum_map_add, List.map_cons, List.sum_cons, hone, ih hentries]

/-- All balances together are the openings of the open accounts and all
adjustments. -/
theorem total_eq (h : b.Audited) :
    total b.db.rows.accounts =
      (b.openOpenings.map (·.2.toInt)).sum + (b.adjustments.map (·.2.toInt)).sum := by
  have hbalances : ∀ r ∈ b.db.rows.accounts, ∀ o ∈ b.openOpenings, o.1 = r.id →
      r.balance.toInt = o.2.toInt + entrySum r.id b.db.rows.entries := by
    intro r hr o ho
    exact h.balanced r hr o (List.mem_of_mem_filter ho)
  calc total b.db.rows.accounts
      = (b.openOpenings.map (·.2.toInt)).sum +
          (b.db.rows.accounts.map fun r => entrySum r.id b.db.rows.entries).sum :=
        sum_balances (f := fun id => entrySum id b.db.rows.entries) h.openOpenings_ids hbalances
    _ = (b.openOpenings.map (·.2.toInt)).sum + (b.db.rows.entries.map (·.amount.toInt)).sum := by
        rw [sum_entrySum h.kept.accounts.nodup h.owned]
    _ = (b.openOpenings.map (·.2.toInt)).sum + (b.adjustments.map (·.2.toInt)).sum := by
        rw [h.posted.sum_eq]

/-- The numbers of rows can always be told. -/
theorem counts_eq (h : b.Audited) :
    b.db.counts = .ok {
      accounts := b.db.rows.accounts.length
      entries := 2 * b.db.rows.transfers.length + b.adjustments.length
      transfers := b.db.rows.transfers.length } := by
  rw [← h.posted.length_eq]
  exact Database.counts_of_catalog h.kept.catalog

end Books.Audited

/-! ### Transfers -/

/-- What a transfer takes from one balance it adds to another. -/
theorem TransferMade.total_eq {db db' : Database} {t : TransferRow} {debit credit : EntryRow}
    (made : TransferMade t debit credit db db') (hkept : db.WellKept) :
    total db'.rows.accounts = total db.rows.accounts := by
  obtain ⟨source, hsource, hsourceId⟩ := made.source
  obtain ⟨target, htarget, htargetId⟩ := made.target
  have hdebit := sum_movement (-t.amount.toInt) hkept.accounts.nodup hsource
  have hcredit := sum_movement t.amount.toInt hkept.accounts.nodup htarget
  rw [hsourceId] at hdebit
  rw [htargetId] at hcredit
  unfold total
  rw [made.accounts.sum, List.sum_map_add, hdebit, hcredit]
  omega

/-- A transfer that is executed leaves all balances together as they are,
wherever it fails or its token is cancelled. -/
theorem total_transfer {db : Database} (hkept : db.WellKept) (env : Surroundings)
    (token : CancelToken) {r : TransferRequest} {w : Work TransferReceipt}
    (hw : ∀ clock db, w.submitEach clock db = (transferWork r).submitEach clock db) :
    total (w.execute env token db).db.rows.accounts = total db.rows.accounts := by
  by_cases hok : ∃ v, (w.execute env token db).outcome = .ok v
  · obtain ⟨v, hv⟩ := hok
    have hmade := Work.execute_kept hv
    rw [hw] at hmade
    obtain ⟨t, debit, credit, -, -, -, hmade, -⟩ := transferWork_made hkept.accounts.nodup hmade
    exact hmade.total_eq hkept
  · -- not kept: the rows are those from before
    obtain ⟨s, -, hdb⟩ := Work.execute_undone fun v hv => hok ⟨v, hv⟩
    rw [hdb]
    rfl

/-! ### Double entry -/

/-- **Double entry.**  After any run the entries are those that the transfers
and the adjustments have posted, under ascending ids; the numbers of rows
agree with that; all balances together are what the open accounts were
opened with and what was adjusted; and no transfer changes their sum. -/
theorem double_entry (calls : List Call) :
    let books := Books.after calls
    let rows := books.db.rows
    Posted books.adjustments rows.transfers rows.entries ∧
      (rows.entries.map (·.id)).Pairwise (fun a b => a.toInt < b.toInt) ∧
      (rows.transfers.map (·.id)).Pairwise (fun a b => a.toInt < b.toInt) ∧
      books.db.counts = .ok {
        accounts := rows.accounts.length
        entries := 2 * rows.transfers.length + books.adjustments.length
        transfers := rows.transfers.length } ∧
      books.openOpenings.map (·.1) = rows.accounts.map (·.id) ∧
      total rows.accounts =
        (books.openOpenings.map (·.2.toInt)).sum + (books.adjustments.map (·.2.toInt)).sum ∧
      ∀ (env : Surroundings) (token : CancelToken) (cancelled : Option Nat)
        (request : TransferRequest),
        total (transferFunds env request books.db).db.rows.accounts = total rows.accounts ∧
          total
              ((Operation.transferFundsWith token cancelled request).perform env
                books.db).db.rows.accounts = total rows.accounts := by
  intro books rows
  have h : books.Audited := audited_after calls
  refine ⟨h.posted, h.kept.entries.increasing, h.kept.transfers.increasing, h.counts_eq,
    h.openOpenings_ids, h.total_eq, ?_⟩
  intro env token cancelled request
  constructor
  · exact total_transfer h.kept env {} fun _ _ => rfl
  · cases cancelled with
    | none => exact total_transfer h.kept env token fun _ _ => rfl
    | some n => exact total_transfer h.kept env token (Work.submitEach_cancelAfter n _)

end DoubleEntry.Ledger
