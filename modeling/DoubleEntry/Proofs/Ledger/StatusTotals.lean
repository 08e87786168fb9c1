/-
DoubleEntry/Proofs/Ledger/StatusTotals.lean

What a transfer does to the totals of the currencies.  The two accounts of a
transfer need not be of one currency, so the totals are not kept in general
(`status_not_conserved`): the amount leaves the total of the one currency
and comes to that of the other (`status_after_transfer`).  Between accounts
of one currency, and whenever a transfer is refused, nothing changes.
-/
import DoubleEntry.Proofs.Ledger.Conservation
import DoubleEntry.Proofs.Store.Totals

namespace DoubleEntry.Ledger

open DoubleEntry.Text

variable {db db' : Database}

/-! ### Sums by currency -/

/-- A transfer takes its amount from the sum under the one currency text and
adds it to the sum under the other. -/
theorem TransferMade.sumOf_eq {t : TransferRow} {debit credit : EntryRow}
    (made : TransferMade t debit credit db db') (hkept : db.WellKept) {source target : AccountRow}
    (hsource : source ∈ db.rows.accounts) (hsourceId : source.id = t.fromId)
    (htarget : target ∈ db.rows.accounts) (htargetId : target.id = t.toId) (text : String) :
    Database.sumOf db'.rows.accounts text =
      Database.sumOf db.rows.accounts text
        - (if source.currency = text then t.amount.toInt else 0)
        + (if target.currency = text then t.amount.toInt else 0) := by
  have hids := hkept.accounts.nodup
  have hdebit := sum_movement_filter (-t.amount.toInt) (fun r => r.currency = text) hids
    hsource
  have hcredit := sum_movement_filter t.amount.toInt (fun r => r.currency = text) hids
    htarget
  have hsum := made.accounts.sum_filter (p := fun r => r.currency = text) fun r r' hr => by
    rw [hr.currency_eq]
  rw [hsourceId] at hdebit
  rw [htargetId] at hcredit
  rw [List.sum_map_add, hdebit, hcredit] at hsum
  simp only [decide_eq_true_eq] at hsum
  show (((db'.rows.accounts.filter fun r => r.currency = text).map (·.balance.toInt)).sum : Int) =
    ((db.rows.accounts.filter fun r => r.currency = text).map (·.balance.toInt)).sum - _ + _
  rw [hsum]
  split <;> split <;> omega

/-! ### Statuses -/

/-- A status that can be told has the totals of the database. -/
theorem totals_of_status {status : LedgerStatus} (h : LedgerStatus.of db = .ok status) :
    db.totals = .ok status.balances := by
  unfold LedgerStatus.of at h
  rcases hcounts : db.counts with e | counts
  · rw [hcounts] at h
    cases h
  rcases htotals : db.totals with e | balances
  · rw [hcounts, htotals] at h
    cases h
  · rw [hcounts, htotals] at h
    cases h
    rfl

/-- The total of a currency is the sum of the balances under its code. -/
theorem totalFor_eq {status : LedgerStatus} (hkept : db.WellKept)
    (h : LedgerStatus.of db = .ok status) (c : Currency) :
    (status.totalFor c).toInt = Database.sumOf db.rows.accounts c.code := by
  exact (Database.totals_spec hkept.codes (totals_of_status h)).2 c

/-- What a successful transfer does to the totals. -/
theorem totals_of_transfer {env : Surroundings} {request : TransferRequest}
    {receipt : TransferReceipt} {before after : LedgerStatus} (hkept : db.WellKept)
    (hkept' : (transferFunds env request db).db.WellKept)
    (hok : (transferFunds env request db).outcome = .ok receipt)
    (hbefore : LedgerStatus.of db = .ok before)
    (hafter : LedgerStatus.of (transferFunds env request db).db = .ok after) :
    receipt.fromAccount.id = request.fromId ∧ receipt.toAccount.id = request.toId ∧
      after.balances.map (·.1) = before.balances.map (·.1) ∧
      (∀ c, (after.totalFor c).toInt = (before.totalFor c).toInt
        - (if receipt.fromAccount.currency = c then request.amount.toInt else 0)
        + (if receipt.toAccount.currency = c then request.amount.toInt else 0)) ∧
      (receipt.fromAccount.currency = receipt.toAccount.currency →
        after.balances = before.balances) := by
  have hmade := Work.execute_kept hok
  obtain ⟨t, debit, credit, hfrom, hto, hamount, made, hread, hread'⟩ :=
    transferWork_made hkept.accounts.nodup hmade
  obtain ⟨source, hsource, hsourceId, hsourceRead⟩ := hread.row
  obtain ⟨target, htarget, htargetId, htargetRead⟩ := hread'.row
  have hsourceCode := (hkept.legible source hsource).currency_eq hsourceRead
  have htargetCode := (hkept.legible target htarget).currency_eq htargetRead
  have hsums := made.sumOf_eq hkept hsource (hsourceId.trans hfrom.symm) htarget
    (htargetId.trans hto.symm)
  have hcurrencies : (transferFunds env request db).db.rows.accounts.map (·.currency) =
      db.rows.accounts.map (·.currency) := made.accounts.currencies
  have hcodeIff : ∀ c d : Currency, c.code = d.code ↔ c = d := fun c d =>
    ⟨Currency.code_injective, congrArg Currency.code⟩
  refine ⟨hread.id_eq, hread'.id_eq, ?_, ?_, ?_⟩
  · rw [(Database.totals_spec hkept.codes (totals_of_status hbefore)).1,
      (Database.totals_spec hkept'.codes (totals_of_status hafter)).1, hcurrencies]
  · intro c
    rw [totalFor_eq hkept' hafter, totalFor_eq hkept hbefore]
    have hsum := hsums c.code
    rw [hsourceCode, htargetCode, hamount] at hsum
    simp only [hcodeIff] at hsum
    exact hsum
  · intro hsame
    have htotals : (transferFunds env request db).db.totals = db.totals := by
      apply Database.totals_congr
      · exact hkept'.catalog.trans hkept.catalog.symm
      · exact hcurrencies
      · intro text
        refine (hsums text).trans ?_
        rw [hsourceCode, htargetCode, hsame]
        omega
    rw [totals_of_status hbefore, totals_of_status hafter] at htotals
    exact Except.ok.inj htotals

/-- A transfer that is refused does nothing to them. -/
theorem totals_of_refused {env : Surroundings} {request : TransferRequest}
    {before after : LedgerStatus}
    (hrefused : ∀ receipt, (transferFunds env request db).outcome ≠ .ok receipt)
    (hbefore : LedgerStatus.of db = .ok before)
    (hafter : LedgerStatus.of (transferFunds env request db).db = .ok after) :
    after.balances = before.balances := by
  obtain ⟨s, -, hdb⟩ := Work.execute_undone hrefused
  have htotals : (transferFunds env request db).db.totals = db.totals := by
    have hrolledBack : (transferFunds env request db).db = db.withSequences s := hdb
    rw [hrolledBack]
    exact Database.totals_congr rfl rfl fun _ => rfl
  rw [totals_of_status hbefore, totals_of_status hafter] at htotals
  exact Except.ok.inj htotals

/-! ### Two currencies -/

/-- Ann has 100 dollars, and Bob has no euros yet. -/
def mixedCalls : List Call :=
  [.atEpoch (.openAccount "ann" 100 "USD"), .atEpoch (.openAccount "bob" 0 "EUR")]

/-- Ann sends Bob 30. -/
def mixedTransfer : TransferRequest :=
  { fromId := 1, toId := 2, amount := 30 }

/-- The totals of a ledger with one account in dollars and one in euros. -/
theorem totals_of_two {ann bob : AccountRow} (hkept : db.WellKept)
    (haccounts : db.rows.accounts = [ann, bob]) (hann : ann.currency = "USD")
    (hbob : bob.currency = "EUR") :
    db.totals = .ok [(.usd, ann.balance), (.eur, bob.balance)] := by
  have htexts : Database.currencyTexts [ann, bob] = ["EUR", "USD"] := by
    unfold Database.currencyTexts
    rw [List.map_cons, List.map_cons, List.map_nil, hann, hbob]
    cbv
  have heuros : Database.group [ann, bob] "EUR" = .ok (.eur, bob.balance) := by
    have hsum : Database.sumOf [ann, bob] "EUR" = bob.balance.toInt := by
      simp [Database.sumOf, hann, hbob]
    unfold Database.group
    rw [hsum, toInt64?_toInt]
    rfl
  have hdollars : Database.group [ann, bob] "USD" = .ok (.usd, ann.balance) := by
    have hsum : Database.sumOf [ann, bob] "USD" = ann.balance.toInt := by
      simp [Database.sumOf, hann, hbob]
    unfold Database.group
    rw [hsum, toInt64?_toInt]
    rfl
  rw [Database.totals_of_catalog hkept.catalog, haccounts, htexts, List.mapM_cons,
    List.mapM_cons, heuros, hdollars]
  rfl

/-- Books in agreement with their history can tell their status when the
totals can be told. -/
theorem exists_status {b : Books} {balances : List (Currency × Int64)} (h : b.Audited)
    (htotals : b.db.totals = .ok balances) :
    ∃ status, LedgerStatus.of b.db = .ok status ∧ status.balances = balances := by
  unfold LedgerStatus.of
  rw [h.counts_eq, htotals]
  exact ⟨_, rfl, rfl⟩

/-- The status before Ann's transfer and the one after it. -/
theorem mixed_statuses :
    ∃ before after, LedgerStatus.of (Books.after mixedCalls).db = .ok before ∧
      LedgerStatus.of (transferFunds epoch mixedTransfer (Books.after mixedCalls).db).db =
        .ok after ∧
      before.balances = [(.usd, 100), (.eur, 0)] ∧ after.balances = [(.usd, 70), (.eur, 30)] := by
  have h := audited_after mixedCalls
  have h' := h.record (.atEpoch (.transferFunds mixedTransfer))
  have haccounts : (Books.after mixedCalls).db.rows.accounts =
      [⟨1, "ann", 100, "USD", "1970-01-01T00:00:00+00:00"⟩,
        ⟨2, "bob", 0, "EUR", "1970-01-01T00:00:00+00:00"⟩] := by decide +kernel
  have haccounts' :
      ((Books.after mixedCalls).record (.atEpoch (.transferFunds mixedTransfer))).db.rows.accounts =
      [⟨1, "ann", 70, "USD", "1970-01-01T00:00:00+00:00"⟩,
        ⟨2, "bob", 30, "EUR", "1970-01-01T00:00:00+00:00"⟩] := by decide +kernel
  obtain ⟨before, hbefore, hbalances⟩ := exists_status h (totals_of_two h.kept haccounts rfl rfl)
  obtain ⟨after, hafter, hbalances'⟩ :=
    exists_status h' (totals_of_two h'.kept haccounts' rfl rfl)
  exact ⟨before, after, hbefore, hafter, hbalances, hbalances'⟩

/-! ### Conservation -/

/-- **The totals after a transfer.**  In whatever state a transfer is asked
for: if it is made, the amount leaves the total of the currency of the one
account and comes to that of the other, and if it is refused, or both are of
one currency, the totals stay as they are. -/
theorem status_after_transfer (calls : List Call) (env : Surroundings)
    (request : TransferRequest) {before after : LedgerStatus}
    (hbefore : LedgerStatus.of (Books.after calls).db = .ok before)
    (hafter : LedgerStatus.of (transferFunds env request (Books.after calls).db).db = .ok after) :
    (∀ receipt, (transferFunds env request (Books.after calls).db).outcome = .ok receipt →
      receipt.fromAccount.id = request.fromId ∧ receipt.toAccount.id = request.toId ∧
        after.balances.map (·.1) = before.balances.map (·.1) ∧
        (∀ c, (after.totalFor c).toInt = (before.totalFor c).toInt
          - (if receipt.fromAccount.currency = c then request.amount.toInt else 0)
          + (if receipt.toAccount.currency = c then request.amount.toInt else 0)) ∧
        (receipt.fromAccount.currency = receipt.toAccount.currency →
          after.balances = before.balances)) ∧
      ((∀ receipt, (transferFunds env request (Books.after calls).db).outcome ≠ .ok receipt) →
        after.balances = before.balances) := by
  have h := audited_after calls
  have h' := h.record ⟨.transferFunds request, env, Bool.noConfusion⟩
  constructor
  · intro receipt hok
    exact totals_of_transfer h.kept h'.kept hok hbefore hafter
  · intro hrefused
    exact totals_of_refused hrefused hbefore hafter

/-- Ann's transfer takes 30 from the dollars and adds them to the euros. -/
theorem status_after_mixed_transfer :
    ∃ before after, LedgerStatus.of (Books.after mixedCalls).db = .ok before ∧
      LedgerStatus.of (transferFunds epoch mixedTransfer (Books.after mixedCalls).db).db =
        .ok after ∧
      ∃ receipt,
        (transferFunds epoch mixedTransfer (Books.after mixedCalls).db).outcome = .ok receipt ∧
        ∀ c, (after.totalFor c).toInt = (before.totalFor c).toInt
          - (if receipt.fromAccount.currency = c then mixedTransfer.amount.toInt else 0)
          + (if receipt.toAccount.currency = c then mixedTransfer.amount.toInt else 0) := by
  obtain ⟨before, after, hbefore, hafter, hbalances, hbalances'⟩ := mixed_statuses
  obtain ⟨hmade, hrefused⟩ :=
    status_after_transfer mixedCalls epoch mixedTransfer hbefore hafter
  have hok : ∃ receipt,
      (transferFunds epoch mixedTransfer (Books.after mixedCalls).db).outcome = .ok receipt := by
    by_contra hnone
    have hsame := hrefused fun receipt h => hnone ⟨receipt, h⟩
    rw [hbalances, hbalances'] at hsame
    exact absurd hsame (by decide)
  obtain ⟨receipt, hreceipt⟩ := hok
  exact ⟨before, after, hbefore, hafter, receipt, hreceipt, (hmade receipt hreceipt).2.2.2.1⟩

/-- **Totals are not kept by every transfer.** -/
theorem status_not_conserved :
    ¬ ∀ (calls : List Call) (env : Surroundings) (request : TransferRequest)
        (before after : LedgerStatus),
      LedgerStatus.of (Books.after calls).db = .ok before →
      LedgerStatus.of (transferFunds env request (Books.after calls).db).db = .ok after →
        after.balances = before.balances ∧ ∀ c, after.totalFor c = before.totalFor c := by
  intro hconserved
  obtain ⟨before, after, hbefore, hafter, hbalances, hbalances'⟩ := mixed_statuses
  obtain ⟨hsame, -⟩ := hconserved mixedCalls epoch mixedTransfer before after hbefore hafter
  rw [hbalances, hbalances'] at hsame
  exact absurd hsame (by decide)

end DoubleEntry.Ledger
