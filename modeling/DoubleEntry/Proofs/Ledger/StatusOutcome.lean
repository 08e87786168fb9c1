/-
DoubleEntry/Proofs/Ledger/StatusOutcome.lean

What the status of a ledger is, in every state that a run comes to: by queries
submitted by themselves, by programs in transactions, and by the operations of
the ledger, at whatever instants.

Every account is stored under the code of a currency (`Rows.Coded`), so the
groups of accounts are those of the currencies in use, and the sum of a group
is narrowed to 64 bits only when all of it has been added up.  Hence there is a
status exactly if the exact sum of each currency fits, whatever the sums are on
the way (`status_outcome`).
-/
import DoubleEntry.Proofs.Ledger.Preserved
import DoubleEntry.Proofs.Ledger.StatusTotals

namespace DoubleEntry

variable {db : Database} {accounts : List AccountRow}

/-! ### Codes -/

/-- Every account is stored under the code of a currency. -/
def Rows.Coded (rows : Rows) : Prop :=
  ∀ r ∈ rows.accounts, ∃ c : Currency, r.currency = c.code

/-- No query stores anything else. -/
theorem Query.preserves_coded (q : Query) : q.Preserves Rows.Coded := by
  intro db db' hchange h
  cases hchange with
  | createAccount now id owner balance currency =>
      exact List.forall_mem_append.mpr ⟨h, List.forall_mem_singleton.mpr ⟨currency, rfl⟩⟩
  | addBalance row balance amount found =>
      exact forall_mem_replaced h (h row (Rows.account?_eq_some found).1)
  | deleteAccount row => exact fun r hr => h r (List.mem_filter.mp hr).1
  | createEntry | createTransfer | createUser | updateUser | createVerification
  | updateVerification | lookUp => exact h

/-! ### Sums -/

/-- The exact sum of the balances of a currency. -/
def Rows.exactTotal (rows : Rows) (c : Currency) : Int :=
  ((rows.accounts.filter fun r => r.currency = c.code).map fun r => r.balance.toInt).sum

/-- The sum is within 64 bits. -/
def Fits (total : Int) : Prop :=
  -9223372036854775808 ≤ total ∧ total ≤ 9223372036854775807

theorem fits_toInt (n : Int64) : Fits n.toInt := by
  have hlow := n.le_toInt
  have hhigh := n.toInt_lt
  unfold Fits
  omega

namespace Database

/-- A group fails because its sum does not fit, and for no other reason. -/
theorem group_error {c : Currency} {e : Error} (h : group db.rows.accounts c.code = .error e) :
    e = .database .outOfRange ∧ ¬ Fits (db.rows.exactTotal c) := by
  unfold group at h
  rw [readCurrency_code] at h
  rcases htotal : Text.toInt64? (sumOf db.rows.accounts c.code) with - | total
  · rw [htotal] at h
    cases h
    refine ⟨rfl, ?_⟩
    rw [Text.toInt64?_eq_none_iff] at htotal
    have hsum : db.rows.exactTotal c = sumOf db.rows.accounts c.code := rfl
    unfold Fits
    omega
  · rw [htotal] at h
    cases h

/-- The groups of a ledger can be told, and then all sums fit, or one of the
sums does not. -/
theorem groups_cases (hcodes : db.rows.Coded) :
    (∃ groups, (currencyTexts db.rows.accounts).mapM (group db.rows.accounts) = .ok groups ∧
        ∀ c, Fits (db.rows.exactTotal c)) ∨
      (currencyTexts db.rows.accounts).mapM (group db.rows.accounts) =
          .error (.database .outOfRange) ∧
        ∃ c, ¬ Fits (db.rows.exactTotal c) := by
  cases hgroups : (currencyTexts db.rows.accounts).mapM (group db.rows.accounts) with
  | ok groups =>
      left
      refine ⟨groups, rfl, fun c => ?_⟩
      by_cases hcode : c.code ∈ db.rows.accounts.map (·.currency)
      · obtain ⟨g, -, hgroup⟩ := (mem_of_mapM hgroups).2 _ (mem_currencyTexts.mpr hcode)
        have hsum : g.2.toInt = db.rows.exactTotal c := (group_code hgroup).2
        rw [← hsum]
        exact fits_toInt g.2
      · -- no account holds the currency
        have hsum : db.rows.exactTotal c = 0 := sumOf_eq_zero hcode
        rw [hsum]
        exact ⟨by decide, by decide⟩
  | error e =>
      right
      obtain ⟨text, htext, hgroup⟩ := exists_of_mapM_error hgroups
      obtain ⟨r, hr, rfl⟩ := List.mem_map.mp (mem_currencyTexts.mp htext)
      obtain ⟨c, hc⟩ := hcodes r hr
      rw [hc] at hgroup
      obtain ⟨rfl, hnot⟩ := group_error hgroup
      exact ⟨rfl, c, hnot⟩

/-- What is listed for a currency is its exact sum. -/
theorem toInt_of_mem_totals (hcodes : db.rows.Coded) {balances : List (Currency × Int64)}
    (h : db.totals = .ok balances) {b : Currency × Int64} (hb : b ∈ balances) :
    b.2.toInt = db.rows.exactTotal b.1 := by
  obtain ⟨groups, hgroups, rfl⟩ := totals_eq_ok h
  obtain ⟨c, -, hfound⟩ := List.mem_filterMap.mp hb
  have hmem := List.mem_reverse.mp (List.mem_of_find?_eq_some hfound)
  exact (groups_spec hcodes hgroups b.1).1 b hmem rfl

end Database

namespace Ledger

/-- **The status of a ledger**, whatever has been done with it.  It can be told
exactly if the exact sum of the balances of each currency is within 64 bits,
and otherwise the database fails.  It counts the rows that are stored, and
lists each currency that some account holds once, in the order of currencies,
with its exact sum, which is also the total of the currency. -/
theorem status_outcome (steps : List Step) :
    let db := Database.fresh.after steps
    ((∃ status, LedgerStatus.of db = .ok status) ↔ ∀ c, Fits (db.rows.exactTotal c)) ∧
      ((∃ c, ¬ Fits (db.rows.exactTotal c)) →
        LedgerStatus.of db = .error (.database .outOfRange)) ∧
      ∀ status, LedgerStatus.of db = .ok status →
        status.counts.accounts = db.rows.accounts.length ∧
        status.counts.entries = db.rows.entries.length ∧
        status.counts.transfers = db.rows.transfers.length ∧
        status.balances.map (·.1) =
          [.usd, .eur, .uah].filter (fun c => ∃ r ∈ db.rows.accounts, r.currency = c.code) ∧
        (∀ b ∈ status.balances, b.2.toInt = db.rows.exactTotal b.1) ∧
        ∀ c, (status.totalFor c).toInt = db.rows.exactTotal c := by
  intro db
  have hcodes : db.rows.Coded :=
    Database.after_preserves Query.preserves_coded steps fun r hr => absurd hr List.not_mem_nil
  have hmigrated : db.Migrated := Database.migrated_after (.inr rfl) (.inr rfl)
  rcases Database.groups_cases hcodes with ⟨groups, hgroups, hfits⟩ | ⟨hgroups, c, hnot⟩
  · obtain ⟨balances, htotals⟩ : ∃ balances, db.totals = .ok balances := by
      rw [Database.totals_of_catalog hmigrated, hgroups]
      exact ⟨_, rfl⟩
    obtain ⟨hlisted, htotal⟩ := Database.totals_spec hcodes htotals
    let counts : LedgerCounts :=
      ⟨db.rows.accounts.length, db.rows.entries.length, db.rows.transfers.length⟩
    have hstatus : LedgerStatus.of db = .ok { counts, balances } := by
      unfold LedgerStatus.of
      rw [Database.counts_of_catalog hmigrated, htotals]
      rfl
    refine ⟨iff_of_true ⟨_, hstatus⟩ hfits, fun ⟨c, hnot⟩ => absurd (hfits c) hnot, ?_⟩
    intro status h
    cases hstatus.symm.trans h
    refine ⟨rfl, rfl, rfl, ?_, fun b hb => Database.toInt_of_mem_totals hcodes htotals hb, htotal⟩
    rw [hlisted]
    simp only [List.mem_map]
    rfl
  · have hstatus : LedgerStatus.of db = .error (.database .outOfRange) := by
      unfold LedgerStatus.of
      rw [Database.counts_of_catalog hmigrated, Database.totals_of_catalog hmigrated, hgroups]
      rfl
    rw [hstatus]
    refine ⟨?_, fun _ => rfl, fun status h => by cases h⟩
    apply iff_of_false
    · rintro ⟨status, h⟩
      cases h
    · exact fun hfits => hnot (hfits c)

/-- Ann has all the dollars that a balance can hold, Bob has another one, and
Carol owes one. -/
def brimming : List Step :=
  [.operation epoch (.openAccount "ann" 9223372036854775807 "USD"),
    .operation epoch (.openAccount "bob" 1 "USD"),
    .operation epoch (.openAccount "carol" (-1) "USD")]

/-- Without Carol there is no status; with her there is, though the sum leaves
64 bits on the way. -/
theorem status_outcome_of_brimming :
    LedgerStatus.of (Database.fresh.after (brimming.take 2)) = .error (.database .outOfRange) ∧
      ∃ status, LedgerStatus.of (Database.fresh.after brimming) = .ok status ∧
        (status.totalFor .usd).toInt = 9223372036854775807 := by
  have htwo : (Database.fresh.after (brimming.take 2)).rows.exactTotal .usd =
      9223372036854775808 := by decide +kernel
  have hthree : ∀ c, (Database.fresh.after brimming).rows.exactTotal c =
      if c = .usd then 9223372036854775807 else 0 := by
    intro c
    cases c <;> decide +kernel
  constructor
  · apply (status_outcome (brimming.take 2)).2.1
    refine ⟨.usd, fun hfits => ?_⟩
    rw [htwo] at hfits
    exact absurd hfits.2 (by decide)
  · have hfits : ∀ c, Fits ((Database.fresh.after brimming).rows.exactTotal c) := by
      intro c
      rw [hthree]
      cases c <;> exact ⟨by decide, by decide⟩
    obtain ⟨htold, -, htotals⟩ := status_outcome brimming
    obtain ⟨status, hstatus⟩ := htold.mpr hfits
    obtain ⟨-, -, -, -, -, htotal⟩ := htotals status hstatus
    exact ⟨status, hstatus, (htotal .usd).trans (hthree .usd)⟩

end Ledger

end DoubleEntry
