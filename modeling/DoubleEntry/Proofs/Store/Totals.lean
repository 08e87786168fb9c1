/-
DoubleEntry/Proofs/Store/Totals.lean

What the totals of a ledger are, where each account is stored under the code
of its currency: the currencies listed are those of which there is an
account, and the total of a currency is the sum of the balances under its
code (`totals_spec`).  The totals depend on nothing but the codes and these
sums (`totals_congr`).
-/
import DoubleEntry.Proofs.Store.Kept
import DoubleEntry.Proofs.Store.Tables
import DoubleEntry.Store.Totals

namespace DoubleEntry.Database

open DoubleEntry.Text

variable {accounts accounts' : List AccountRow} {db db' : Database}

/-! ### Groups -/

theorem mem_currencyTexts {text : String} :
    text ∈ currencyTexts accounts ↔ text ∈ accounts.map (·.currency) := by
  unfold currencyTexts
  rw [List.mem_mergeSort, List.mem_eraseDups]

/-- Accounts under the code of a currency are grouped under that currency,
with the exact sum of their balances. -/
theorem group_code {c : Currency} {g : Currency × Int64}
    (h : group accounts c.code = .ok g) : g.1 = c ∧ g.2.toInt = sumOf accounts c.code := by
  unfold group at h
  rw [readCurrency_code] at h
  rcases htotal : toInt64? (sumOf accounts c.code) with - | total
  · rw [htotal] at h
    cases h
  · rw [htotal] at h
    cases h
    exact ⟨rfl, toInt_of_toInt64? htotal⟩

/-- The groups of accounts that are stored under codes: one for each code in
use, with the sum of its balances. -/
theorem groups_spec {groups : List (Currency × Int64)}
    (hcodes : ∀ r ∈ accounts, ∃ c : Currency, r.currency = c.code)
    (h : (currencyTexts accounts).mapM (group accounts) = .ok groups) (c : Currency) :
    (∀ g ∈ groups, g.1 = c → g.2.toInt = sumOf accounts c.code) ∧
      ((∃ g ∈ groups, g.1 = c) ↔ c.code ∈ accounts.map (·.currency)) := by
  obtain ⟨hleft, hright⟩ := mem_of_mapM h
  have hgroup : ∀ g ∈ groups, g.1.code ∈ accounts.map (·.currency) ∧
      g.2.toInt = sumOf accounts g.1.code := by
    intro g hg
    -- a group comes from the text of an account, and that is a code
    obtain ⟨text, htext, hg⟩ := hleft g hg
    rw [mem_currencyTexts] at htext
    obtain ⟨r, hr, rfl⟩ := List.mem_map.mp htext
    obtain ⟨d, hd⟩ := hcodes r hr
    rw [hd] at hg htext
    obtain ⟨rfl, hsum⟩ := group_code hg
    exact ⟨htext, hsum⟩
  refine ⟨?_, ?_, ?_⟩
  · rintro g hg rfl
    exact (hgroup g hg).2
  · rintro ⟨g, hg, rfl⟩
    exact (hgroup g hg).1
  · intro hcode
    obtain ⟨g, hg, hok⟩ := hright c.code (mem_currencyTexts.mpr hcode)
    exact ⟨g, hg, (group_code hok).1⟩

/-! ### Totals -/

/-- Currencies that no account is stored under have nothing. -/
theorem sumOf_eq_zero {text : String} (h : text ∉ accounts.map (·.currency)) :
    sumOf accounts text = 0 := by
  have hnone : accounts.filter (fun r => r.currency = text) = [] := by
    rw [List.filter_eq_nil_iff]
    intro r hr
    rw [decide_eq_true_eq]
    intro heq
    exact h (List.mem_map.mpr ⟨r, hr, heq⟩)
  unfold sumOf
  rw [hnone]
  rfl

section Listing

variable {f : Currency → Option (Currency × Int64)} (hf : ∀ c g, f c = some g → g.1 = c)

include hf

/-- What is listed for a currency is found under it. -/
theorem find?_filterMap_currency (c : Currency) :
    (Currency.all.filterMap f).find? (fun g => g.1 = c) = f c := by
  -- what is listed for other currencies is not found, by `hf`
  have hall : c ∈ Currency.all := by cases c <;> decide
  rw [List.find?_filterMap]
  cases hfind : Currency.all.find? fun d => (f d).any fun g => g.1 = c with
  | none =>
      cases hc : f c with
      | none => rfl
      | some g =>
          have hnot := List.find?_eq_none.mp hfind c hall
          simp [hc, hf c g hc] at hnot
  | some d =>
      have hany := List.find?_some hfind
      cases hd : f d with
      | none => simp [hd] at hany
      | some g =>
          have hdc : d = c := by simpa [hd, hf d g hd] using hany
          rw [Option.bind_some, ← hdc, hd]

theorem map_filterMap_currency :
    (Currency.all.filterMap f).map (·.1) = Currency.all.filter fun c => (f c).isSome := by
  induction Currency.all with
  | nil => rfl
  | cons c cs ih =>
      cases hc : f c with
      | none => rw [List.filterMap_cons_none hc, List.filter_cons_of_neg (by simp [hc]), ih]
      | some g =>
          rw [List.filterMap_cons_some hc, List.filter_cons_of_pos (by simp [hc]), List.map_cons,
            ih, hf c g hc]

end Listing

variable {balances : List (Currency × Int64)}

/-- In a migrated ledger the rows can always be counted. -/
theorem counts_of_catalog (h : db.catalog = fresh.catalog) :
    db.counts = .ok {
      accounts := db.rows.accounts.length
      entries := db.rows.entries.length
      transfers := db.rows.transfers.length } := by
  obtain ⟨haccounts, hentries, htransfers⟩ := fresh_hasTable
  unfold counts requireTable
  rw [h, if_pos haccounts, if_pos hentries, if_pos htransfers]
  rfl

/-- In a migrated ledger the totals can be told if all groups can. -/
theorem totals_of_catalog (h : db.catalog = fresh.catalog) :
    db.totals = ((currencyTexts db.rows.accounts).mapM (group db.rows.accounts)).map
      fun groups => Currency.all.filterMap fun c => groups.reverse.find? fun g => g.1 = c := by
  unfold totals requireTable
  rw [h, if_pos fresh_hasTable.1]
  cases (currencyTexts db.rows.accounts).mapM (group db.rows.accounts) <;> rfl

theorem totals_eq_ok (h : db.totals = .ok balances) :
    ∃ groups, (currencyTexts db.rows.accounts).mapM (group db.rows.accounts) = .ok groups ∧
      balances = Currency.all.filterMap fun c => groups.reverse.find? fun g => g.1 = c := by
  unfold totals at h
  cases htable : db.requireTable Migration.accountTable with
  | error e =>
      rw [htable] at h
      cases h
  | ok u =>
      rw [htable] at h
      cases hgroups : (currencyTexts db.rows.accounts).mapM (group db.rows.accounts) with
      | error e =>
          rw [hgroups] at h
          cases h
      | ok groups =>
          rw [hgroups] at h
          cases h
          exact ⟨groups, rfl, rfl⟩

/-- The totals of a ledger whose accounts are stored under codes: the
currencies in use, each with the exact sum of its balances. -/
theorem totals_spec (hcodes : ∀ r ∈ db.rows.accounts, ∃ c : Currency, r.currency = c.code)
    (h : db.totals = .ok balances) :
    balances.map (·.1) =
        Currency.all.filter (fun c => c.code ∈ db.rows.accounts.map (·.currency)) ∧
      ∀ c : Currency,
        (((balances.find? fun b : Currency × Int64 => b.1 = c).map (·.2)).getD 0 : Int64).toInt =
          sumOf db.rows.accounts c.code := by
  obtain ⟨groups, hgroups, rfl⟩ := totals_eq_ok h
  have hspec := groups_spec hcodes hgroups
  have hkey : ∀ (c : Currency) (g : Currency × Int64),
      groups.reverse.find? (fun g => g.1 = c) = some g → g.1 = c := by
    intro c g hg
    have hdecide := List.find?_some hg
    exact of_decide_eq_true hdecide
  constructor
  · rw [map_filterMap_currency hkey]
    congr 1
    funext c
    rw [Bool.eq_iff_iff, List.find?_isSome, decide_eq_true_eq, ← (hspec c).2]
    simp only [List.mem_reverse, decide_eq_true_eq]
  · intro c
    rw [find?_filterMap_currency hkey]
    cases hg : groups.reverse.find? fun g => g.1 = c with
    | some g =>
        have hmem := List.mem_reverse.mp (List.mem_of_find?_eq_some hg)
        exact (hspec c).1 g hmem (hkey c g hg)
    | none =>
        have hnone : c.code ∉ db.rows.accounts.map (·.currency) := by
          rw [← (hspec c).2]
          rintro ⟨g, hmem, hgc⟩
          have hnot := List.find?_eq_none.mp hg g (List.mem_reverse.mpr hmem)
          exact hnot (decide_eq_true hgc)
        rw [sumOf_eq_zero hnone]
        rfl

/-- The totals depend on the currencies of the accounts and the sum under
each, and on nothing else. -/
theorem totals_congr (hcatalog : db'.catalog = db.catalog)
    (hcurrencies : db'.rows.accounts.map (·.currency) = db.rows.accounts.map (·.currency))
    (hsums : ∀ text, sumOf db'.rows.accounts text = sumOf db.rows.accounts text) :
    db'.totals = db.totals := by
  have htexts : currencyTexts db'.rows.accounts = currencyTexts db.rows.accounts := by
    unfold currencyTexts
    rw [hcurrencies]
  have hgroup : group db'.rows.accounts = group db.rows.accounts := by
    funext text
    unfold group
    rw [hsums text]
  unfold totals requireTable
  rw [hcatalog, htexts, hgroup]

end DoubleEntry.Database
