/-
DoubleEntry/Proofs/Ledger/Alike.lean

Operations on alike ledgers.  A unit of work that gets arguments which differ
in personal values only, on databases that do, issues queries that agree one
by one, and so agrees as a whole (`Work.Agree`).  Every operation of the
ledger is such a unit or a single query behind a check.
-/
import DoubleEntry.Proofs.Ledger.Closing
import DoubleEntry.Proofs.Ledger.TransferOutcome
import DoubleEntry.Proofs.Store.Alike
import DoubleEntry.Ledger.Status
import DoubleEntry.Ledger.Verifications

namespace DoubleEntry

variable {α β γ δ : Type} {R : α → β → Prop} {db db' : Database}

/-! ### Checks that agree -/

/-- Two checks come to the same result, or one of them fails on a personal
value. -/
inductive ChecksAgree (r r' : Except Error α) : Prop
  | same (h : r' = r)
  | left {e : Error} (personal : e.IsPersonal) (h : r = .error e)
  | right {e : Error} (personal : e.IsPersonal) (h : r' = .error e)

/-- Conditions of which each may fail on a personal value. -/
theorem checksAgree_ensure (c c' : Bool) {v v' : Violation} (hv : (Error.constraint v).IsPersonal)
    (hv' : (Error.constraint v').IsPersonal) : ChecksAgree (ensure c v) (ensure c' v') := by
  cases c with
  | false => exact .left hv rfl
  | true =>
      cases c' with
      | false => exact .right hv' rfl
      | true => exact .same rfl

/-! ### Units that agree -/

namespace Work

/-- Run by themselves at the same times on alike databases, two units
agree. -/
def Agree (R : α → β → Prop) (w : Work α) (w' : Work β) : Prop :=
  ∀ (clock : Nat → Instant) {db db' : Database}, db.Alike db' →
    (w.submitEach clock db).Agree R (w'.submitEach clock db')

theorem agree_done {a : α} {b : β} (h : R a b) : (done a).Agree R (done b) :=
  fun _ _ _ hdb => .answered h hdb

/-- A unit of one query is that query. -/
theorem submitEach_query_eq (q : Query) (clock : Nat → Instant) (db : Database) :
    (query q).submitEach clock db = submit (clock 0) q db := by
  simp only [query, submitEach]
  rcases submit (clock 0) q db with ⟨outcome, db₁⟩
  cases outcome <;> rfl

section Query

variable {q q' : Query} {S : q.Answer → q'.Answer → Prop}
  (hq : ∀ (now : Instant) {db db' : Database}, db.Alike db' →
    (submit now q db).Agree S (submit now q' db'))

include hq

theorem agree_query : (query q).Agree S (query q') := by
  intro clock db db' hdb
  rw [submitEach_query_eq, submitEach_query_eq]
  exact hq _ hdb

/-- Units agree that start with queries that agree, and then agree for any
two answers. -/
theorem agree_query_bind {f : q.Answer → Work α} {f' : q'.Answer → Work β}
    (hf : ∀ a a', S a a' → (f a).Agree R (f' a')) :
    (query q >>= f).Agree R (query q' >>= f') := by
  intro clock db db' hdb
  have hagree := hq (clock 0) hdb
  show ((call q f).submitEach clock db).Agree R ((call q' f').submitEach clock db')
  simp only [submitEach]
  generalize submit (clock 0) q db = ran at hagree
  generalize submit (clock 0) q' db' = ran' at hagree
  cases hagree with
  | answered answer after => exact hf _ _ answer _ after
  | failed e after => exact .failed e after
  | crashed after => exact .crashed after
  | left personal => exact .left personal _ _
  | right personal => exact .right personal _ _

end Query

theorem agree_check_bind {r r' : Except Error γ} (h : ChecksAgree r r') {f : γ → Work α}
    {f' : γ → Work β} (hf : ∀ c, (f c).Agree R (f' c)) :
    (check r >>= f).Agree R (check r' >>= f') := by
  intro clock db db' hdb
  cases h with
  | same hsame =>
      rw [hsame]
      cases r with
      | ok c => exact hf c clock hdb
      | error e => exact .failed e hdb
  | left personal hleft =>
      rw [hleft]
      exact .left personal _ _
  | right personal hright =>
      rw [hright]
      exact .right personal _ _

/-- What is made of the values agrees if it does so for values that agree. -/
theorem agree_map {w : Work γ} {w' : Work δ} {S : γ → δ → Prop} {g : γ → α} {g' : δ → β}
    (hw : w.Agree S w') (hg : ∀ c d, S c d → R (g c) (g' d)) :
    (w >>= fun c => done (g c)).Agree R (w' >>= fun d => done (g' d)) := by
  intro clock db db' hdb
  rw [submitEach_map, submitEach_map]
  exact (hw clock hdb).map hg

/-- Units that agree by themselves agree in transactions that nothing
disturbs. -/
theorem agree_execute {env : Surroundings} {token : CancelToken} {w : Work α} {w' : Work β}
    (h : w.Agree R w') (hnever : w.NeverCancels) (hnever' : w'.NeverCancels)
    (hfail : env.failOn = none) (htoken : token.isCancelled = false) (hdb : db.Alike db') :
    (w.execute env token db).Agree R (w'.execute env token db') := by
  have hagree := h env.clock hdb
  generalize hran : w.submitEach env.clock db = ran at hagree
  generalize hran' : w'.submitEach env.clock db' = ran' at hagree
  cases hagree with
  | answered answer after =>
      rw [execute_of_answered hnever hfail htoken hran,
        execute_of_answered hnever' hfail htoken hran']
      exact .answered answer after
  | failed e after =>
      rw [execute_of_refused hnever hfail htoken hran,
        execute_of_refused hnever' hfail htoken hran']
      exact .failed e ⟨hdb.catalog, hdb.rows, after.sequences⟩
  | crashed after =>
      rw [execute_of_crashed hnever hfail htoken hran,
        execute_of_crashed hnever' hfail htoken hran']
      exact .crashed ⟨hdb.catalog, hdb.rows, after.sequences⟩
  | left personal =>
      rw [execute_of_refused hnever hfail htoken hran]
      exact .left personal _ _
  | right personal =>
      rw [execute_of_refused hnever' hfail htoken hran']
      exact .right personal _ _

end Work

/-! ### Operations -/

namespace Ledger

variable {env : Surroundings}

theorem openAccount_agree (hdb : db.Alike db') (owner owner' : String) (balance balance' : Int64)
    (currency : String) :
    (openAccount env owner balance currency db).Agree anyAnswers
      (openAccount env owner' balance' currency db') := by
  have hblank : (Error.constraint .blankOwner).IsPersonal := trivial
  unfold openAccount checkOpening ensure
  cases Text.allBlank owner with
  | true => exact .left hblank _ _
  | false =>
      cases Text.allBlank owner' with
      | true => exact .right hblank _ _
      | false =>
          cases Currency.parse currency with
          | ok c => exact submit_createAccount_agree hdb _ _ _ _ _
          | error e => exact .failed e hdb

theorem getAccount_agree (hdb : db.Alike db') (id : Int64) :
    (getAccount env id db).Agree anyAnswers (getAccount env id db') :=
  submit_account_agree hdb id

theorem listAccounts_agree (hdb : db.Alike db') (owner owner' : Option String) (page : Page) :
    (listAccounts env owner page db).Agree anyAnswers (listAccounts env owner' page db') := by
  unfold listAccounts
  split
  · exact submit_accounts_agree hdb _ _ _
  · exact .failed _ hdb

theorem closeAccount_agree (hfail : env.failOn = none) (hdb : db.Alike db') (id : Int64) :
    (closeAccount env id db).Agree anyAnswers (closeAccount env id db') := by
  apply Work.agree_execute _ (neverCancels_closeWork id) (neverCancels_closeWork id) hfail rfl hdb
  unfold closeWork
  apply Work.agree_query_bind fun _ _ _ hdb => submit_accountForUpdate_agree hdb id
  intro a a' _
  apply Work.agree_query_bind fun _ _ _ hdb => submit_entries_agree hdb id _
  intro es es' hes
  have hempty : es'.isEmpty = es.isEmpty := by
    rw [Bool.eq_iff_iff, List.isEmpty_iff_length_eq_zero, List.isEmpty_iff_length_eq_zero, hes]
  apply Work.agree_check_bind (.same (by rw [hempty]))
  intro _
  exact Work.agree_query fun _ _ _ hdb =>
    (submit_deleteAccount_agree hdb id).mono fun _ _ _ => trivial

theorem neverCancels_adjustWork (id amount : Int64) : (adjustWork id amount).NeverCancels := by
  unfold adjustWork
  refine Work.neverCancels_bind (Work.neverCancels_query _) fun account => ?_
  refine Work.neverCancels_bind (Work.neverCancels_query _) fun entry => ?_
  exact Work.neverCancels_bind (Work.neverCancels_query _) fun account => trivial

theorem adjustBalance_agree (hfail : env.failOn = none) (hdb : db.Alike db')
    (id amount amount' : Int64) :
    (adjustBalance env id amount db).Agree anyAnswers (adjustBalance env id amount' db') := by
  have hzero : (Error.constraint .zeroAdjustment).IsPersonal := trivial
  have hwork : (adjustWork id amount).Agree anyAnswers (adjustWork id amount') := by
    unfold adjustWork
    apply Work.agree_query_bind fun _ _ _ hdb => submit_accountForUpdate_agree hdb id
    intro account account' _
    apply Work.agree_query_bind fun _ _ _ hdb => submit_createEntry_agree hdb id amount amount'
    intro entry entry' _
    apply Work.agree_query_bind fun _ _ _ hdb => submit_addBalance_agree hdb id amount amount'
    intro account account' _
    exact Work.agree_done trivial
  unfold adjustBalance
  cases checksAgree_ensure (decide (amount ≠ 0)) (decide (amount' ≠ 0)) hzero hzero with
  | left personal h =>
      rw [h]
      exact .left personal _ _
  | right personal h =>
      rw [h]
      exact .right personal _ _
  | same h =>
      rw [h]
      split
      · exact Work.agree_execute hwork (neverCancels_adjustWork _ _) (neverCancels_adjustWork _ _)
          hfail rfl hdb
      · exact .failed _ hdb

/-- Two additions to balances, one after the other. -/
theorem additions_agree {f : Account → Account → α} {f' : Account → Account → β}
    (hf : ∀ a b a' b', R (f a b) (f' a' b')) (id₁ amount₁ amount₁' id₂ amount₂ amount₂' : Int64) :
    (do
      let a ← Work.query (.addBalance id₁ amount₁)
      let b ← Work.query (.addBalance id₂ amount₂)
      return f a b : Work α).Agree R (do
        let a ← Work.query (.addBalance id₁ amount₁')
        let b ← Work.query (.addBalance id₂ amount₂')
        return f' a b) := by
  apply Work.agree_query_bind fun _ _ _ hdb => submit_addBalance_agree hdb id₁ amount₁ amount₁'
  intro a a' _
  apply Work.agree_query_bind fun _ _ _ hdb => submit_addBalance_agree hdb id₂ amount₂ amount₂'
  intro b b' _
  exact Work.agree_done (hf a b a' b')

theorem addMoney_agree (id₁ amount₁ amount₁' id₂ amount₂ amount₂' : Int64) :
    (addMoney id₁ amount₁ id₂ amount₂).Agree anyAnswers
      (addMoney id₁ amount₁' id₂ amount₂') := by
  unfold addMoney
  -- the order of the additions depends on the ids alone
  split
  · exact additions_agree (fun _ _ _ _ => trivial) _ _ _ _ _ _
  · exact additions_agree (fun _ _ _ _ => trivial) _ _ _ _ _ _

/-- The request of a transfer is checked for its amount first. -/
theorem checksAgree_validate (fromId toId amount amount' : Int64) :
    ChecksAgree (TransferRequest.validate ⟨fromId, toId, amount⟩)
      (TransferRequest.validate ⟨fromId, toId, amount'⟩) := by
  unfold TransferRequest.validate ensure
  by_cases hamount : 0 < amount.toInt
  · by_cases hamount' : 0 < amount'.toInt
    · simp only [hamount, hamount']
      exact .same rfl
    · have hpersonal : (Error.constraint (.amountNotPositive amount')).IsPersonal := trivial
      simp only [hamount']
      exact .right hpersonal rfl
  · have hpersonal : (Error.constraint (.amountNotPositive amount)).IsPersonal := trivial
    simp only [hamount]
    exact .left hpersonal rfl

theorem transferFunds_agree (hfail : env.failOn = none) (hdb : db.Alike db')
    (fromId toId amount amount' : Int64) :
    (transferFunds env ⟨fromId, toId, amount⟩ db).Agree anyAnswers
      (transferFunds env ⟨fromId, toId, amount'⟩ db') := by
  apply Work.agree_execute _ (neverCancels_transferWork _) (neverCancels_transferWork _) hfail rfl hdb
  unfold transferWork
  apply Work.agree_check_bind (checksAgree_validate fromId toId amount amount')
  intro _
  apply Work.agree_query_bind fun _ _ _ hdb =>
    submit_createTransfer_agree hdb fromId toId amount amount'
  intro transfer transfer' _
  apply Work.agree_query_bind fun _ _ _ hdb =>
    submit_createEntry_agree hdb fromId (-amount) (-amount')
  intro debit debit' _
  apply Work.agree_query_bind fun _ _ _ hdb => submit_createEntry_agree hdb toId amount amount'
  intro credit credit' _
  exact Work.agree_map (addMoney_agree _ _ _ _ _ _) fun _ _ _ => trivial

theorem getTransfer_agree (hdb : db.Alike db') (id : Int64) :
    (getTransfer env id db).Agree (fun t t' => t'.fromId = t.fromId) (getTransfer env id db') :=
  submit_transfer_agree hdb id

theorem getEntry_agree (hdb : db.Alike db') (id : Int64) :
    (getEntry env id db).Agree (fun e e' => e'.accountId = e.accountId) (getEntry env id db') :=
  submit_entry_agree hdb id

/-- A page of what belongs to an account agrees if the query for it does. -/
theorem pageWork_agree (accountId : Int64) (page : Page) {q : Query}
    {S : q.Answer → q.Answer → Prop}
    (hq : ∀ (now : Instant) {db db' : Database}, db.Alike db' →
      (submit now q db).Agree S (submit now q db')) :
    (pageWork accountId page q).Agree S (pageWork accountId page q) := by
  unfold pageWork
  apply Work.agree_check_bind (.same rfl)
  intro _
  apply Work.agree_query_bind fun _ _ _ hdb => submit_account_agree hdb accountId
  intro account account' _
  exact Work.agree_query hq

theorem listTransfers_agree (hdb : db.Alike db') (accountId : Int64) (page : Page) :
    (listTransfers env accountId page db).Agree (fun ts ts' => ts'.length = ts.length)
      (listTransfers env accountId page db') :=
  pageWork_agree accountId page (fun _ _ _ hdb => submit_transfers_agree hdb accountId page)
    env.clock hdb

theorem listEntries_agree (hdb : db.Alike db') (accountId : Int64) (page : Page) :
    (listEntries env accountId page db).Agree (fun es es' => es'.length = es.length)
      (listEntries env accountId page db') :=
  pageWork_agree accountId page (fun _ _ _ hdb => submit_entries_agree hdb accountId page)
    env.clock hdb

theorem createUser_agree (hdb : db.Alike db') (username fullName email : String) :
    (createUser env username fullName email db).Agree anyAnswers
      (createUser env username fullName email db') := by
  unfold createUser
  split
  · exact (submit_agree_of_isAboutUsers hdb (.createUser username _ email) rfl).mono
      fun _ _ _ => trivial
  · exact .failed _ hdb

theorem getUser_agree (hdb : db.Alike db') (username : String) :
    (getUser env username db).Agree anyAnswers (getUser env username db') :=
  (submit_agree_of_isAboutUsers hdb (.user username) rfl).mono fun _ _ _ => trivial

theorem neverCancels_requestWork (lifetime : Duration) (username secretCode : String) :
    (requestWork lifetime username secretCode).NeverCancels := by
  unfold requestWork
  refine Work.neverCancels_bind (Work.neverCancels_query _) fun user => ?_
  exact Work.neverCancels_bind (Work.neverCancels_check _) fun _ => Work.neverCancels_query _

theorem requestVerification_agree (hfail : env.failOn = none) (hdb : db.Alike db')
    (lifetime : Duration) (username secretCode : String) :
    (requestVerification env lifetime username secretCode db).Agree anyAnswers
      (requestVerification env lifetime username secretCode db') := by
  apply Work.agree_execute _ (neverCancels_requestWork _ _ _) (neverCancels_requestWork _ _ _) hfail
    rfl hdb
  unfold requestWork
  apply Work.agree_query_bind fun _ _ _ hdb => submit_agree_of_isAboutUsers hdb _ rfl
  rintro user _ rfl
  apply Work.agree_check_bind (.same rfl)
  intro _
  exact Work.agree_query fun _ _ _ hdb =>
    (submit_agree_of_isAboutUsers hdb (.createVerification ..) rfl).mono fun _ _ _ => trivial

theorem neverCancels_confirmWork (id : Int64) (secretCode : String) (now : Instant) :
    (confirmWork id secretCode now).NeverCancels := by
  unfold confirmWork
  refine Work.neverCancels_bind (Work.neverCancels_query _) fun record => ?_
  refine Work.neverCancels_bind (Work.neverCancels_check _) fun _ => ?_
  refine Work.neverCancels_bind (Work.neverCancels_check _) fun _ => ?_
  refine Work.neverCancels_bind (Work.neverCancels_check _) fun _ => ?_
  refine Work.neverCancels_bind (Work.neverCancels_query _) fun verification => ?_
  exact Work.neverCancels_bind (Work.neverCancels_query _) fun user => trivial

theorem verifyEmail_agree (hfail : env.failOn = none) (hdb : db.Alike db') (id : Int64)
    (secretCode : String) :
    (verifyEmail env id secretCode db).Agree anyAnswers (verifyEmail env id secretCode db') := by
  apply Work.agree_execute _ (neverCancels_confirmWork _ _ _) (neverCancels_confirmWork _ _ _) hfail
    rfl hdb
  unfold confirmWork
  apply Work.agree_query_bind fun _ _ _ hdb => submit_agree_of_isAboutUsers hdb _ rfl
  rintro record _ rfl
  apply Work.agree_check_bind (.same rfl)
  intro _
  apply Work.agree_check_bind (.same rfl)
  intro _
  apply Work.agree_check_bind (.same rfl)
  intro _
  apply Work.agree_query_bind fun _ _ _ hdb => submit_agree_of_isAboutUsers hdb _ rfl
  rintro verification _ rfl
  apply Work.agree_query_bind fun _ _ _ hdb => submit_agree_of_isAboutUsers hdb _ rfl
  intro user user' _
  exact Work.agree_done trivial

end Ledger

/-! ### Migrations and status -/

namespace Database

theorem Alike.requireTable_eq (hdb : db.Alike db') (table : Table) :
    db'.requireTable table = db.requireTable table := by
  unfold requireTable
  rw [hdb.catalog]

/-- Migrations change the catalog, which is the same in both databases. -/
theorem Alike.migrate (hdb : db.Alike db') :
    db'.migrate.1 = db.migrate.1 ∧ db.migrate.2.Alike db'.migrate.2 := by
  unfold Database.migrate
  rw [hdb.catalog]
  exact ⟨rfl, rfl, hdb.rows, hdb.sequences⟩

/-- Rows are counted in both databases or in neither. -/
theorem Alike.counts_agree (hdb : db.Alike db') : ResultsAgree anyAnswers db.counts db'.counts := by
  unfold Database.counts
  simp only [hdb.requireTable_eq]
  cases db.requireTable Migration.accountTable with
  | error e => exact .error e
  | ok _ =>
      cases db.requireTable Migration.entryTable with
      | error e => exact .error e
      | ok _ =>
          cases db.requireTable Migration.transferTable with
          | error e => exact .error e
          | ok _ => exact .ok trivial

/-- A group of accounts fails for a balance or a text that cannot be read. -/
theorem isPersonal_of_group {accounts : List AccountRow} {text : String} {e : Error}
    (h : group accounts text = .error e) : e.IsPersonal := by
  unfold group at h
  cases hcurrency : readCurrency text with
  | error f =>
      obtain ⟨column, rfl⟩ := failsUndecoded_readCurrency text f hcurrency
      rw [hcurrency] at h
      cases h
      trivial
  | ok c =>
      rw [hcurrency] at h
      cases htotal : Text.toInt64? (sumOf accounts text) with
      | some total =>
          rw [htotal] at h
          cases h
      | none =>
          rw [htotal] at h
          cases h
          trivial

/-- Totals fail for want of the table, or on a group. -/
theorem totals_error {e : Error} (h : db.totals = .error e) :
    db.requireTable Migration.accountTable = .error e ∨ e.IsPersonal := by
  unfold totals at h
  cases htable : db.requireTable Migration.accountTable with
  | error e' =>
      rw [htable] at h
      cases h
      exact .inl rfl
  | ok _ =>
      rw [htable] at h
      change ((currencyTexts db.rows.accounts).mapM (group db.rows.accounts) >>= _) = _ at h
      cases hgroups : (currencyTexts db.rows.accounts).mapM (group db.rows.accounts) with
      | ok groups =>
          rw [hgroups] at h
          cases h
      | error e' =>
          rw [hgroups] at h
          cases h
          obtain ⟨text, -, htext⟩ := exists_of_mapM_error hgroups
          exact .inr (isPersonal_of_group htext)

/-- Without the table of accounts there are no totals in either database. -/
theorem Alike.totals_error (hdb : db.Alike db') {e : Error}
    (htable : db.requireTable Migration.accountTable = .error e) :
    db.totals = .error e ∧ db'.totals = .error e := by
  unfold totals
  rw [hdb.requireTable_eq, htable]
  exact ⟨rfl, rfl⟩

end Database

/-- Both ledgers have a status, or neither for the same reason, or one has
none for its balances. -/
theorem LedgerStatus.of_agree (hdb : db.Alike db') :
    Ran.Agree anyAnswers { outcome := .ofExcept (LedgerStatus.of db), db := db }
      { outcome := .ofExcept (LedgerStatus.of db'), db := db' } := by
  unfold LedgerStatus.of
  have hcounts := hdb.counts_agree
  generalize db.counts = counts at hcounts
  generalize db'.counts = counts' at hcounts
  cases hcounts with
  | error e => exact .failed e hdb
  | ok _ =>
      cases htotals : db.totals with
      | error e =>
          rcases Database.totals_error htotals with htable | personal
          · rw [(hdb.totals_error htable).2]
            exact .failed e hdb
          · exact .left personal _ _
      | ok totals =>
          cases htotals' : db'.totals with
          | ok totals' => exact .answered trivial hdb
          | error e =>
              rcases Database.totals_error htotals' with htable | personal
              · rw [hdb.requireTable_eq] at htable
                rw [(hdb.totals_error htable).1] at htotals
                cases htotals
              · exact .right personal _ _

end DoubleEntry
