/-
DoubleEntry/Proofs/Store/Alike.lean

Two databases that differ in nothing but personal values.  The owners of
accounts, their balances and the amounts of entries and transfers are
personal; `Database.Alike` relates databases that agree in all else.

A query that gets arguments and a database that are alike in this sense ends
alike (`Ran.Agree`): both runs answer, and leave databases that are alike
again, or both fail with the same error.  The only other way is that one of
the runs fails with an error that a personal value can bring about
(`Error.IsPersonal`), such as an amount that is not positive.
-/
import Mathlib.Data.List.Forall2
import DoubleEntry.Proofs.Store.Steady
import DoubleEntry.Proofs.Store.Tables
import DoubleEntry.Proofs.Store.Written

namespace DoubleEntry

open Performed

variable {α β : Type} {R : α → β → Prop} {db db' : Database}

/-! ### Alike rows -/

/-- The same account with another owner and another balance. -/
structure AccountRow.Alike (r r' : AccountRow) : Prop where
  id : r'.id = r.id
  currency : r'.currency = r.currency
  createdAt : r'.createdAt = r.createdAt

/-- The same entry with another amount. -/
structure EntryRow.Alike (r r' : EntryRow) : Prop where
  id : r'.id = r.id
  accountId : r'.accountId = r.accountId
  createdAt : r'.createdAt = r.createdAt

/-- The same transfer with another amount. -/
structure TransferRow.Alike (r r' : TransferRow) : Prop where
  id : r'.id = r.id
  fromId : r'.fromId = r.fromId
  toId : r'.toId = r.toId
  createdAt : r'.createdAt = r.createdAt

/-- The same rows but for owners, balances and amounts. -/
structure Rows.Alike (r r' : Rows) : Prop where
  accounts : List.Forall₂ AccountRow.Alike r.accounts r'.accounts
  entries : List.Forall₂ EntryRow.Alike r.entries r'.entries
  transfers : List.Forall₂ TransferRow.Alike r.transfers r'.transfers
  users : r'.users = r.users
  verifications : r'.verifications = r.verifications

/-- The same database but for owners, balances and amounts. -/
structure Database.Alike (db db' : Database) : Prop where
  catalog : db'.catalog = db.catalog
  rows : db.rows.Alike db'.rows
  sequences : db'.sequences = db.sequences

theorem AccountRow.Alike.refl (r : AccountRow) : r.Alike r := ⟨rfl, rfl, rfl⟩

theorem EntryRow.Alike.refl (r : EntryRow) : r.Alike r := ⟨rfl, rfl, rfl⟩

theorem TransferRow.Alike.refl (r : TransferRow) : r.Alike r := ⟨rfl, rfl, rfl, rfl⟩

theorem Database.Alike.refl (db : Database) : db.Alike db where
  catalog := rfl
  rows :=
    { accounts := List.forall₂_same.mpr fun r _ => .refl r
      entries := List.forall₂_same.mpr fun r _ => .refl r
      transfers := List.forall₂_same.mpr fun r _ => .refl r
      users := rfl
      verifications := rfl }
  sequences := rfl

/-- The same row is found in lists of related rows. -/
theorem find?_forall₂ {p : α → Bool} {p' : β → Bool} (hp : ∀ a b, R a b → p a = p' b)
    {as : List α} {bs : List β} (h : List.Forall₂ R as bs) :
    (as.find? p = none ∧ bs.find? p' = none) ∨
      ∃ a b, as.find? p = some a ∧ bs.find? p' = some b ∧ R a b := by
  induction h with
  | nil => exact Or.inl ⟨rfl, rfl⟩
  | @cons a b as bs hab _ ih =>
      have heq := hp a b hab
      cases hfound : p a with
      | true =>
          rw [hfound] at heq
          exact Or.inr ⟨a, b, List.find?_cons_of_pos hfound, List.find?_cons_of_pos heq.symm, hab⟩
      | false =>
          rw [hfound] at heq
          rw [List.find?_cons_of_neg (by simp [hfound]), List.find?_cons_of_neg (by simp [← heq])]
          exact ih

theorem Rows.Alike.account? {r r' : Rows} (h : r.Alike r') (id : Int64) :
    (r.account? id = none ∧ r'.account? id = none) ∨
      ∃ row row', r.account? id = some row ∧ r'.account? id = some row' ∧ row.Alike row' := by
  apply find?_forall₂ _ h.accounts
  intro a b hab
  rw [hab.id]

theorem Rows.Alike.user?_eq {r r' : Rows} (h : r.Alike r') (username : String) :
    r'.user? username = r.user? username := by
  unfold Rows.user?
  rw [h.users]

theorem Rows.Alike.verification?_eq {r r' : Rows} (h : r.Alike r') (id : Int64) :
    r'.verification? id = r.verification? id := by
  unfold Rows.verification?
  rw [h.verifications]

/-! ### Results -/

/-- Results that are values related by `R`, or the same error. -/
inductive ResultsAgree {ε : Type} (R : α → β → Prop) : Except ε α → Except ε β → Prop
  | ok {a : α} {b : β} (h : R a b) : ResultsAgree R (.ok a) (.ok b)
  | error (e : ε) : ResultsAgree R (.error e) (.error e)

theorem ResultsAgree.refl {ε : Type} (r : Except ε α) : ResultsAgree Eq r r := by
  cases r with
  | ok a => exact .ok rfl
  | error e => exact .error e

/-- What is not asked of the answers of two queries. -/
def anyAnswers (_ : α) (_ : β) : Prop := True

/-! ### Reading that fails -/

/-- Reading fails for no other reason than a text that cannot be read. -/
def FailsUndecoded (r : Except Fault α) : Prop :=
  ∀ f, r = .error f → ∃ column, f = .undecodable column

theorem failsUndecoded_ok (a : α) : FailsUndecoded (.ok a : Except Fault α) :=
  fun _ h => nomatch h

theorem failsUndecoded_bind {r : Except Fault α} (hr : FailsUndecoded r)
    {g : α → Except Fault β} (hg : ∀ a, FailsUndecoded (g a)) : FailsUndecoded (r >>= g) := by
  cases r with
  | error f => exact fun _ h => hr _ (by cases h; rfl)
  | ok a => exact hg a

theorem failsUndecoded_readInstant (column text : String) :
    FailsUndecoded (readInstant column text) := by
  intro f h
  unfold readInstant at h
  split at h
  · cases h
  · cases h
    exact ⟨column, rfl⟩

theorem failsUndecoded_readCurrency (text : String) : FailsUndecoded (readCurrency text) := by
  intro f h
  unfold readCurrency at h
  split at h
  · cases h
  · cases h
    exact ⟨"currency", rfl⟩

theorem AccountRow.failsUndecoded_read (r : AccountRow) : FailsUndecoded r.read :=
  failsUndecoded_bind (failsUndecoded_readCurrency _) fun _ =>
    failsUndecoded_bind (failsUndecoded_readInstant _ _) fun _ => failsUndecoded_ok _

theorem EntryRow.failsUndecoded_read (r : EntryRow) : FailsUndecoded r.read :=
  failsUndecoded_bind (failsUndecoded_readInstant _ _) fun _ => failsUndecoded_ok _

theorem TransferRow.failsUndecoded_read (r : TransferRow) : FailsUndecoded r.read :=
  failsUndecoded_bind (failsUndecoded_readInstant _ _) fun _ => failsUndecoded_ok _

theorem failsUndecoded_mapM {f : α → Except Fault β} (hf : ∀ a, FailsUndecoded (f a))
    (as : List α) : FailsUndecoded (as.mapM f) := by
  intro e h
  obtain ⟨a, -, ha⟩ := exists_of_mapM_error h
  exact hf a e ha

/-! ### Runs that agree -/

/-- An owner, a balance or an amount can bring the error about: by its own
value, by the sum it adds to, or by the rows that it selects. -/
def Error.IsPersonal : Error → Prop
  | .constraint (.amountNotPositive _) => True
  | .constraint .zeroAdjustment => True
  | .constraint .blankOwner => True
  | .constraint .checkFailed => True
  | .database .outOfRange => True
  | .database (.undecodable _) => True
  | _ => False

/-- Both runs answer, both fail in the same way, or one of them fails with an
error that a personal value has brought about. -/
inductive Ran.Agree (R : α → β → Prop) : Ran α → Ran β → Prop
  | answered {a : α} {b : β} {db db' : Database} (answer : R a b) (after : db.Alike db') :
      Agree R { outcome := .ok a, db := db } { outcome := .ok b, db := db' }
  | failed (e : Error) {db db' : Database} (after : db.Alike db') :
      Agree R { outcome := .error e, db := db } { outcome := .error e, db := db' }
  | crashed {db db' : Database} (after : db.Alike db') :
      Agree R { outcome := .crash, db := db } { outcome := .crash, db := db' }
  | left {e : Error} (personal : e.IsPersonal) (db : Database) (ran : Ran β) :
      Agree R { outcome := .error e, db := db } ran
  | right {e : Error} (personal : e.IsPersonal) (ran : Ran α) (db : Database) :
      Agree R ran { outcome := .error e, db := db }

theorem Ran.Agree.mono {S : α → β → Prop} {ran : Ran α} {ran' : Ran β} (h : ran.Agree R ran')
    (hRS : ∀ a b, R a b → S a b) : ran.Agree S ran' := by
  cases h with
  | answered answer after => exact .answered (hRS _ _ answer) after
  | failed e after => exact .failed e after
  | crashed after => exact .crashed after
  | left personal => exact .left personal _ _
  | right personal => exact .right personal _ _

/-- What is made of answers that agree. -/
theorem Ran.Agree.map {γ δ : Type} {S : γ → δ → Prop} {ran : Ran γ} {ran' : Ran δ}
    (h : ran.Agree S ran') {g : γ → α} {g' : δ → β} (hg : ∀ c d, S c d → R (g c) (g' d)) :
    (ran.map g).Agree R (ran'.map g') := by
  cases h with
  | answered answer after => exact .answered (hg _ _ answer) after
  | failed e after => exact .failed e after
  | crashed after => exact .crashed after
  | left personal => exact .left personal _ _
  | right personal => exact .right personal _ _

/-! ### Statements that agree -/

namespace Performed

/-- The statement as a run of its own. -/
def ran (p : Performed α) : Ran α :=
  { outcome := .ofExcept p.result, db := p.db }

/-- Two statements agree as runs of their own. -/
def Agree (R : α → β → Prop) (p : Performed α) (p' : Performed β) : Prop :=
  p.ran.Agree R p'.ran

theorem agree_missing (what : Missing) (hdb : db.Alike db') :
    (missing what db : Performed α).Agree R (missing what db' : Performed β) :=
  .failed _ hdb

theorem agree_refused (e : Error) (hdb : db.Alike db') :
    (refused e db : Performed α).Agree R (refused e db' : Performed β) :=
  .failed _ hdb

/-- Rows that are read may be different rows. -/
theorem agree_reading {r : Except Fault α} {r' : Except Fault β} (hdb : db.Alike db')
    (hr : FailsUndecoded r) (hr' : FailsUndecoded r')
    (h : ∀ a b, r = .ok a → r' = .ok b → R a b) : (reading r db).Agree R (reading r' db') := by
  cases r with
  | error f =>
      obtain ⟨column, rfl⟩ := hr f rfl
      have hpersonal : (Error.database (.undecodable column)).IsPersonal := trivial
      exact .left hpersonal _ _
  | ok a =>
      cases r' with
      | error f =>
          obtain ⟨column, rfl⟩ := hr' f rfl
          have hpersonal : (Error.database (.undecodable column)).IsPersonal := trivial
          exact .right hpersonal _ _
      | ok b => exact .answered (h a b rfl rfl) hdb

/-- A row that is the same in both databases is read alike. -/
theorem agree_reading_same (r : Except Fault α) (hdb : db.Alike db') :
    (reading r db).Agree (fun a a' => a' = a) (reading r db') := by
  cases r with
  | error f => exact .failed _ hdb
  | ok a => exact .answered rfl hdb

theorem agree_withTable (table : Table) (hdb : db.Alike db') {p : Performed α} {p' : Performed β}
    (h : p.Agree R p') : (withTable table db p).Agree R (withTable table db' p') := by
  unfold withTable
  rw [hdb.catalog]
  split
  · exact h
  · exact agree_refused _ hdb

/-- Rows that are found in related tables agree if what is read of them does. -/
theorem agree_findRow {ρ : Type} {A : ρ → ρ → Prop} {row? row?' : Option ρ}
    {read : ρ → Except Fault α} (table : Table) (what : Missing) (hdb : db.Alike db')
    (hrows : (row? = none ∧ row?' = none) ∨
      ∃ row row', row? = some row ∧ row?' = some row' ∧ A row row')
    (hread : ∀ r, FailsUndecoded (read r)) {S : α → α → Prop}
    (h : ∀ row row' a a', A row row' → read row = .ok a → read row' = .ok a' → S a a') :
    (findRow table row? read what db).Agree S (findRow table row?' read what db') := by
  apply agree_withTable _ hdb
  rcases hrows with ⟨rfl, rfl⟩ | ⟨row, row', rfl, rfl, halike⟩
  · exact agree_missing _ hdb
  · exact agree_reading hdb (hread row) (hread row') fun a a' => h row row' a a' halike

/-- A row that is the same in both databases is found alike. -/
theorem agree_findRow_same {ρ : Type} (table : Table) (row? : Option ρ)
    (read : ρ → Except Fault α) (what : Missing) (hdb : db.Alike db') :
    (findRow table row? read what db).Agree (fun a a' => a' = a)
      (findRow table row? read what db') := by
  apply agree_withTable _ hdb
  cases row? with
  | none => exact agree_missing _ hdb
  | some row => exact agree_reading_same _ hdb

theorem agree_withNextId (hdb : db.Alike db') {last last' : Nat} (hlast : last' = last) {p : Int64 → Performed α}
    {p' : Int64 → Performed β} (h : ∀ id, (p id).Agree R (p' id)) :
    (withNextId last db p).Agree R (withNextId last' db' p') := by
  subst hlast
  unfold withNextId
  generalize Text.toInt64? (last' + 1 : Nat) = next
  cases next with
  | some id => exact h id
  | none => exact agree_refused _ hdb

theorem agree_readPage {ρ ρ' : Type} {read : ρ → Except Fault α} {read' : ρ' → Except Fault β}
    {S : List α → List β → Prop} (hread : ∀ r, FailsUndecoded (read r))
    (hread' : ∀ r, FailsUndecoded (read' r)) (page : Page) (rows : List ρ) (rows' : List ρ')
    (hdb : db.Alike db')
    (h : ∀ as bs, (page.select rows).mapM read = .ok as →
      (page.select rows').mapM read' = .ok bs → S as bs) :
    (readPage read page rows db).Agree S (readPage read' page rows' db') := by
  unfold readPage
  split
  · exact agree_refused _ hdb
  · exact agree_reading hdb (failsUndecoded_mapM hread _) (failsUndecoded_mapM hread' _) h

/-- A page of as many rows is as long. -/
theorem length_select {as : List α} {bs : List β} (h : as.length = bs.length) (page : Page) :
    (page.select bs).length = (page.select as).length := by
  unfold Page.select
  rw [List.length_take, List.length_take, List.length_drop, List.length_drop, h]

/-- Pages of the rows with something in common, in related tables. -/
theorem agree_readPage_filter {ρ : Type} {A : ρ → ρ → Prop} {read : ρ → Except Fault α}
    {rows rows' : List ρ} {p : ρ → Bool} (hread : ∀ r, FailsUndecoded (read r)) (page : Page)
    (hdb : db.Alike db') (hrows : List.Forall₂ A rows rows') (hp : ∀ r r', A r r' → p r = p r') :
    (readPage read page (rows.filter p) db).Agree (fun as as' => as'.length = as.length)
      (readPage read page (rows'.filter p) db') := by
  apply agree_readPage hread hread page _ _ hdb
  intro as as' has has'
  rw [length_of_mapM has, length_of_mapM has']
  apply length_select
  apply List.Forall₂.length_eq
  apply List.rel_filter _ hrows
  intro r r' hr
  dsimp only
  rw [hp r r' hr]

end Performed

/-- Two queries agree when their statements do, and when both or neither can
be begun. -/
theorem submit_agree (hdb : db.Alike db') (q q' : Query) {S : q.Answer → q'.Answer → Prop} {now : Instant}
    (himpossible : q'.isImpossible now = q.isImpossible now)
    (h : (q.perform now db).Agree S (q'.perform now db')) :
    (submit now q db).Agree S (submit now q' db') := by
  unfold submit
  rw [himpossible]
  split
  · exact .crashed hdb
  · exact h

/-! ### Queries that agree -/

section Queries

variable {now : Instant}

theorem submit_createAccount_agree (hdb : db.Alike db') (owner owner' : String)
    (balance balance' : Int64) (currency : Currency) :
    (submit now (.createAccount owner balance currency) db).Agree anyAnswers
      (submit now (.createAccount owner' balance' currency) db') := by
  apply submit_agree hdb (.createAccount owner balance currency) (.createAccount owner' balance' currency)
    rfl
  apply agree_withTable _ hdb
  apply agree_withNextId hdb (by rw [hdb.sequences])
  intro id
  refine agree_reading ?_ (AccountRow.failsUndecoded_read _) (AccountRow.failsUndecoded_read _)
    fun _ _ _ _ => trivial
  refine ⟨hdb.catalog, ?_, by rw [hdb.sequences]⟩
  exact ⟨List.rel_append hdb.rows.accounts (.cons ⟨rfl, rfl, rfl⟩ .nil), hdb.rows.entries,
    hdb.rows.transfers, hdb.rows.users, hdb.rows.verifications⟩

theorem submit_createEntry_agree (hdb : db.Alike db') (accountId amount amount' : Int64) :
    (submit now (.createEntry accountId amount) db).Agree anyAnswers
      (submit now (.createEntry accountId amount') db') := by
  apply submit_agree hdb (.createEntry accountId amount) (.createEntry accountId amount') rfl
  apply agree_withTable _ hdb
  apply agree_withNextId hdb (by rw [hdb.sequences])
  intro id
  refine agree_reading ?_ (EntryRow.failsUndecoded_read _) (EntryRow.failsUndecoded_read _)
    fun _ _ _ _ => trivial
  refine ⟨hdb.catalog, ?_, by rw [hdb.sequences]⟩
  exact ⟨hdb.rows.accounts, List.rel_append hdb.rows.entries (.cons ⟨rfl, rfl, rfl⟩ .nil),
    hdb.rows.transfers, hdb.rows.users, hdb.rows.verifications⟩

theorem submit_createTransfer_agree (hdb : db.Alike db') (fromId toId amount amount' : Int64) :
    (submit now (.createTransfer ⟨fromId, toId, amount⟩) db).Agree anyAnswers
      (submit now (.createTransfer ⟨fromId, toId, amount'⟩) db') := by
  apply submit_agree hdb (.createTransfer ⟨fromId, toId, amount⟩) (.createTransfer ⟨fromId, toId, amount'⟩)
    rfl
  apply agree_withTable _ hdb
  apply agree_withNextId hdb (by rw [hdb.sequences])
  intro id
  dsimp only
  split
  · split
    · refine agree_reading ?_ (TransferRow.failsUndecoded_read _) (TransferRow.failsUndecoded_read _)
        fun _ _ _ _ => trivial
      refine ⟨hdb.catalog, ?_, by rw [hdb.sequences]; rfl⟩
      exact ⟨hdb.rows.accounts, hdb.rows.entries,
        List.rel_append hdb.rows.transfers (.cons ⟨rfl, rfl, rfl, rfl⟩ .nil), hdb.rows.users,
        hdb.rows.verifications⟩
    · exact .right (e := .constraint .checkFailed) trivial _ _
  · exact .left (e := .constraint .checkFailed) trivial _ _

theorem findAccount_agree (hdb : db.Alike db') (id : Int64) :
    (findAccount id db).Agree anyAnswers (findAccount id db') :=
  agree_findRow _ _ hdb (hdb.rows.account? id) AccountRow.failsUndecoded_read
    fun _ _ _ _ _ _ _ => trivial

theorem submit_account_agree (hdb : db.Alike db') (id : Int64) :
    (submit now (.account id) db).Agree anyAnswers (submit now (.account id) db') :=
  submit_agree hdb (.account id) (.account id) rfl (findAccount_agree hdb id)

theorem submit_accountForUpdate_agree (hdb : db.Alike db') (id : Int64) :
    (submit now (.accountForUpdate id) db).Agree anyAnswers
      (submit now (.accountForUpdate id) db') :=
  submit_agree hdb (.accountForUpdate id) (.accountForUpdate id) rfl (findAccount_agree hdb id)

theorem submit_addBalance_agree (hdb : db.Alike db') (id amount amount' : Int64) :
    (submit now (.addBalance id amount) db).Agree anyAnswers
      (submit now (.addBalance id amount') db') := by
  apply submit_agree hdb (.addBalance id amount) (.addBalance id amount') rfl
  apply agree_withTable _ hdb
  rcases hdb.rows.account? id with ⟨hrow, hrow'⟩ | ⟨row, row', hrow, hrow', halike⟩
  · rw [hrow, hrow']
    exact agree_missing _ hdb
  rw [hrow, hrow']
  dsimp only
  -- a sum that leaves 64 bits ends its run; else both rows are replaced
  have hpersonal : (Error.database .outOfRange).IsPersonal := trivial
  split
  · exact .left hpersonal _ _
  split
  · exact .right hpersonal _ _
  refine agree_reading ?_ (AccountRow.failsUndecoded_read _) (AccountRow.failsUndecoded_read _)
    fun _ _ _ _ => trivial
  refine ⟨hdb.catalog, ?_, hdb.sequences⟩
  refine ⟨?_, hdb.rows.entries, hdb.rows.transfers, hdb.rows.users, hdb.rows.verifications⟩
  apply List.rel_map _ hdb.rows.accounts
  intro r r' hr
  dsimp only
  rw [hr.id]
  split
  · exact ⟨halike.id, halike.currency, halike.createdAt⟩
  · exact hr

theorem submit_deleteAccount_agree (hdb : db.Alike db') (id : Int64) :
    (submit now (.deleteAccount id) db).Agree (fun a a' => a' = a)
      (submit now (.deleteAccount id) db') := by
  apply submit_agree hdb (.deleteAccount id) (.deleteAccount id) rfl
  apply agree_withTable _ hdb
  rcases hdb.rows.account? id with ⟨hrow, hrow'⟩ | ⟨row, row', hrow, hrow', -⟩
  · rw [hrow, hrow']
    exact agree_missing _ hdb
  rw [hrow, hrow']
  apply agree_reading_same (.ok ())
  refine ⟨hdb.catalog, ?_, hdb.sequences⟩
  refine ⟨?_, hdb.rows.entries, hdb.rows.transfers, hdb.rows.users, hdb.rows.verifications⟩
  apply List.rel_filter _ hdb.rows.accounts
  intro r r' hr
  dsimp only
  rw [hr.id]

theorem submit_entry_agree (hdb : db.Alike db') (id : Int64) :
    (submit now (.entry id) db).Agree (fun e e' => e'.accountId = e.accountId)
      (submit now (.entry id) db') := by
  apply submit_agree hdb (.entry id) (.entry id) rfl
  have hsame : ∀ r r' : EntryRow, r.Alike r' → decide (r.id = id) = decide (r'.id = id) := by
    intro r r' hr
    rw [hr.id]
  have hrows := find?_forall₂ hsame hdb.rows.entries
  apply agree_findRow _ _ hdb hrows EntryRow.failsUndecoded_read
  intro row row' e e' halike he he'
  rw [EntryRow.accountId_of_read he, EntryRow.accountId_of_read he', halike.accountId]

theorem submit_transfer_agree (hdb : db.Alike db') (id : Int64) :
    (submit now (.transfer id) db).Agree (fun t t' => t'.fromId = t.fromId)
      (submit now (.transfer id) db') := by
  apply submit_agree hdb (.transfer id) (.transfer id) rfl
  have hsame : ∀ r r' : TransferRow, r.Alike r' → decide (r.id = id) = decide (r'.id = id) := by
    intro r r' hr
    rw [hr.id]
  have hrows := find?_forall₂ hsame hdb.rows.transfers
  apply agree_findRow _ _ hdb hrows TransferRow.failsUndecoded_read
  intro row row' t t' halike ht ht'
  rw [TransferRow.fromId_of_read ht, TransferRow.fromId_of_read ht', halike.fromId]

theorem submit_entries_agree (hdb : db.Alike db') (accountId : Int64) (page : Page) :
    (submit now (.entries accountId page) db).Agree (fun es es' => es'.length = es.length)
      (submit now (.entries accountId page) db') := by
  apply submit_agree hdb (.entries accountId page) (.entries accountId page) rfl
  apply agree_withTable _ hdb
  apply agree_readPage_filter EntryRow.failsUndecoded_read page hdb hdb.rows.entries
  intro r r' hr
  rw [hr.accountId]

theorem submit_transfers_agree (hdb : db.Alike db') (accountId : Int64) (page : Page) :
    (submit now (.transfers accountId page) db).Agree (fun ts ts' => ts'.length = ts.length)
      (submit now (.transfers accountId page) db') := by
  apply submit_agree hdb (.transfers accountId page) (.transfers accountId page) rfl
  apply agree_withTable _ hdb
  apply agree_readPage_filter TransferRow.failsUndecoded_read page hdb hdb.rows.transfers
  intro r r' hr
  rw [hr.fromId, hr.toId]

/-- Whether a query is about users or verifications only. -/
def Query.isAboutUsers : Query → Bool
  | .createUser .. | .user .. | .updateUser .. => true
  | .createVerification .. | .verification .. | .updateVerification .. => true
  | _ => false

/-- Users and verifications hold nothing personal. -/
theorem submit_agree_of_isAboutUsers (hdb : db.Alike db') (q : Query)
    (hq : q.isAboutUsers = true) :
    (submit now q db).Agree (fun a a' => a' = a) (submit now q db') := by
  apply submit_agree hdb q q rfl
  cases q with
  | user username =>
      show (findRow _ _ _ _ db).Agree _ (findRow _ (db'.rows.user? username) _ _ db')
      rw [hdb.rows.user?_eq]
      exact agree_findRow_same _ _ _ _ hdb
  | verification id =>
      show (findRow _ _ _ _ db).Agree _ (findRow _ (db'.rows.verification? id) _ _ db')
      rw [hdb.rows.verification?_eq]
      exact agree_findRow_same _ _ _ _ hdb
  | createUser username fullName email =>
      apply agree_withTable _ hdb
      rw [hdb.rows.users]
      split
      · exact agree_refused _ hdb
      · apply agree_reading_same
        refine ⟨hdb.catalog, ?_, hdb.sequences⟩
        exact ⟨hdb.rows.accounts, hdb.rows.entries, hdb.rows.transfers, rfl,
          hdb.rows.verifications⟩
  | updateUser username fullName isEmailVerified =>
      apply agree_withTable _ hdb
      rw [hdb.rows.user?_eq]
      split
      · exact agree_missing _ hdb
      · apply agree_reading_same
        refine ⟨hdb.catalog, ?_, hdb.sequences⟩
        refine ⟨hdb.rows.accounts, hdb.rows.entries, hdb.rows.transfers, ?_,
          hdb.rows.verifications⟩
        show db'.rows.users.map _ = db.rows.users.map _
        rw [hdb.rows.users]
  | createVerification username email secretCode lifetime =>
      apply agree_withTable _ hdb
      apply agree_withNextId hdb (by rw [hdb.sequences])
      intro id
      apply agree_reading_same
      refine ⟨hdb.catalog, ?_, by rw [hdb.sequences]⟩
      refine ⟨hdb.rows.accounts, hdb.rows.entries, hdb.rows.transfers, hdb.rows.users, ?_⟩
      show db'.rows.verifications ++ _ = db.rows.verifications ++ _
      rw [hdb.rows.verifications]
  | updateVerification id isUsed =>
      apply agree_withTable _ hdb
      rw [hdb.rows.verification?_eq]
      split
      · exact agree_missing _ hdb
      · apply agree_reading_same
        refine ⟨hdb.catalog, ?_, hdb.sequences⟩
        refine ⟨hdb.rows.accounts, hdb.rows.entries, hdb.rows.transfers, hdb.rows.users, ?_⟩
        show db'.rows.verifications.map _ = db.rows.verifications.map _
        rw [hdb.rows.verifications]
  | _ => cases hq

theorem submit_accounts_agree (hdb : db.Alike db') (owner owner' : Option String) (page : Page) :
    (submit now (.accounts owner page) db).Agree anyAnswers
      (submit now (.accounts owner' page) db') := by
  apply submit_agree hdb (.accounts owner page) (.accounts owner' page) rfl
  apply agree_withTable _ hdb
  exact agree_readPage AccountRow.failsUndecoded_read AccountRow.failsUndecoded_read page _ _ hdb
    fun _ _ _ _ => trivial

end Queries

end DoubleEntry
