/-
DoubleEntry/Proofs/Ledger/Paging.lean

Lists in pages.  The accounts, the entries of an account and its transfers are
each listed page by page.  `InPages` says that the pages are parts of one list,
which holds all records that belong there in the order of their ids; and that
pages of one size, turned one after the other up to the first empty one
(`PagesTurned`), make up this list, so that no record is left out and none
comes twice.

The three lists are read from rows in the same way, so they come under one
lemma (`exists_inPages`): the rows are in the order of their ids, and all of
them can be read.  For the rows of a run this holds as long as the clock shows
the years 0 to 9999 (`paging`).
-/
import DoubleEntry.Proofs.Ledger.Played
import DoubleEntry.Proofs.Store.Records
import DoubleEntry.Proofs.Store.Steady

namespace DoubleEntry.Ledger

variable {α ρ : Type} {list : Page → Ran (List α)} {db : Database} {env : Surroundings}
  {limit offset : Int64} {all records : List α}

/-! ### Turning pages -/

/-- Pages of one size are turned, from an offset on, up to the first that is
empty; `records` is what stands on them. -/
inductive PagesTurned (list : Page → Ran (List α)) (limit : Int64) : Int64 → List α → Prop
  | last {offset : Int64} (empty : (list { limit, offset }).outcome = .ok []) :
      PagesTurned list limit offset []
  | next {offset offset' : Int64} {page later : List α}
      (shown : (list { limit, offset }).outcome = .ok page) (nonempty : page ≠ [])
      (further : offset'.toInt = offset.toInt + limit.toInt)
      (turned : PagesTurned list limit offset' later) :
      PagesTurned list limit offset (page ++ later)

/-- A list in pages: what is in it, what stands on each page, and what comes of
turning them. -/
structure InPages (list : Page → Ran (List α)) (db : Database) (id : α → Int64)
    (belongs : α → Prop) (all : List α) : Prop where
  ascending : all.Pairwise fun a b => (id a).toInt < (id b).toInt
  complete : ∀ a, a ∈ all ↔ belongs a
  page : ∀ p : Page, 1 ≤ p.limit.toInt → 0 ≤ p.offset.toInt →
    list p =
      { outcome := .ok ((all.drop p.offset.toInt.toNat).take p.limit.toInt.toNat), db }
  turned : ∀ limit : Int64, 1 ≤ limit.toInt → ∀ records, PagesTurned list limit 0 records →
    records = all
  /-- The first empty page is reached as long as its offset is one. -/
  ends : ∀ (limit : Int64) (pages : Nat), 1 ≤ limit.toInt →
    (all.length : Int) ≤ pages * limit.toInt → pages * limit.toInt ≤ 9223372036854775807 →
    PagesTurned list limit 0 all

/-- Each page is a part of the list. -/
def ShowsPages (list : Page → Ran (List α)) (all : List α) : Prop :=
  ∀ p : Page, 1 ≤ p.limit.toInt → 0 ≤ p.offset.toInt →
    (list p).outcome = .ok ((all.drop p.offset.toInt.toNat).take p.limit.toInt.toNat)

/-- The pages that are turned make up the list from the offset on. -/
theorem PagesTurned.eq_drop (h : PagesTurned list limit offset records)
    (hpages : ShowsPages list all) (hlimit : 1 ≤ limit.toInt) (hoffset : 0 ≤ offset.toInt) :
    records = all.drop offset.toInt.toNat := by
  induction h with
  | last empty =>
      rw [hpages _ hlimit hoffset] at empty
      rcases List.take_eq_nil_iff.mp (Outcome.ok.inj empty) with hzero | hnil
      · dsimp only at hzero
        omega
      · exact hnil.symm
  | @next offset offset' page later shown nonempty further turned ih =>
      rw [hpages _ hlimit hoffset] at shown
      cases shown
      have hnext : offset'.toInt.toNat = offset.toInt.toNat + limit.toInt.toNat := by omega
      rw [ih (by omega), hnext, ← List.drop_drop]
      exact List.take_append_drop _ _

/-- From each offset on the pages can be turned to the end, as long as the
offset of an empty page is one.  The induction is on the pages that are
left. -/
theorem ShowsPages.turned (hpages : ShowsPages list all) (hlimit : 1 ≤ limit.toInt)
    {pages left done : Nat} (hall : (all.length : Int) ≤ pages * limit.toInt)
    (hfits : pages * limit.toInt ≤ 9223372036854775807) (hleft : done + left = pages)
    (hoffset : offset.toInt = done * limit.toInt) :
    PagesTurned list limit offset (all.drop offset.toInt.toNat) := by
  induction left generalizing done offset with
  | zero =>
      obtain rfl : done = pages := hleft
      have hstart : 0 ≤ offset.toInt := by omega
      have hend : all.drop offset.toInt.toNat = [] := List.drop_eq_nil_of_le (by omega)
      have hpage := hpages { limit, offset } hlimit hstart
      rw [hend, List.take_nil] at hpage
      rw [hend]
      exact .last hpage
  | succ left ih =>
      have hstart : 0 ≤ offset.toInt := by
        rw [hoffset]
        exact Int.mul_nonneg (by omega) (by omega)
      have hpage := hpages { limit, offset } hlimit hstart
      cases hrest : all.drop offset.toInt.toNat with
      | nil =>
          rw [hrest, List.take_nil] at hpage
          exact .last hpage
      | cons a rest =>
          -- rows are left, so this page is not the last and the next offset is one
          have hfit : (done + 1 : Int) * limit.toInt ≤ pages * limit.toInt :=
            Int.mul_le_mul_of_nonneg_right (by omega) (by omega)
          have hnext : (done + 1 : Int) * limit.toInt = offset.toInt + limit.toInt := by
            rw [Int.add_mul, Int.one_mul, hoffset]
          let offset' := Int64.ofInt (offset.toInt + limit.toInt)
          have hoffset' : offset'.toInt = offset.toInt + limit.toInt :=
            Int64.toInt_ofInt_of_le (by omega) (by omega)
          have hleft' : done + 1 + left = pages := by omega
          have hlater := ih hleft' (hoffset'.trans hnext.symm)
          have hsplit : all.drop offset.toInt.toNat =
              (all.drop offset.toInt.toNat).take limit.toInt.toNat ++
                all.drop offset'.toInt.toNat := by
            have hsum : offset'.toInt.toNat = offset.toInt.toNat + limit.toInt.toNat := by omega
            rw [hsum, ← List.drop_drop, List.take_append_drop]
          rw [← hrest, hsplit]
          refine .next hpage ?_ hoffset' hlater
          rw [hrest, ne_eq, List.take_eq_nil_iff]
          rintro (hzero | hnil)
          · omega
          · cases hnil

/-! ### Lists that are read from rows -/

/-- Some rows of a table are listed in pages, if the table is in the order of
the ids and each of its rows can be read. -/
theorem exists_inPages {table : List ρ} (rs : List ρ) (read : ρ → Except Fault α)
    (rowId : ρ → Int64) {id : α → Int64} {belongs : α → Prop} (hrs : rs.Sublist table)
    (hids : (table.map rowId).Pairwise fun a b => a.toInt < b.toInt)
    (hreadable : ∀ r ∈ table, ∃ a, read r = .ok a)
    (hid : ∀ {r a}, read r = .ok a → id a = rowId r)
    (hbelongs : ∀ a, belongs a ↔ ∃ r ∈ rs, read r = .ok a)
    (hlist : ∀ p : Page, 1 ≤ p.limit.toInt → 0 ≤ p.offset.toInt →
      ∀ as, (p.select rs).mapM read = .ok as → list p = { outcome := .ok as, db }) :
    ∃ all, InPages list db id belongs all := by
  obtain ⟨all, hall⟩ := exists_mapM_eq_ok fun r hr => hreadable r (hrs.subset hr)
  have hpage : ∀ p : Page, 1 ≤ p.limit.toInt → 0 ≤ p.offset.toInt →
      list p = { outcome := .ok (p.select all), db } :=
    fun p hlimit hoffset => hlist p hlimit hoffset _ (mapM_select hall p)
  have hshows : ShowsPages list all := by
    intro p hlimit hoffset
    rw [hpage p hlimit hoffset]
    rfl
  -- the rows are in the order of their ids, and so is what is read from them
  refine ⟨all, ?ascending, ?complete, hpage, ?turned, ?ends⟩
  case ascending =>
    have hsame : all.map id = rs.map rowId := map_of_mapM hall hid
    have hsome := hids.sublist (hrs.map rowId)
    rw [← hsame, List.pairwise_map] at hsome
    exact hsome
  case complete => exact fun a => (mem_iff_of_mapM hall).trans (hbelongs a).symm
  case turned => exact fun limit hlimit records h => h.eq_drop hshows hlimit (by decide)
  case ends =>
    intro limit pages hlimit hlength hfits
    have hleft : 0 + pages = pages := Nat.zero_add pages
    have hstart : (0 : Int64).toInt = (0 : Nat) * limit.toInt := (Int.zero_mul _).symm
    exact hshows.turned hlimit hlength hfits hleft hstart

/-! ### The lists of the ledger -/

/-- A page is accepted. -/
theorem checkPage_eq_ok {page : Page} (hlimit : 1 ≤ page.limit.toInt)
    (hoffset : 0 ≤ page.offset.toInt) : checkPage page.limit page.offset = .ok () := by
  unfold checkPage ensure
  rw [decide_eq_true hlimit, decide_eq_true hoffset]
  rfl

/-- A page is refused. -/
theorem exists_checkPage_eq_error {page : Page}
    (h : page.limit.toInt < 1 ∨ page.offset.toInt < 0) :
    ∃ v, checkPage page.limit page.offset = .error (.constraint v) := by
  unfold checkPage ensure
  by_cases hlimit : 1 ≤ page.limit.toInt
  · have hoffset : ¬ 0 ≤ page.offset.toInt := by omega
    rw [decide_eq_true hlimit, decide_eq_false hoffset]
    exact ⟨_, rfl⟩
  · rw [decide_eq_false hlimit]
    exact ⟨_, rfl⟩

/-- A database of which every page can be shown: its keys are in order, its
tables are there, and its rows can be read. -/
structure Listable (db : Database) : Prop where
  keyed : db.Keyed
  migrated : db.Migrated
  readable : db.rows.Readable

namespace Listable

variable {id : Int64} {page : Page}

theorem hasTable (h : Listable db) (k : Key) : db.catalog.hasTable k.table.name = true := by
  rw [h.migrated]
  exact k.fresh_hasTable

theorem get_ok_iff (h : Listable db) (r : Record) (now : Instant) :
    (submit now r.key.get db).outcome = .ok r.answer ↔ db.rows.Holds r :=
  h.keyed.submit_get_ok_iff (h.hasTable _)

/-- The accounts are listed in pages. -/
theorem accounts (h : Listable db) (env : Surroundings) (owner : Option String) :
    ∃ all, InPages (fun page => listAccounts env owner page db) db (·.id)
      (fun a => (getAccount env a.id db).outcome = .ok a ∧ ∀ o, owner = some o → a.owner = o)
      all := by
  refine exists_inPages (db.rows.accountsOf owner) AccountRow.read (·.id)
    (db.rows.accountsOf_sublist owner) (h.keyed.ids .account).increasing h.readable.accounts
    AccountRow.id_of_read ?belongs ?list
  case belongs =>
    intro a
    have hget := h.get_ok_iff (.account a) (env.clock 0)
    exact (and_congr_left fun _ => hget).trans Rows.exists_read_accountsOf_iff.symm
  case list =>
    intro page hlimit hoffset as has
    unfold listAccounts
    rw [checkPage_eq_ok hlimit hoffset]
    refine submit_ok_iff.mpr ⟨rfl, answers_listAccounts_iff.mpr ?_⟩
    exact ⟨h.hasTable (.account 0), by omega, hoffset, has, rfl⟩

/-- A page of an account that is there is asked for by itself. -/
theorem pageWork_eq (h : Listable db) {account : Account} {q : Query} {as : q.Answer}
    (haccount : (getAccount env id db).outcome = .ok account) (hlimit : 1 ≤ page.limit.toInt)
    (hoffset : 0 ≤ page.offset.toInt)
    (hq : submit (env.clock 1) q db = { outcome := .ok as, db }) :
    (pageWork id page q).submitEach env.clock db = { outcome := .ok as, db } := by
  have hresult := (submit_outcome_ok_iff.mp haccount).2
  have hfound := h.keyed.findAccount_iff.mp ⟨hresult, rfl⟩
  have hsubmit : submit (env.clock 0) (.account id) db = { outcome := .ok account, db } :=
    submit_ok_iff.mpr ⟨rfl, hresult, hfound.2.2⟩
  unfold pageWork
  refine Work.submitEach_check_bind.mpr ⟨(), checkPage_eq_ok hlimit hoffset, ?_⟩
  refine Work.submitEach_query_bind.mpr ⟨account, db, hsubmit, ?_⟩
  exact Work.submitEach_query.mpr hq

/-- The entries of an account are listed in pages. -/
theorem entries (h : Listable db) {account : Account}
    (haccount : (getAccount env id db).outcome = .ok account) :
    ∃ all, InPages (fun page => listEntries env id page db) db (·.id)
      (fun e => (getEntry env e.id db).outcome = .ok e ∧ e.accountId = id) all := by
  refine exists_inPages (db.rows.entriesOf id) EntryRow.read (·.id) List.filter_sublist
    (h.keyed.ids .entry).increasing h.readable.entries EntryRow.id_of_read ?belongs ?list
  case belongs =>
    intro e
    have hget := h.get_ok_iff (.entry e) (env.clock 0)
    exact (and_congr_left fun _ => hget).trans Rows.exists_read_entriesOf_iff.symm
  case list =>
    intro page hlimit hoffset es hes
    refine h.pageWork_eq haccount hlimit hoffset
      (submit_ok_iff.mpr ⟨rfl, answers_listEntries_iff.mpr ?_⟩)
    exact ⟨h.hasTable (.entry 0), by omega, hoffset, hes, rfl⟩

/-- The transfers into or out of an account are listed in pages. -/
theorem transfers (h : Listable db) {account : Account}
    (haccount : (getAccount env id db).outcome = .ok account) :
    ∃ all, InPages (fun page => listTransfers env id page db) db (·.id)
      (fun t => (getTransfer env t.id db).outcome = .ok t ∧ (t.fromId = id ∨ t.toId = id))
      all := by
  refine exists_inPages (db.rows.transfersOf id) TransferRow.read (·.id) List.filter_sublist
    (h.keyed.ids .transfer).increasing h.readable.transfers TransferRow.id_of_read ?belongs ?list
  case belongs =>
    intro t
    have hget := h.get_ok_iff (.transfer t) (env.clock 0)
    exact (and_congr_left fun _ => hget).trans Rows.exists_read_transfersOf_iff.symm
  case list =>
    intro page hlimit hoffset ts hts
    refine h.pageWork_eq haccount hlimit hoffset
      (submit_ok_iff.mpr ⟨rfl, answers_listTransfers_iff.mpr ?_⟩)
    exact ⟨h.hasTable (.transfer 0), by omega, hoffset, hts, rfl⟩

/-- An account that cannot be looked up is not there. -/
theorem account?_eq_none (h : Listable db)
    (hmissing : ∀ account, (getAccount env id db).outcome ≠ .ok account) :
    db.rows.account? id = none := by
  cases hfound : db.rows.account? id with
  | none => rfl
  | some r =>
      obtain ⟨hr, rfl⟩ := Rows.account?_eq_some hfound
      obtain ⟨a, hread⟩ := h.readable.accounts r hr
      rw [← AccountRow.id_of_read hread] at hmissing
      exact absurd ((h.get_ok_iff (.account a) (env.clock 0)).mpr ⟨r, hr, hread⟩) (hmissing a)

/-- A page of an account that is not there is not shown. -/
theorem pageWork_missing (h : Listable db)
    (hmissing : ∀ account, (getAccount env id db).outcome ≠ .ok account)
    (hlimit : 1 ≤ page.limit.toInt) (hoffset : 0 ≤ page.offset.toInt) (q : Query) :
    (pageWork id page q).submitEach env.clock db =
      { outcome := .error (.notFound (.account id)), db } := by
  have htable : db.catalog.hasTable Migration.accountTable.name = true := h.hasTable (.account id)
  have hfind : findAccount id db = .missing (.account id) db := by
    rw [findAccount, h.account?_eq_none hmissing]
    exact Performed.findRow_none htable _ _
  have hsubmit : submit (env.clock 0) (.account id) db =
      { outcome := .error (.notFound (.account id)), db } := by
    show ({ outcome := .ofExcept (findAccount id db).result, db := (findAccount id db).db } :
      Ran Account) = _
    rw [hfind]
    rfl
  unfold pageWork
  rw [checkPage_eq_ok hlimit hoffset]
  exact Work.submitEach_of_refused _ hsubmit

end Listable

/-! ### Pages that are refused -/

/-- A page that is refused is refused before anything is looked up. -/
theorem pageWork_refused {page : Page} {v : Violation} {q : Query} (id : Int64)
    (hpage : checkPage page.limit page.offset = .error (.constraint v)) (clock : Nat → Instant)
    (db : Database) :
    (pageWork id page q).submitEach clock db = { outcome := .error (.constraint v), db } := by
  unfold pageWork
  rw [hpage]
  rfl

theorem listAccounts_refused {page : Page} {v : Violation}
    (hpage : checkPage page.limit page.offset = .error (.constraint v)) (env : Surroundings)
    (owner : Option String) (db : Database) :
    listAccounts env owner page db = { outcome := .error (.constraint v), db } := by
  unfold listAccounts
  rw [hpage]

/-! ### After a run -/

/-- At regular instants a run of which the migrations are part leaves a
database of which every page can be shown. -/
theorem listable_after {steps : List Step} (hmigrate : .migrate ∈ steps)
    (hclock : ∀ step ∈ steps, step.Clocked Instant.IsRegular) :
    Listable (({} : Database).after steps) := by
  have hplayed : Played Instant.IsRegular {} (({} : Database).keptIssued steps)
      (({} : Database).after steps) := Database.played hclock (.inl rfl)
  refine ⟨hplayed.keyed (.empty {}), Database.migrated_after (.inl rfl) (.inl hmigrate), ?_⟩
  refine hplayed.keeps (M := fun d => d.rows.Readable) ?idle ?took ?empty
  case idle =>
    intro d d' idle hd
    rw [idle.rows]
    exact hd
  case took =>
    intro i hi d d' took hd
    cases took with
    | performed time possible => exact readable_perform time _ hd
    | held effect => exact hd
  case empty => exact .empty

/-- What the pages of the three lists show. -/
structure ShowsLists (env : Surroundings) (db : Database) : Prop where
  accounts : ∀ owner : Option String, ∃ all,
    InPages (fun page => listAccounts env owner page db) db (·.id)
      (fun a => (getAccount env a.id db).outcome = .ok a ∧ ∀ o, owner = some o → a.owner = o) all
  entries : ∀ (id : Int64) (account : Account), (getAccount env id db).outcome = .ok account →
    ∃ all, InPages (fun page => listEntries env id page db) db (·.id)
      (fun e => (getEntry env e.id db).outcome = .ok e ∧ e.accountId = id) all
  transfers : ∀ (id : Int64) (account : Account), (getAccount env id db).outcome = .ok account →
    ∃ all, InPages (fun page => listTransfers env id page db) db (·.id)
      (fun t => (getTransfer env t.id db).outcome = .ok t ∧ (t.fromId = id ∨ t.toId = id)) all
  refused : ∀ page : Page, page.limit.toInt < 1 ∨ page.offset.toInt < 0 → ∃ v,
    (∀ owner, listAccounts env owner page db = { outcome := .error (.constraint v), db }) ∧
      ∀ id, listEntries env id page db = { outcome := .error (.constraint v), db } ∧
        listTransfers env id page db = { outcome := .error (.constraint v), db }
  missing : ∀ id : Int64, (∀ account, (getAccount env id db).outcome ≠ .ok account) →
    ∀ page : Page, 1 ≤ page.limit.toInt → 0 ≤ page.offset.toInt →
      listEntries env id page db = { outcome := .error (.notFound (.account id)), db } ∧
        listTransfers env id page db = { outcome := .error (.notFound (.account id)), db }

/-- **Paging loses and repeats nothing**, whatever has been done with the ledger
before while the clock showed the years 0 to 9999. -/
theorem paging {steps : List Step} (hmigrate : .migrate ∈ steps)
    (hclock : ∀ step ∈ steps, step.Clocked Instant.IsRegular) (env : Surroundings) :
    ShowsLists env (({} : Database).after steps) := by
  have hlistable := listable_after hmigrate hclock
  constructor
  case accounts => exact hlistable.accounts env
  case entries => exact fun id account => hlistable.entries
  case transfers => exact fun id account => hlistable.transfers
  case refused =>
    intro page hpage
    obtain ⟨v, hrefused⟩ := exists_checkPage_eq_error hpage
    exact ⟨v, fun owner => listAccounts_refused hrefused env owner _,
      fun id => ⟨pageWork_refused id hrefused _ _, pageWork_refused id hrefused _ _⟩⟩
  case missing =>
    intro id hmissing page hlimit hoffset
    exact ⟨hlistable.pageWork_missing hmissing hlimit hoffset _,
      hlistable.pageWork_missing hmissing hlimit hoffset _⟩

/-- The second page of two accounts. -/
theorem paging_of_bob :
    let steps : List Step := [.migrate, .operation epoch (.openAccount "ann" 100 "USD"),
      .operation epoch (.openAccount "bob" 20 "USD")]
    let db := ({} : Database).after steps
    (∀ step ∈ steps, step.Clocked Instant.IsRegular) ∧ ShowsLists epoch db ∧
      (listAccounts epoch none { limit := 1, offset := 1 } db).outcome =
        .ok [⟨2, "bob", 20, .usd, ⟨0, 0⟩⟩] := by
  intro steps db
  have hepoch : ∀ n, (epoch.clock n).IsRegular := by
    intro n
    show (⟨0, 0⟩ : Instant).IsRegular
    decide
  have hclock : ∀ step ∈ steps, step.Clocked Instant.IsRegular := by
    intro step hstep
    simp only [steps, List.mem_cons, List.not_mem_nil, or_false] at hstep
    rcases hstep with rfl | rfl | rfl
    · trivial
    · exact hepoch
    · exact hepoch
  exact ⟨hclock, paging List.mem_cons_self hclock epoch, by decide +kernel⟩

end DoubleEntry.Ledger
