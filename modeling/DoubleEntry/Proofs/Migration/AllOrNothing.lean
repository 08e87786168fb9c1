/-
DoubleEntry/Proofs/Migration/AllOrNothing.lean

Migrations are all or nothing, one by one and in order.  A run executes the
text of the bootstrap migration and walks the list; the migrations on record
are skipped, and of the others it ends in one of two ways (`Ending`): all of
them are applied, or those before the first whose text fails, which stays
pending with all that come after it.

`runPending_all_or_nothing` says so of every list with a bootstrap migration
of its own (`WellFormed`) and of every catalog whose table of records, if it
is there, has the columns that the bootstrap gives it.  Another table of that
name is left as it is by the bootstrap.  Without a column for the names no
record can be read, and the run ends with that
(`runPending_of_foreign_records`); with columns of its own the table may
refuse the records, and texts that complete are then undone.
-/
import DoubleEntry.Migration.Schema
import DoubleEntry.Proofs.Migration.Statements
import DoubleEntry.Proofs.Store.Tables

namespace DoubleEntry

namespace Migration

variable {ms : List Migration} {boot : Migration} {c c₀ c' : Catalog} {onRecord : List String}

/-! ### Lists of migrations -/

/-- The names are different; the bootstrap migration is in the list and creates
the table of records where it is missing; and no other statement touches that
table. -/
structure WellFormed (ms : List Migration) (boot : Migration) : Prop where
  names : (ms.map (·.name)).Nodup
  mem : boot ∈ ms
  name : boot.name = bootstrapName
  creates : .createIfAbsent recordTable ∈ boot.statements
  others : ∀ m ∈ ms, ∀ s ∈ m.statements,
    m = boot ∧ s = .createIfAbsent recordTable ∨ s.touches recordTable.name = false

theorem WellFormed.keepsRecords (h : WellFormed ms boot) :
    ∀ m ∈ ms, ∀ s ∈ m.statements, s.KeepsRecords :=
  fun m hm s hs => (h.others m hm s hs).imp_left And.right

/-- The bootstrap migration is the one under its name. -/
theorem WellFormed.find?_eq (h : WellFormed ms boot) :
    (ms.find? fun m => m.name = bootstrapName) = some boot := by
  rw [← h.name]
  exact find?_key h.names h.mem

/-- The migrations that are not on record. -/
def unrecorded (names : List String) (ms : List Migration) : List Migration :=
  ms.filter fun m => !names.contains m.name

/-! ### What has been applied -/

/-- The catalog with one more migration on record. -/
def withRecord (c : Catalog) (name : String) : Catalog :=
  { c with records := c.records ++ [name] }

/-- The migrations have been applied in order, each completely and with its
record. -/
inductive Applied : Catalog → List Migration → Catalog → Prop
  | nil {c : Catalog} : Applied c [] c
  | cons {c c₁ c' : Catalog} {m : Migration} {ms : List Migration}
      (text : Completes c m.statements c₁)
      (rest : Applied (withRecord c₁ m.name) ms c') : Applied c (m :: ms) c'

/-- What has been applied is on record, in order, and can be looked up. -/
theorem Applied.recorded (h : Applied c ms c') (hms : ∀ m ∈ ms, ∀ s ∈ m.statements, s.KeepsRecords)
    (hkeeps : c.keepsRecords = true) :
    c'.records = c.records ++ ms.map (·.name) ∧ c'.keepsRecords = true := by
  induction h with
  | nil => exact ⟨(List.append_nil _).symm, hkeeps⟩
  | @cons c c₁ c' m ms text rest ih =>
      obtain ⟨hm, hrest⟩ := List.forall_mem_cons.mp hms
      have hkept := text.recordsKept hm
      obtain ⟨hrecords, hreadable⟩ := ih hrest (hkept.keepsRecords hkeeps)
      refine ⟨?_, hreadable⟩
      rw [hrecords, withRecord, hkept.records, List.map_cons, List.append_assoc]
      rfl

/-! ### Walking a list -/

/-- A migration on record is skipped. -/
theorem applyPending_of_mem {m : Migration} (h : m.name ∈ onRecord) (c : Catalog)
    (ms : List Migration) : applyPending onRecord c (m :: ms) = applyPending onRecord c ms :=
  if_pos (List.contains_iff_mem.mpr h)

/-- Any other ends the walk where it fails, -/
theorem applyPending_of_none {m : Migration} (h : m.name ∉ onRecord)
    (hinstall : m.install? c = none) (ms : List Migration) :
    applyPending onRecord c (m :: ms) = (.error (.failed m.name), c) := by
  rw [applyPending, if_neg fun hmem => h (List.contains_iff_mem.mp hmem), hinstall]

/-- and is named first where it is applied. -/
theorem applyPending_of_some {m : Migration} (h : m.name ∉ onRecord)
    (hinstall : m.install? c = some c') (ms : List Migration) :
    applyPending onRecord c (m :: ms) =
      ((applyPending onRecord c' ms).1.map (m.name :: ·), (applyPending onRecord c' ms).2) := by
  rw [applyPending, if_neg fun hmem => h (List.contains_iff_mem.mp hmem), hinstall]

/-- Migrations that are all on record are skipped. -/
theorem applyPending_of_recorded (h : ∀ m ∈ ms, m.name ∈ onRecord) (c : Catalog) :
    applyPending onRecord c ms = (.ok [], c) := by
  induction ms with
  | nil => rfl
  | cons m ms ih =>
      obtain ⟨hm, hrest⟩ := List.forall_mem_cons.mp h
      rw [applyPending_of_mem hm]
      exact ih hrest

/-- Behind the bootstrap a run walks the list with the names on record, -/
theorem runPending_of_some (hboot : bootstrap ms c = (true, c₀))
    (hnames : c₀.applied? = some onRecord) :
    runPending ms c =
      ((applyPending onRecord c₀ ms).1.map fun names => ⟨names, ms.length - names.length⟩,
        (applyPending onRecord c₀ ms).2) := by
  unfold runPending
  simp only [hboot, hnames]

/-- or ends because these cannot be read, -/
theorem runPending_of_none (hboot : bootstrap ms c = (true, c₀)) (hnames : c₀.applied? = none) :
    runPending ms c = (.error .recordsUnreadable, c₀) := by
  unfold runPending
  simp only [hboot, hnames]

/-- or because the bootstrap failed. -/
theorem runPending_of_failed (hboot : bootstrap ms c = (false, c₀)) :
    runPending ms c = (.error .bootstrapFailed, c₀) := by
  unfold runPending
  simp only [hboot]

/-- Walking a list applies the migrations that are not on record, all of them
or those before the first that fails. -/
theorem applyPending_cases (hms : ∀ m ∈ ms, ∀ s ∈ m.statements, s.KeepsRecords)
    (hnames : (ms.map (·.name)).Nodup) (hholds : c.HoldsRecords)
    (hnew : ∀ m ∈ ms, m.name ∉ onRecord → m.name ∉ c.records) :
    (∃ c', Applied c (unrecorded onRecord ms) c' ∧
      applyPending onRecord c ms = (.ok ((unrecorded onRecord ms).map (·.name)), c')) ∨
      ∃ before m after c', unrecorded onRecord ms = before ++ m :: after ∧ Applied c before c' ∧
        Fails c' m.statements ∧ applyPending onRecord c ms = (.error (.failed m.name), c') := by
  induction ms generalizing c with
  | nil => exact .inl ⟨c, .nil, rfl⟩
  | cons m ms ih =>
      obtain ⟨hm, hrest⟩ := List.forall_mem_cons.mp hms
      obtain ⟨hfresh, hnames⟩ := List.nodup_cons.mp hnames
      obtain ⟨hnewName, hnewNames⟩ := List.forall_mem_cons.mp hnew
      by_cases hrecorded : m.name ∈ onRecord
      · have hskip : unrecorded onRecord (m :: ms) = unrecorded onRecord ms :=
          List.filter_cons_of_neg (by simp [hrecorded])
        rw [hskip, applyPending_of_mem hrecorded]
        exact ih hrest hnames hholds hnewNames
      · have htake : unrecorded onRecord (m :: ms) = m :: unrecorded onRecord ms :=
          List.filter_cons_of_pos (by simp [hrecorded])
        rw [htake]
        rcases completes_or_fails c m with ⟨c₁, htext⟩ | hfails
        · have hkept := htext.recordsKept hm
          have hholds₁ := hkept.holdsRecords hholds
          have hfreshName : m.name ∉ c₁.records := by
            rw [hkept.records]
            exact hnewName hrecorded
          have hinstall : m.install? c = some (withRecord c₁ m.name) := by
            rw [install?_of_completes htext, hholds₁.record?_eq hfreshName]
            rfl
          rw [applyPending_of_some hrecorded hinstall]
          -- the names that come later are not that of this migration
          have hlater : ∀ m' ∈ ms, m'.name ∉ onRecord →
              m'.name ∉ (withRecord c₁ m.name).records := by
            intro m' hm' hnot
            rw [withRecord, List.mem_append, List.mem_singleton, hkept.records]
            rintro (hold | heq)
            · exact hnewNames m' hm' hnot hold
            · exact hfresh (List.mem_map.mpr ⟨m', hm', heq⟩)
          rcases ih (c := withRecord c₁ m.name) hrest hnames hholds₁ hlater with
            ⟨c', happlied, hran⟩ | ⟨before, m', after, c', hsplit, happlied, hfails, hran⟩
          · refine .inl ⟨c', .cons htext happlied, ?_⟩
            rw [hran]
            rfl
          · refine .inr ⟨m :: before, m', after, c', ?_, .cons htext happlied, hfails, ?_⟩
            · rw [hsplit, List.cons_append]
            · rw [hran]
              rfl
        · rw [applyPending_of_none hrecorded (install?_of_fails hfails)]
          exact .inr ⟨[], m, unrecorded onRecord ms, c, rfl, .nil, hfails, rfl⟩

/-! ### How a run ends -/

/-- The two ways in which a run may end, from the catalog behind the bootstrap:
all migrations that are not on record are applied, or those before the first
whose text fails. -/
inductive Ending (ms : List Migration) (c c₀ : Catalog) : Prop
  | completed (c' : Catalog) (applied : Applied c₀ (unrecorded c.records ms) c')
      (records : c'.records = c.records ++ (unrecorded c.records ms).map (·.name))
      (ran : runPending ms c =
        (.ok {
          applied := (unrecorded c.records ms).map (·.name)
          alreadyApplied := ms.length - (unrecorded c.records ms).length }, c'))
  | failed (before : List Migration) (m : Migration) (after : List Migration) (c' : Catalog)
      (split : unrecorded c.records ms = before ++ m :: after) (text : Fails c' m.statements)
      (applied : Applied c₀ before c')
      (records : c'.records = c.records ++ before.map (·.name))
      (ran : runPending ms c = (.error (.failed m.name), c'))
      (message : (MigrationError.failed m.name).message = "migration " ++ m.name ++ " failed")
      (left : pending ms c' = .ok ((m :: after).map (·.name)))

theorem unrecorded_congr {names names' : List String} (h : ∀ name, name ∈ names ↔ name ∈ names') :
    unrecorded names ms = unrecorded names' ms := by
  unfold unrecorded
  congr 1
  funext m
  rw [Bool.eq_iff_iff, Bool.not_eq_true', Bool.not_eq_true', Bool.eq_false_iff, Bool.eq_false_iff]
  exact not_congr (List.contains_iff_mem.trans ((h m.name).trans List.contains_iff_mem.symm))

/-- The names in the records are looked up in another order. -/
theorem applied?_eq_some (h : c.keepsRecords = true) :
    ∃ names, c.applied? = some names ∧ ∀ name, name ∈ names ↔ name ∈ c.records := by
  unfold Catalog.applied?
  rw [if_pos h]
  exact ⟨_, rfl, fun _ => List.mem_mergeSort⟩

/-- A run that finds nothing to do leaves the catalog as it is. -/
theorem runPending_of_recorded (hboot : bootstrap ms c = (true, c))
    (hkeeps : c.keepsRecords = true) (h : ∀ m ∈ ms, m.name ∈ c.records) :
    ∃ report, runPending ms c = (.ok report, c) := by
  obtain ⟨names, hnames, hmem⟩ := applied?_eq_some hkeeps
  have hrecorded : ∀ m ∈ ms, m.name ∈ names := fun m hm => (hmem m.name).mpr (h m hm)
  rw [runPending_of_some hboot hnames, applyPending_of_recorded hrecorded]
  exact ⟨_, rfl⟩

/-- Pending are the migrations that are not on record. -/
theorem pending_eq (h : c.keepsRecords = true) (ms : List Migration) :
    pending ms c = .ok ((unrecorded c.records ms).map (·.name)) := by
  obtain ⟨names, hnames, hmem⟩ := applied?_eq_some h
  unfold pending applied
  rw [hnames, ← unrecorded_congr hmem]
  show Except.ok ((ms.map (·.name)).filter _) = _
  rw [List.filter_map]
  rfl

/-- What is left of different migrations when the first of them are put on
record. -/
theorem unrecorded_append {names : List String} {before rest : List Migration}
    (hnames : (ms.map (·.name)).Nodup) (hsplit : unrecorded names ms = before ++ rest) :
    unrecorded (names ++ before.map (·.name)) ms = rest := by
  have hboth : unrecorded (names ++ before.map (·.name)) ms =
      unrecorded (before.map (·.name)) (unrecorded names ms) := by
    unfold unrecorded
    rw [List.filter_filter]
    congr 1
    funext m
    rw [List.contains_append, Bool.not_or, Bool.and_comm]
  have hdistinct : ((before ++ rest).map (·.name)).Nodup := by
    rw [← hsplit]
    exact hnames.sublist (List.filter_sublist.map _)
  rw [List.map_append, List.nodup_append] at hdistinct
  rw [hboth, hsplit, unrecorded, List.filter_append]
  -- of the one part all are on record, of the other none
  have hnone : before.filter (fun m => !(before.map (·.name)).contains m.name) = [] := by
    rw [List.filter_eq_nil_iff]
    intro m hm
    simpa using ⟨m, hm, rfl⟩
  have hall : rest.filter (fun m => !(before.map (·.name)).contains m.name) = rest := by
    rw [List.filter_eq_self]
    intro m hm
    rw [Bool.not_eq_true', Bool.eq_false_iff]
    intro hcontains
    exact hdistinct.2.2 _ (List.contains_iff_mem.mp hcontains) _ (List.mem_map_of_mem hm) rfl
  rw [hnone, hall, List.nil_append]

/-- Behind the bootstrap the table of records is there, unless there was another
table in its place. -/
theorem WellFormed.holdsRecords (h : WellFormed ms boot) (hboot : Completes c boot.statements c₀)
    (hown : ∀ t, c.table? recordTable.name = some t → t.columns = recordTable.columns) :
    c₀.HoldsRecords := by
  have hkept := hboot.recordsKept (h.keepsRecords boot h.mem)
  obtain ⟨t, ht⟩ := Catalog.hasTable_iff.mp
    (hboot.hasRecordTable (h.keepsRecords boot h.mem) h.creates)
  rcases hkept.table with hsame | ⟨-, hcreated⟩
  · exact ⟨t, ht, hown t (hsame ▸ ht)⟩
  · exact ⟨recordTable, hcreated, rfl⟩

/-- A table that was there is left as it is. -/
theorem WellFormed.keepsRecords_eq (h : WellFormed ms boot) (hboot : Completes c boot.statements c₀)
    (hthere : c.hasTable recordTable.name = true) : c₀.keepsRecords = c.keepsRecords := by
  rcases (hboot.recordsKept (h.keepsRecords boot h.mem)).table with hsame | ⟨hmissing, -⟩
  · exact Catalog.keepsRecords_congr hsame
  · rw [Catalog.table?_eq_none_iff.mp hmissing] at hthere
    cases hthere

theorem WellFormed.bootstrap_eq (h : WellFormed ms boot) (hboot : Completes c boot.statements c₀) :
    bootstrap ms c = (true, c₀) := by
  unfold bootstrap
  rw [h.find?_eq]
  exact execute_eq_true_iff.mpr hboot

/-- **Migrations are all or nothing.**  Where the table of records is missing
or the one that the bootstrap makes, a run applies the migrations that are not
on record, all of them or those before the first that fails.  Where another
table without a column for the names has taken its place, it applies none, and
says that the records cannot be read. -/
theorem runPending_all_or_nothing (h : WellFormed ms boot)
    (hboot : Completes c boot.statements c₀) :
    ((∀ t, c.table? recordTable.name = some t → t.columns = recordTable.columns) →
        Ending ms c c₀) ∧
      (c.hasTable recordTable.name = true → c.keepsRecords = false →
        runPending ms c = (.error .recordsUnreadable, c₀)) := by
  have hms := h.keepsRecords
  have hrecords : c₀.records = c.records := (hboot.recordsKept (hms boot h.mem)).records
  constructor
  · intro hown
    have hholds := h.holdsRecords hboot hown
    have hkeeps := hholds.keepsRecords
    obtain ⟨onRecord, honRecord, hmem⟩ := applied?_eq_some hkeeps
    rw [hrecords] at hmem
    have hsame : unrecorded onRecord ms = unrecorded c.records ms := unrecorded_congr hmem
    have hnew : ∀ m ∈ ms, m.name ∉ onRecord → m.name ∉ c₀.records := by
      intro m _ hnot hm
      rw [hrecords] at hm
      exact hnot ((hmem m.name).mpr hm)
    have hrun := runPending_of_some (h.bootstrap_eq hboot) honRecord
    rcases applyPending_cases hms h.names hholds hnew with
      ⟨c', happlied, hwalk⟩ | ⟨before, m, after, c', hsplit, happlied, hfails, hwalk⟩
    · rw [hsame] at happlied hwalk
      have hpending : ∀ m ∈ unrecorded c.records ms, ∀ s ∈ m.statements, s.KeepsRecords :=
        fun m hm => hms m (List.mem_filter.mp hm).1
      obtain ⟨hrecorded, -⟩ := happlied.recorded hpending hkeeps
      refine .completed c' happlied (by rw [hrecorded, hrecords]) ?_
      rw [hrun, hwalk]
      simp only [Except.map, List.length_map]
    · rw [hsame] at hsplit
      have hbefore : ∀ m' ∈ before, ∀ s ∈ m'.statements, s.KeepsRecords := by
        intro m' hm'
        have hpending : m' ∈ unrecorded c.records ms := by
          rw [hsplit]
          exact List.mem_append_left _ hm'
        exact hms m' (List.mem_filter.mp hpending).1
      obtain ⟨hrecorded, hkeeps'⟩ := happlied.recorded hbefore hkeeps
      rw [hrecords] at hrecorded
      refine .failed before m after c' hsplit hfails happlied hrecorded ?_ rfl ?_
      · rw [hrun, hwalk]
        rfl
      · rw [pending_eq hkeeps', hrecorded, unrecorded_append h.names hsplit]
  · intro htable hunreadable
    have hnot := (h.keepsRecords_eq hboot htable).trans hunreadable
    exact runPending_of_none (h.bootstrap_eq hboot) (if_neg (Bool.eq_false_iff.mp hnot))

/-- A catalog in which a later migration was put on record by hand, and an
older table of accounts has no column for the owner. -/
def edited : Catalog :=
  { tables := [recordTable, { name := "accounts", columns := ["id", "balance"] }]
    records := ["002_email_verification.sql"] }

/-- The ledger's schema is not put on record in the edited catalog, where the
index on owners fails. -/
theorem runPending_of_edited_records :
    WellFormed ledger records ∧ Completes edited records.statements edited ∧
      Ending ledger edited edited ∧
      (runPending ledger edited).1 = .error (.failed "001_ledger_schema.sql") := by
  have hwell : WellFormed ledger records :=
    { names := by decide
      mem := List.mem_cons_self
      name := rfl
      creates := List.mem_singleton_self _
      others := by decide }
  have hboot : Completes edited records.statements edited := .cons rfl .nil
  have hown : ∀ t, edited.table? recordTable.name = some t → t.columns = recordTable.columns := by
    rintro t ⟨⟩
    rfl
  exact ⟨hwell, hboot, (runPending_all_or_nothing hwell hboot).1 hown, by decide +kernel⟩

/-- Where a table without a column for names has taken the place of the
records, a run neither applies what is pending nor names a migration that
failed. -/
theorem runPending_of_foreign_records :
    ¬ ∀ (ms : List Migration) (boot : Migration) (c c₀ : Catalog), WellFormed ms boot →
      Completes c boot.statements c₀ → Ending ms c c₀ := by
  intro hall
  let foreign : Catalog := { tables := [{ name := recordTable.name, columns := ["id"] }] }
  have hwell : WellFormed [records] records :=
    { names := by decide
      mem := List.mem_cons_self
      name := rfl
      creates := List.mem_singleton_self _
      others := by decide }
  have hran : (runPending [records] foreign).1 = .error .recordsUnreadable := by decide
  cases hall [records] records foreign foreign hwell (.cons rfl .nil) with
  | completed _ _ _ ran =>
      rw [ran] at hran
      cases hran
  | failed _ _ _ _ _ _ _ _ ran =>
      rw [ran] at hran
      cases hran

-- where another column waits for a value, texts complete and are undone
example :
    let t : Table := ⟨recordTable.name, [nameColumn, requiredColumn "batch" .integer]⟩
    runPending [records] { tables := [t] } =
      (.error (.failed "000_migrations.sql"), { tables := [t] }) := by
  decide +kernel

end Migration

end DoubleEntry
