/-
DoubleEntry/Proofs/Migration/Upgrade.lean

Upgrading equals installing.  A database that an older list of migrations was
run on, and then the longer list of today, ends up as one that today's list
was run on at once: with the same tables and records, and with a failure of
the same migration if one fails.

Both histories walk the same list.  A walk of `A ++ B` is a walk of `A`,
continued with `B` if that came to its end (`applyPending_append`).  The run
that comes after finds on record exactly what has been applied, so that it
skips its way to where the earlier one stopped, and there does what that one
would have done (`applyPending_resume`): it fails again where it failed, and
goes on where it came to the end.

The bootstrap text is executed once more on each run, outside a transaction.
It may create the table of records with any columns.  A column that draws from
a sequence makes it fail on a database without tables, and on each run after
that; otherwise it finds the table there behind the first run, and does nothing
(`IsBootstrap.exists_started`).
-/
import DoubleEntry.Proofs.Migration.AllOrNothing

namespace DoubleEntry

variable {c c' : Catalog} {s : Statement} {ss : List Statement}

/-! ### A table of records that is there -/

/-- Whether the statement creates a table of records where there is none. -/
def Statement.bootstraps : Statement → Bool
  | .createIfAbsent t => sameName t.name recordTable.name
  | _ => false

/-- The statement leaves a table of records alone that is there. -/
def Statement.SparesRecords (s : Statement) : Prop :=
  s.bootstraps = true ∨ s.touches recordTable.name = false

namespace Catalog

/-- A record is put behind the others. -/
theorem eq_of_record? {name : String} (h : c.record? name = some c') :
    c' = { c with records := c.records ++ [name] } := by
  unfold record? at h
  split at h
  case h_2 => cases h
  case h_1 =>
    split at h
    · exact (Option.some.inj h).symm
    · cases h

theorem hasTable_congr {a b : String} (h : sameName a b = true) (c : Catalog) :
    c.hasTable a = c.hasTable b := by
  have hsame : (fun t : Table => sameName t.name a) = fun t => sameName t.name b := by
    funext t
    simp only [sameName, sameName_iff.mp h]
  simp only [hasTable, table?, hsame]

/-- Where migrations can be recorded there is a table for it. -/
theorem hasTable_of_keepsRecords (h : c.keepsRecords = true) :
    c.hasTable recordTable.name = true := by
  rw [hasTable_iff]
  rcases htable : c.table? recordTable.name with - | t
  · simp [keepsRecords, hasColumn, htable] at h
  · exact ⟨t, rfl⟩

end Catalog

/-- A statement that would create the table does nothing, if it does not fail. -/
theorem Statement.eq_of_bootstraps (h : s.bootstraps = true)
    (hthere : c.hasTable recordTable.name = true) (hran : s.run? c = some c') : c' = c := by
  cases s with
  | createIfAbsent t =>
      have ht : c.hasTable t.name = true := (c.hasTable_congr h).trans hthere
      rcases (Statement.run?_createIfAbsent_iff.mp hran).2 with ⟨-, hsame⟩ | ⟨hmissing, -⟩
      · exact hsame
      · rw [ht] at hmissing
        cases hmissing
  | _ => cases h

/-- A table for which there is no need of a sequence can always be created. -/
theorem Catalog.supplies_of_nil {t : Table} (hnone : c.sequences = [])
    (h : c.supplies t = true) (c' : Catalog) : c'.supplies t = true := by
  unfold supplies at *
  rw [List.all_eq_true] at *
  intro column hcolumn
  have hsupplied := h column hcolumn
  cases hdefault : column.default with
  | nextOf sequence => simp [hdefault, hasSequence, hnone] at hsupplied
  | null => rfl
  | value => rfl

/-- What a statement that would create the table leaves behind. -/
theorem Statement.run?_bootstraps (h : s.bootstraps = true) (hran : s.run? c = some c') :
    c'.hasTable recordTable.name = true ∧ c'.records = c.records ∧
      c'.sequences = c.sequences := by
  cases s with
  | createIfAbsent t =>
      rw [← Catalog.hasTable_congr h]
      refine ⟨Statement.hasTable_of_createIfAbsent hran, ?_⟩
      rcases (Statement.run?_createIfAbsent_iff.mp hran).2 with ⟨-, rfl⟩ | ⟨-, hcreated⟩
      · exact ⟨rfl, rfl⟩
      · obtain ⟨-, -, rfl⟩ := Catalog.create?_eq_some_iff.mp hcreated
        exact ⟨rfl, rfl⟩
  | _ => cases h

/-- It can be run again wherever the table is, if it could be run without
sequences. -/
theorem Statement.run?_again (h : s.bootstraps = true) (hran : s.run? c = some c')
    (hnone : c.sequences = []) {c₁ : Catalog} (hthere : c₁.hasTable recordTable.name = true) :
    s.run? c₁ = some c₁ := by
  cases s with
  | createIfAbsent t =>
      have ht : c₁.hasTable t.name = true := (c₁.hasTable_congr h).trans hthere
      have hsupplied := (Statement.run?_createIfAbsent_iff.mp hran).1
      exact Statement.run?_createIfAbsent_iff.mpr
        ⟨Catalog.supplies_of_nil hnone hsupplied c₁, .inl ⟨ht, rfl⟩⟩
  | _ => cases h

/-- What is on record stays, and can still be looked up. -/
theorem Statement.SparesRecords.run? (h : s.SparesRecords) (hkeeps : c.keepsRecords = true)
    (hran : s.run? c = some c') : c'.records = c.records ∧ c'.keepsRecords = true := by
  rcases h with hboots | hother
  · obtain rfl := Statement.eq_of_bootstraps hboots (Catalog.hasTable_of_keepsRecords hkeeps) hran
    exact ⟨rfl, hkeeps⟩
  · have hkept := Statement.KeepsRecords.run? (.inr hother) hran
    exact ⟨hkept.records, hkept.keepsRecords hkeeps⟩

namespace Migration

variable {m boot : Migration} {ms rest A B : List Migration} {onRecord : List String}

theorem Completes.sparesRecords (h : Completes c ss c') (hss : ∀ s ∈ ss, s.SparesRecords)
    (hkeeps : c.keepsRecords = true) : c'.records = c.records ∧ c'.keepsRecords = true := by
  induction h with
  | nil => exact ⟨rfl, hkeeps⟩
  | cons first _ ih =>
      obtain ⟨hs, hrest⟩ := List.forall_mem_cons.mp hss
      obtain ⟨hrecords, hkeeps'⟩ := hs.run? hkeeps first
      obtain ⟨hrecords', hkeeps''⟩ := ih hrest hkeeps'
      exact ⟨hrecords'.trans hrecords, hkeeps''⟩

/-- A migration that is applied is put on record behind the others. -/
theorem install?_records (hm : ∀ s ∈ m.statements, s.SparesRecords)
    (hkeeps : c.keepsRecords = true) (h : m.install? c = some c') :
    c'.records = c.records ++ [m.name] ∧ c'.keepsRecords = true := by
  rcases completes_or_fails c m with ⟨c₁, htext⟩ | hfails
  · obtain ⟨hrecords, hkeeps₁⟩ := htext.sparesRecords hm hkeeps
    rw [install?_of_completes htext] at h
    obtain rfl := Catalog.eq_of_record? h
    exact ⟨by rw [← hrecords], hkeeps₁⟩
  · rw [install?_of_fails hfails] at h
    cases h

/-! ### Walks -/

/-- A walk over two lists goes on with the second where it comes to the end of
the first. -/
theorem applyPending_append (onRecord : List String) (c : Catalog) (A B : List Migration) :
    applyPending onRecord c (A ++ B) =
      match applyPending onRecord c A with
      | (.ok names, c') =>
          ((applyPending onRecord c' B).1.map (names ++ ·), (applyPending onRecord c' B).2)
      | (.error e, c') => (.error e, c') := by
  induction A generalizing c with
  | nil =>
      rcases h : applyPending onRecord c B with ⟨outcome, c'⟩
      cases outcome <;> simp [applyPending, h, Except.map]
  | cons m A ih =>
      by_cases hm : m.name ∈ onRecord
      · rw [List.cons_append, applyPending_of_mem hm, applyPending_of_mem hm, ih]
      rcases hinstall : m.install? c with - | c₁
      · rw [List.cons_append, applyPending_of_none hm hinstall, applyPending_of_none hm hinstall]
      · rw [List.cons_append, applyPending_of_some hm hinstall, applyPending_of_some hm hinstall,
          ih]
        rcases applyPending onRecord c₁ A with ⟨outcome, c₂⟩
        cases outcome with
        | error e => rfl
        | ok names => cases h : (applyPending onRecord c₂ B).1 <;> simp [Except.map, h]

/-- Only the names of the migrations in the list count among those on record. -/
theorem applyPending_congr {onRecord' : List String}
    (h : ∀ m ∈ ms, m.name ∈ onRecord ↔ m.name ∈ onRecord') (c : Catalog) :
    applyPending onRecord c ms = applyPending onRecord' c ms := by
  induction ms generalizing c with
  | nil => rfl
  | cons m ms ih =>
      obtain ⟨hm, hrest⟩ := List.forall_mem_cons.mp h
      by_cases hrecorded : m.name ∈ onRecord
      · rw [applyPending_of_mem hrecorded, applyPending_of_mem (hm.mp hrecorded), ih hrest]
      have hrecorded' : m.name ∉ onRecord' := fun h' => hrecorded (hm.mpr h')
      rcases hinstall : m.install? c with - | c₁
      · rw [applyPending_of_none hrecorded hinstall, applyPending_of_none hrecorded' hinstall]
      · rw [applyPending_of_some hrecorded hinstall, applyPending_of_some hrecorded' hinstall,
          ih hrest]

/-- A walk puts names of its list on record and takes none out of it. -/
theorem applyPending_records (hms : ∀ m ∈ ms, ∀ s ∈ m.statements, s.SparesRecords)
    (hkeeps : c.keepsRecords = true) (onRecord : List String) :
    c.records ⊆ (applyPending onRecord c ms).2.records ∧
      (applyPending onRecord c ms).2.records ⊆ c.records ++ ms.map (·.name) ∧
        (applyPending onRecord c ms).2.keepsRecords = true := by
  induction ms generalizing c with
  | nil => simpa [applyPending] using hkeeps
  | cons m ms ih =>
      obtain ⟨hm, hrest⟩ := List.forall_mem_cons.mp hms
      by_cases hrecorded : m.name ∈ onRecord
      · rw [applyPending_of_mem hrecorded]
        obtain ⟨hold, hnew, hkeeps'⟩ := ih hrest hkeeps
        refine ⟨hold, List.Subset.trans hnew ?_, hkeeps'⟩
        simp
      rcases hinstall : m.install? c with - | c₁
      · rw [applyPending_of_none hrecorded hinstall]
        exact ⟨List.Subset.refl _, List.subset_append_left _ _, hkeeps⟩
      · rw [applyPending_of_some hrecorded hinstall]
        obtain ⟨hrecords, hkeeps₁⟩ := install?_records hm hkeeps hinstall
        obtain ⟨hold, hnew, hkeeps'⟩ := ih hrest hkeeps₁
        rw [hrecords] at hold hnew
        refine ⟨List.Subset.trans (List.subset_append_left _ _) hold, ?_, hkeeps'⟩
        rwa [List.append_assoc, List.singleton_append] at hnew

/-- Behind a walk of `A` that began with none of its names on record, a walk
with what is then on record fails where that one failed, or skips `A`. -/
theorem applyPending_resume {onRecord' : List String}
    (hA : ∀ m ∈ A, ∀ s ∈ m.statements, s.SparesRecords) (hnames : (A.map (·.name)).Nodup)
    (hkeeps : c.keepsRecords = true) (hnew : ∀ m ∈ A, m.name ∉ onRecord ∧ m.name ∉ c.records)
    (hfound : ∀ name, name ∈ onRecord' ↔ name ∈ (applyPending onRecord c A).2.records)
    (B : List Migration) :
    applyPending onRecord' (applyPending onRecord c A).2 (A ++ B) =
      match applyPending onRecord c A with
      | (.ok _, c') => applyPending onRecord' c' B
      | (.error e, c') => (.error e, c') := by
  induction A generalizing c with
  | nil => rfl
  | cons m A ih =>
      obtain ⟨hm, hA⟩ := List.forall_mem_cons.mp hA
      obtain ⟨hfresh, hnames⟩ := List.nodup_cons.mp hnames
      obtain ⟨⟨hpending, hnotThere⟩, hnew⟩ := List.forall_mem_cons.mp hnew
      rcases hinstall : m.install? c with - | c₁
      · -- it failed, has left no record, and fails again
        rw [applyPending_of_none hpending hinstall] at hfound ⊢
        have hpending' : m.name ∉ onRecord' := fun h => hnotThere ((hfound _).mp h)
        exact applyPending_of_none hpending' hinstall (A ++ B)
      · -- it was applied, is on record, and is skipped
        rw [applyPending_of_some hpending hinstall] at hfound ⊢
        obtain ⟨hrecords, hkeeps₁⟩ := install?_records hm hkeeps hinstall
        have hrecorded : m.name ∈ c₁.records := by simp [hrecords]
        have hskipped : m.name ∈ onRecord' :=
          (hfound _).mpr ((applyPending_records hA hkeeps₁ onRecord).1 hrecorded)
        have hnew₁ : ∀ m' ∈ A, m'.name ∉ onRecord ∧ m'.name ∉ c₁.records := by
          intro m' hm'
          refine ⟨(hnew m' hm').1, ?_⟩
          rw [hrecords, List.mem_append, List.mem_singleton]
          rintro (hold | heq)
          · exact (hnew m' hm').2 hold
          · exact hfresh (List.mem_map.mpr ⟨m', hm', heq⟩)
        rw [List.cons_append, applyPending_of_mem hskipped, ih hA hnames hkeeps₁ hnew₁ hfound]
        rcases applyPending onRecord c₁ A with ⟨outcome, c₂⟩
        cases outcome <;> rfl

/-- Behind a walk of `A` from an empty record, a walk of `A ++ B` does with `B`
what it would have done at once. -/
theorem applyPending_upgrade (hA : ∀ m ∈ A, ∀ s ∈ m.statements, s.SparesRecords)
    (hnames : ((A ++ B).map (·.name)).Nodup) (hkeeps : c.keepsRecords = true)
    (hnothing : c.records = [])
    (hfound : ∀ name, name ∈ onRecord ↔ name ∈ (applyPending [] c A).2.records) :
    applyPending onRecord (applyPending [] c A).2 (A ++ B) =
      match applyPending [] c A with
      | (.ok _, c') => applyPending [] c' B
      | (.error e, c') => (.error e, c') := by
  rw [List.map_append, List.nodup_append] at hnames
  obtain ⟨hnamesA, -, hapart⟩ := hnames
  rw [applyPending_resume hA hnamesA hkeeps (by simp [hnothing]) hfound]
  -- only names of `A` are on record, and none of `B`
  have hnew : ∀ m ∈ B, m.name ∈ onRecord ↔ m.name ∈ ([] : List String) := by
    intro m hm
    rw [hfound]
    refine iff_of_false (fun hrecorded => ?_) List.not_mem_nil
    have hmem := (applyPending_records hA hkeeps []).2.1 hrecorded
    rw [hnothing, List.nil_append] at hmem
    exact hapart _ hmem _ (List.mem_map_of_mem hm) rfl
  rcases applyPending [] c A with ⟨outcome, c'⟩
  cases outcome with
  | ok names => exact applyPending_congr hnew c'
  | error e => rfl

/-! ### The bootstrap -/

/-- What a run gives for a walk of its list. -/
def report (ms : List Migration) (walk : Except MigrationError (List String) × Catalog) :
    Except MigrationError MigrationReport × Catalog :=
  (walk.1.map fun names => ⟨names, ms.length - names.length⟩, walk.2)

/-- The bootstrap migration: it does nothing but create a table of records
where there is none. -/
structure IsBootstrap (m : Migration) : Prop where
  name : m.name = bootstrapName
  nonempty : m.statements ≠ []
  creates : ∀ s ∈ m.statements, s.bootstraps = true

/-- The bootstrap text does nothing where the table of records is. -/
def IsIdle (boot : Migration) : Prop :=
  ∀ c : Catalog, c.hasTable recordTable.name = true → Completes c boot.statements c

/-- Where the table is, statements that create it leave everything as it is, up
to one that fails. -/
theorem runStatements_of_bootstraps (h : ∀ s ∈ ss, s.bootstraps = true)
    (hthere : c.hasTable recordTable.name = true) : (runStatements c ss).2 = c := by
  induction ss with
  | nil => rfl
  | cons s ss ih =>
      obtain ⟨hs, hrest⟩ := List.forall_mem_cons.mp h
      rw [runStatements]
      cases hran : s.run? c with
      | none => rfl
      | some c₁ =>
          obtain rfl := Statement.eq_of_bootstraps hs hthere hran
          exact ih hrest

/-- What has completed without sequences completes again, and does nothing,
wherever the table is. -/
theorem completes_of_bootstraps (h : ∀ s ∈ ss, s.bootstraps = true) (htext : Completes c ss c')
    (hnone : c.sequences = []) {c₁ : Catalog} (hthere : c₁.hasTable recordTable.name = true) :
    Completes c₁ ss c₁ := by
  induction htext with
  | nil => exact .nil
  | cons first _ ih =>
      obtain ⟨hs, hrest⟩ := List.forall_mem_cons.mp h
      obtain ⟨-, -, hsequences⟩ := Statement.run?_bootstraps hs first
      exact .cons (Statement.run?_again hs first hnone hthere) (ih hrest (hsequences.trans hnone))

namespace IsBootstrap

theorem execute_eq (h : IsBootstrap boot) (c : Catalog) :
    boot.execute c = runStatements c boot.statements := by
  apply if_neg
  intro hmalformed
  cases h.creates _ (List.contains_iff_mem.mp hmalformed)

/-- At the head of a list it is what is run beforehand. -/
theorem bootstrap_cons (h : IsBootstrap boot) (ms : List Migration) (c : Catalog) :
    bootstrap (boot :: ms) c = boot.execute c := by
  simp [bootstrap, h.name]

/-- On a database without tables it comes to a catalog in which it comes to the
same again.  If it completes, the table of records is there, and the text does
nothing from then on. -/
theorem exists_started (h : IsBootstrap boot) :
    ∃ c₀ : Catalog, c₀.records = [] ∧ (boot.execute {}).2 = c₀ ∧
      boot.execute c₀ = boot.execute {} ∧
      ((boot.execute {}).1 = true → c₀.hasTable recordTable.name = true ∧ boot.IsIdle) := by
  obtain ⟨s, ss, hstatements⟩ := List.exists_cons_of_ne_nil h.nonempty
  have hcreates := h.creates
  rw [hstatements] at hcreates
  obtain ⟨hs, hrest⟩ := List.forall_mem_cons.mp hcreates
  have hexecute : ∀ c, boot.execute c = runStatements c (s :: ss) := by
    intro c
    rw [h.execute_eq, hstatements]
  cases hfirst : s.run? {} with
  | none =>
      have hempty : boot.execute {} = (false, {}) := by
        rw [hexecute, runStatements, hfirst]
      refine ⟨{}, rfl, congrArg Prod.snd hempty, rfl, fun hok => ?_⟩
      rw [hempty] at hok
      cases hok
  | some c₀ =>
      obtain ⟨hthere, hrecords, -⟩ := Statement.run?_bootstraps hs hfirst
      have hempty : boot.execute {} = runStatements c₀ ss := by
        rw [hexecute, runStatements, hfirst]
      have hleft : (boot.execute {}).2 = c₀ := by
        rw [hempty, runStatements_of_bootstraps hrest hthere]
      have hagain : boot.execute c₀ = boot.execute {} := by
        rw [hempty, hexecute, runStatements, Statement.run?_again hs hfirst rfl hthere]
      refine ⟨c₀, hrecords, hleft, hagain, fun hok => ⟨hthere, fun c hc => ?_⟩⟩
      have htext : Completes {} boot.statements c₀ :=
        execute_eq_true_iff.mp (Prod.ext hok hleft)
      exact completes_of_bootstraps h.creates htext rfl hc

/-- Where migrations can be recorded, a run is a walk with the names on
record. -/
theorem exists_runPending_eq (h : IsBootstrap boot) (hidle : boot.IsIdle) (ms : List Migration)
    (hkeeps : c.keepsRecords = true) :
    ∃ onRecord, (∀ name, name ∈ onRecord ↔ name ∈ c.records) ∧
      runPending (boot :: ms) c = report (boot :: ms) (applyPending onRecord c (boot :: ms)) := by
  obtain ⟨onRecord, hnames, hmem⟩ := applied?_eq_some hkeeps
  have htext := hidle c (Catalog.hasTable_of_keepsRecords hkeeps)
  have hboot := (h.bootstrap_cons ms c).trans (execute_eq_true_iff.mpr htext)
  exact ⟨onRecord, hmem, runPending_of_some hboot hnames⟩

/-- Where the table has no column for the names, each run ends with that. -/
theorem runPending_of_unreadable (h : IsBootstrap boot) (hidle : boot.IsIdle) (ms : List Migration)
    (hthere : c.hasTable recordTable.name = true) (hkeeps : c.keepsRecords = false) :
    runPending (boot :: ms) c = (.error .recordsUnreadable, c) := by
  have hboot := (h.bootstrap_cons ms c).trans (execute_eq_true_iff.mpr (hidle c hthere))
  have hnone : c.applied? = none := by simp [Catalog.applied?, hkeeps]
  exact runPending_of_none hboot hnone

/-- With nothing on record a run is a walk that skips nothing. -/
theorem runPending_of_nothing (h : IsBootstrap boot) (hidle : boot.IsIdle) (ms : List Migration)
    (hkeeps : c.keepsRecords = true) (hnothing : c.records = []) :
    runPending (boot :: ms) c = report (boot :: ms) (applyPending [] c (boot :: ms)) := by
  obtain ⟨onRecord, hfound, hran⟩ := h.exists_runPending_eq hidle ms hkeeps
  obtain rfl : onRecord = [] := by
    rw [List.eq_nil_iff_forall_not_mem]
    simp [hfound, hnothing]
  exact hran

/-- The run that comes after skips what that walk has applied. -/
theorem runPending_of_walked (h : IsBootstrap boot) (hidle : boot.IsIdle)
    (hA : ∀ m ∈ boot :: A, ∀ s ∈ m.statements, s.SparesRecords)
    (hnames : ((boot :: A ++ B).map (·.name)).Nodup) (hkeeps : c.keepsRecords = true)
    (hnothing : c.records = []) :
    runPending (boot :: A ++ B) (applyPending [] c (boot :: A)).2 =
      report (boot :: A ++ B)
        (match applyPending [] c (boot :: A) with
        | (.ok _, c') => applyPending [] c' B
        | (.error e, c') => (.error e, c')) := by
  have hkeeps' := (applyPending_records hA hkeeps []).2.2
  obtain ⟨onRecord, hfound, hran⟩ := h.exists_runPending_eq hidle (A ++ B) hkeeps'
  rw [← applyPending_upgrade hA hnames hkeeps hnothing hfound]
  exact hran

end IsBootstrap

/-! ### Two histories -/

/-- A list that can be run on a database without tables: its names are
different, the bootstrap stands at its head, and no other statement is about
the table of records. -/
structure Installable (ms : List Migration) : Prop where
  names : (ms.map (·.name)).Nodup
  bootstrap : ∃ boot ∈ ms.head?, IsBootstrap boot
  others : ∀ m ∈ ms.tail, ∀ s ∈ m.statements, s.touches recordTable.name = false

/-- How a run ended, whatever it has done. -/
def ending (ran : Except MigrationError MigrationReport × Catalog) : Except MigrationError Unit :=
  ran.1.map fun _ => ()

theorem Installable.sparesRecords (h : Installable (A ++ B)) :
    ∀ m ∈ A, ∀ s ∈ m.statements, s.SparesRecords := by
  cases A with
  | nil => simp
  | cons boot A =>
      obtain ⟨boot', hhead, hboot⟩ := h.bootstrap
      obtain rfl : boot = boot' := Option.some.inj hhead
      intro m hm s hs
      rcases List.mem_cons.mp hm with rfl | hm
      · exact .inl (hboot.creates s hs)
      · exact .inr (h.others m (List.mem_append_left B hm) s hs)

/-- A walk continued with `B` and `B` walked by itself end the same, and the
first has applied what the second has, behind what had been applied before. -/
theorem reports_agree (walk : Except MigrationError (List String) × Catalog)
    (A B : List Migration) :
    let upgraded := report (A ++ B)
      (match walk with
      | (.ok _, c') => applyPending [] c' B
      | (.error e, c') => (.error e, c'))
    let installed := report (A ++ B)
      (match walk with
      | (.ok names, c') => ((applyPending [] c' B).1.map (names ++ ·), (applyPending [] c' B).2)
      | (.error e, c') => (.error e, c'))
    upgraded.2 = installed.2 ∧ ending upgraded = ending installed ∧
      ∀ old new full, (report A walk).1 = .ok old → upgraded.1 = .ok new →
        installed.1 = .ok full → full.applied = old.applied ++ new.applied := by
  obtain ⟨outcome, c'⟩ := walk
  cases outcome with
  | error e => exact ⟨rfl, rfl, nofun⟩
  | ok names =>
      dsimp only
      rcases applyPending [] c' B with ⟨outcome, c''⟩
      cases outcome with
      | error e => exact ⟨rfl, rfl, nofun⟩
      | ok names' => simp [report, ending, Except.map]

/-- **Upgrading equals installing.**  On a database without tables, a run of
`A` followed by one of `A ++ B` comes to the same tables and records as one
run of `A ++ B`, and ends the same: with success, or the failure of the same
migration.  A run of `A` that succeeded, repeated, applies nothing. -/
theorem runPending_upgrade (h : Installable (A ++ B)) :
    let first := runPending A {}
    let upgraded := runPending (A ++ B) first.2
    let installed := runPending (A ++ B) {}
    upgraded.2 = installed.2 ∧ ending upgraded = ending installed ∧
      (∀ old new full, first.1 = .ok old → upgraded.1 = .ok new → installed.1 = .ok full →
        full.applied = old.applied ++ new.applied) ∧
      ∀ old, first.1 = .ok old → runPending A first.2 = (.ok ⟨[], A.length⟩, first.2) := by
  intro first upgraded installed
  have hspares := h.sparesRecords
  cases A with
  | nil =>
      -- without the bootstrap a run finds no records, and does nothing
      exact ⟨rfl, rfl, nofun, nofun⟩
  | cons boot A =>
      obtain ⟨boot', hhead, hboot⟩ := h.bootstrap
      obtain rfl : boot = boot' := Option.some.inj hhead
      obtain ⟨c₀, hnothing, hleft, hagain, hcompleted⟩ := hboot.exists_started
      have hstart : ∀ ms, runPending (boot :: ms) {} = runPending (boot :: ms) c₀ := by
        intro ms
        simp only [runPending, hboot.bootstrap_cons, hagain]
      -- runs that all end with one error do not differ
      have hfails : ∀ e, (∀ ms, runPending (boot :: ms) c₀ = (.error e, c₀)) →
          first = (.error e, c₀) ∧ upgraded = (.error e, c₀) ∧ installed = (.error e, c₀) := by
        intro e hran
        have hfirst : first = (.error e, c₀) := (hstart A).trans (hran A)
        refine ⟨hfirst, ?_, (hstart (A ++ B)).trans (hran (A ++ B))⟩
        simp only [upgraded, hfirst]
        exact hran (A ++ B)
      cases hok : (boot.execute {}).1 with
      | false =>
          obtain ⟨hfirst, hupgraded, hinstalled⟩ := hfails .bootstrapFailed fun ms =>
            runPending_of_failed ((hboot.bootstrap_cons ms c₀).trans
              (hagain.trans (Prod.ext hok hleft)))
          rw [hfirst, hinstalled, hupgraded]
          exact ⟨rfl, rfl, nofun, nofun⟩
      | true =>
          obtain ⟨hthere, hidle⟩ := hcompleted hok
          cases hkeeps : c₀.keepsRecords with
          | false =>
              obtain ⟨hfirst, hupgraded, hinstalled⟩ := hfails .recordsUnreadable fun ms =>
                hboot.runPending_of_unreadable hidle ms hthere hkeeps
              rw [hfirst, hinstalled, hupgraded]
              exact ⟨rfl, rfl, nofun, nofun⟩
          | true =>
              have hfirst : first = report (boot :: A) (applyPending [] c₀ (boot :: A)) :=
                (hstart A).trans (hboot.runPending_of_nothing hidle A hkeeps hnothing)
              have hdb : first.2 = (applyPending [] c₀ (boot :: A)).2 := congrArg Prod.snd hfirst
              have hinstalled : installed = report (boot :: A ++ B) _ :=
                (hstart (A ++ B)).trans (hboot.runPending_of_nothing hidle (A ++ B) hkeeps hnothing)
              rw [← List.cons_append, applyPending_append] at hinstalled
              have hupgraded : upgraded = _ :=
                (congrArg (runPending (boot :: A ++ B)) hdb).trans
                  (hboot.runPending_of_walked hidle hspares h.names hkeeps hnothing)
              obtain ⟨hcatalog, hending, hreports⟩ :=
                reports_agree (applyPending [] c₀ (boot :: A)) (boot :: A) B
              rw [hfirst, hupgraded, hinstalled]
              refine ⟨hcatalog, hending, hreports, ?_⟩
              -- the first run repeated is an upgrade by nothing
              have hnames : ((boot :: A ++ ([] : List Migration)).map (·.name)).Nodup := by
                rw [List.append_nil]
                exact h.names.sublist ((List.sublist_append_left _ _).map _)
              have hagain := hboot.runPending_of_walked hidle hspares hnames hkeeps hnothing
              rw [List.append_nil] at hagain
              show ∀ old, _ → runPending (boot :: A) (applyPending [] c₀ (boot :: A)).2 = _
              rw [hagain]
              rcases applyPending [] c₀ (boot :: A) with ⟨outcome, c'⟩
              cases outcome with
              | ok names => exact fun _ _ => rfl
              | error e => exact nofun

/-- A list whose third migration fails behind a statement that has run, and
what is added to it later. -/
def stuck : List Migration × List Migration :=
  ([records,
    { name := "001_accounts.sql"
      statements := [.createSequence "seq_accounts", .create accountTable] },
    { name := "002_users.sql", statements := [.create userTable, .create accountTable] }],
    [{ name := "003_entries.sql"
       statements := [.createSequence "seq_entries", .create entryTable] }])

/-- Upgraded or installed, it stops at the third migration with the table of
accounts, and nothing of what comes after. -/
theorem runPending_upgrade_of_stuck :
    Installable (stuck.1 ++ stuck.2) ∧
      (let upgraded := runPending (stuck.1 ++ stuck.2) (runPending stuck.1 {}).2
      let installed := runPending (stuck.1 ++ stuck.2) {}
      upgraded.2 = installed.2 ∧ ending upgraded = ending installed ∧
        ending installed = .error (.failed "002_users.sql") ∧
        installed.2.tables = [recordTable, accountTable] ∧
        installed.2.records = ["000_migrations.sql", "001_accounts.sql"]) := by
  have hstuck : Installable (stuck.1 ++ stuck.2) :=
    { names := by decide
      bootstrap := ⟨records, rfl, rfl, by decide, by decide⟩
      others := by decide }
  obtain ⟨hcatalog, hending, -, -⟩ := runPending_upgrade hstuck
  exact ⟨hstuck, hcatalog, hending, by decide +kernel, by decide +kernel, by decide +kernel⟩

end Migration

end DoubleEntry
