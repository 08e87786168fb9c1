/-
DoubleEntry/Proofs/Migration/Statements.lean

What the text of a migration does.  A text completes (`Completes`) when its
statements run one after the other to the last; otherwise it fails (`Fails`),
be it that it cannot be parsed or that a statement fails behind others that
have run.  `execute_eq_true_iff` and `execute_eq_false_iff` say that this is
what the execution of a migration tells apart.

A statement that does not touch the table of records leaves what is on record
alone, and so does one that creates the table where it is missing
(`Statement.KeepsRecords`).
-/
import DoubleEntry.Migration.Run

namespace DoubleEntry

variable {c c' c'' : Catalog} {s : Statement} {ss : List Statement} {name : String}

namespace Migration

/-! ### Texts -/

/-- All statements run, one after the other. -/
inductive Completes : Catalog → List Statement → Catalog → Prop
  | nil {c : Catalog} : Completes c [] c
  | cons {c c' c'' : Catalog} {s : Statement} {ss : List Statement} (first : s.run? c = some c')
      (rest : Completes c' ss c'') : Completes c (s :: ss) c''

/-- The text cannot be parsed, or a statement of it fails behind those before
it. -/
inductive Fails (c : Catalog) (ss : List Statement) : Prop
  | malformed (text : .malformed ∈ ss)
  | statement (before : List Statement) (s : Statement) (after : List Statement) (c' : Catalog)
      (split : ss = before ++ s :: after) (ran : Completes c before c')
      (failed : s.run? c' = none)

/-- Only statements complete. -/
theorem Completes.not_malformed (h : Completes c ss c') : .malformed ∉ ss := by
  induction h with
  | nil => exact List.not_mem_nil
  | cons first _ ih =>
      rw [List.mem_cons]
      rintro (rfl | hrest)
      · cases first
      · exact ih hrest

theorem runStatements_eq_true_iff : runStatements c ss = (true, c') ↔ Completes c ss c' := by
  induction ss generalizing c with
  | nil =>
      refine ⟨fun h => ?_, fun h => ?_⟩
      · cases h
        exact .nil
      · cases h
        rfl
  | cons s ss ih =>
      rw [runStatements]
      cases hs : s.run? c with
      | none =>
          refine ⟨fun h => ?_, fun h => ?_⟩
          · cases h
          · rcases h with - | ⟨first, -⟩
            rw [hs] at first
            cases first
      | some c₁ =>
          rw [ih]
          refine ⟨.cons hs, fun h => ?_⟩
          rcases h with - | ⟨first, rest⟩
          rw [hs] at first
          cases first
          exact rest

/-- Statements that do not all run have a first one that fails. -/
theorem fails_of_runStatements (h : (runStatements c ss).1 = false) : Fails c ss := by
  induction ss generalizing c with
  | nil => cases h
  | cons s ss ih =>
      rw [runStatements] at h
      cases hs : s.run? c with
      | none => exact .statement [] s ss c rfl .nil hs
      | some c₁ =>
          rw [hs] at h
          cases ih h with
          | malformed text => exact .malformed (List.mem_cons_of_mem s text)
          | statement before t after c₂ split ran failed =>
              exact .statement (s :: before) t after c₂ (by rw [split]; rfl) (.cons hs ran) failed

/-- A text does not both complete and fail. -/
theorem Completes.not_fails (h : Completes c ss c') : ¬ Fails c ss := by
  intro hfails
  cases hfails with
  | malformed text => exact h.not_malformed text
  | statement before s after c₁ split ran failed =>
      -- the statements before the one that fails run the same both times
      induction ran generalizing ss with
      | nil =>
          subst split
          rcases h with - | ⟨first, -⟩
          rw [failed] at first
          cases first
      | cons first _ ih =>
          subst split
          rcases h with - | ⟨first', rest⟩
          rw [first] at first'
          cases first'
          exact ih rest rfl failed

/-! ### Execution -/

variable {m : Migration}

theorem execute_eq_true_iff : m.execute c = (true, c') ↔ Completes c m.statements c' := by
  unfold execute
  by_cases hmalformed : Statement.malformed ∈ m.statements
  · rw [if_pos (List.contains_iff_mem.mpr hmalformed)]
    refine ⟨fun h => ?_, fun h => absurd hmalformed h.not_malformed⟩
    cases h
  · rw [if_neg fun h => hmalformed (List.contains_iff_mem.mp h)]
    exact runStatements_eq_true_iff

theorem execute_eq_false_iff : (m.execute c).1 = false ↔ Fails c m.statements := by
  constructor
  · intro h
    unfold execute at h
    split at h
    case isTrue hmalformed => exact .malformed (List.contains_iff_mem.mp hmalformed)
    case isFalse => exact fails_of_runStatements h
  · intro h
    rcases hran : m.execute c with ⟨ok, c'⟩
    cases ok with
    | false => rfl
    | true => exact absurd h (execute_eq_true_iff.mp hran).not_fails

theorem install?_of_completes (h : Completes c m.statements c') :
    m.install? c = c'.record? m.name := by
  unfold install?
  rw [execute_eq_true_iff.mpr h]

theorem install?_of_fails (h : Fails c m.statements) : m.install? c = none := by
  unfold install?
  have hfalse := execute_eq_false_iff.mpr h
  rcases hran : m.execute c with ⟨ok, c'⟩
  rw [hran] at hfalse
  obtain rfl : ok = false := hfalse
  rfl

/-- A text completes or fails. -/
theorem completes_or_fails (c : Catalog) (m : Migration) :
    (∃ c', Completes c m.statements c') ∨ Fails c m.statements := by
  rcases hran : m.execute c with ⟨ok, c'⟩
  cases ok with
  | true => exact .inl ⟨c', execute_eq_true_iff.mp hran⟩
  | false => exact .inr (execute_eq_false_iff.mp (by rw [hran]))

end Migration

/-! ### Names -/

theorem sameName_iff {a b : String} :
    sameName a b = true ↔ a.toList.map Char.toLower = b.toList.map Char.toLower :=
  decide_eq_true_iff

theorem sameName_self (a : String) : sameName a a = true :=
  sameName_iff.mpr rfl

/-- Two names that are the same are the same as the same names. -/
theorem sameName_congr {a b d : String} (h : sameName a b = true) :
    sameName a d = sameName b d := by
  rw [Bool.eq_iff_iff, sameName_iff, sameName_iff, sameName_iff.mp h]

/-! ### The table of records -/

/-- Whether a statement is about a table. -/
def Statement.touches (name : String) : Statement → Bool
  | .create t | .createIfAbsent t => sameName t.name name
  | .createIndex table _ | .drop table => sameName table name
  | .createSequence _ | .malformed => false

/-- The table of records is there, with the columns that the program gives it. -/
def Catalog.HoldsRecords (c : Catalog) : Prop :=
  ∃ t, c.table? recordTable.name = some t ∧ t.columns = recordTable.columns

/-- What is on record is the same, and the table of records too, unless it was
missing and has been created. -/
structure Catalog.RecordsKept (c c' : Catalog) : Prop where
  records : c'.records = c.records
  table : c'.table? recordTable.name = c.table? recordTable.name ∨
    c.table? recordTable.name = none ∧ c'.table? recordTable.name = some recordTable

namespace Catalog

theorem hasTable_iff : c.hasTable name = true ↔ ∃ t, c.table? name = some t :=
  Option.isSome_iff_exists

theorem table?_eq_none_iff : c.table? name = none ↔ c.hasTable name = false := by
  rw [hasTable, Option.isSome_eq_false_iff, Option.isNone_iff_eq_none]

theorem keepsRecords_congr (h : c'.table? recordTable.name = c.table? recordTable.name) :
    c'.keepsRecords = c.keepsRecords := by
  unfold keepsRecords hasColumn
  rw [h]

/-- Where the table of records is there, migrations can be looked up, -/
theorem HoldsRecords.keepsRecords (h : c.HoldsRecords) : c.keepsRecords = true := by
  obtain ⟨t, ht, hcolumns⟩ := h
  unfold Catalog.keepsRecords hasColumn
  rw [ht]
  dsimp only
  rw [Table.column?, hcolumns]
  decide

/-- and each can be recorded once. -/
theorem HoldsRecords.record?_eq (h : c.HoldsRecords) (hnew : name ∉ c.records) :
    c.record? name = some { c with records := c.records ++ [name] } := by
  obtain ⟨t, ht, hcolumns⟩ := h
  have hname : t.column? nameColumn.name = some nameColumn := by
    rw [Table.column?, hcolumns]
    decide
  have hcontains : c.records.contains name = false :=
    Bool.eq_false_iff.mpr fun hmem => hnew (List.contains_iff_mem.mp hmem)
  -- the other column has a value of its own
  have hothers : (t.columns.all fun other =>
      sameName other.name nameColumn.name || other.isOptional) = true := by
    rw [hcolumns]
    decide
  have htakes : t.takesRecord c.records name = true := by
    unfold Table.takesRecord
    rw [hname]
    dsimp only
    rw [hcontains, hothers]
    rfl
  unfold record?
  rw [ht]
  exact if_pos htakes

namespace RecordsKept

theorem refl (c : Catalog) : c.RecordsKept c :=
  ⟨rfl, .inl rfl⟩

theorem trans (h : c.RecordsKept c') (h' : c'.RecordsKept c'') : c.RecordsKept c'' where
  records := h'.records.trans h.records
  table := by
    rcases h.table with htable | ⟨hmissing, hcreated⟩
    · rw [← htable]
      exact h'.table
    · right
      refine ⟨hmissing, ?_⟩
      rcases h'.table with htable' | ⟨hmissing', -⟩
      · rw [htable', hcreated]
      · rw [hcreated] at hmissing'
        cases hmissing'

/-- The table of records stays as it is. -/
theorem holdsRecords (h : c.RecordsKept c') (hholds : c.HoldsRecords) : c'.HoldsRecords := by
  rcases h.table with htable | ⟨-, hcreated⟩
  · obtain ⟨t, ht, hcolumns⟩ := hholds
    exact ⟨t, htable.trans ht, hcolumns⟩
  · exact ⟨recordTable, hcreated, rfl⟩

/-- Records that can be looked up still can be. -/
theorem keepsRecords (h : c.RecordsKept c') (hkeeps : c.keepsRecords = true) :
    c'.keepsRecords = true := by
  rcases h.table with htable | ⟨-, hcreated⟩
  · rw [keepsRecords_congr htable]
    exact hkeeps
  · exact HoldsRecords.keepsRecords ⟨recordTable, hcreated, rfl⟩

/-- A sequence is no table. -/
theorem withSequence (c : Catalog) (sequence : String) :
    c.RecordsKept (c.withSequence sequence) := by
  unfold Catalog.withSequence
  split
  · exact .refl c
  · exact ⟨rfl, .inl rfl⟩

theorem hasTable (h : c.RecordsKept c') (hthere : c.hasTable recordTable.name = true) :
    c'.hasTable recordTable.name = true := by
  obtain ⟨t, ht⟩ := hasTable_iff.mp hthere
  rcases h.table with htable | ⟨-, hcreated⟩
  · exact hasTable_iff.mpr ⟨t, htable.trans ht⟩
  · exact hasTable_iff.mpr ⟨_, hcreated⟩

end RecordsKept

/-- A table is created where there is none of its name, and the sequences are
there from which it draws. -/
theorem create?_eq_some_iff {t : Table} :
    c.create? t = some c' ↔
      c.hasTable t.name = false ∧ c.supplies t = true ∧
        { c with tables := c.tables ++ [t] } = c' := by
  unfold create?
  cases c.hasTable t.name <;> cases c.supplies t <;> simp

/-- A new table is found under its own name only. -/
theorem table?_of_create? {t : Table} (h : c.create? t = some c') (name : String) :
    c'.table? name = (c.table? name).or (if sameName t.name name then some t else none) := by
  obtain ⟨-, -, rfl⟩ := create?_eq_some_iff.mp h
  unfold table?
  rw [List.find?_append, List.find?_singleton]

theorem records_of_create? {t : Table} (h : c.create? t = some c') : c'.records = c.records := by
  obtain ⟨-, -, rfl⟩ := create?_eq_some_iff.mp h
  rfl

/-- A table that is dropped takes no table of another name with it. -/
theorem table?_of_drop? {dropped : String} (h : c.drop? dropped = some c')
    (hother : sameName dropped name = false) : c'.table? name = c.table? name := by
  unfold drop? at h
  split at h
  case isFalse => cases h
  case isTrue =>
    cases h
    show (c.tables.filter _).find? _ = c.tables.find? _
    rw [List.find?_filter]
    congr 1
    funext t
    cases hname : sameName t.name name with
    | false => simp
    | true =>
        -- a table of this name is not one of the dropped name
        cases hdropped : sameName t.name dropped with
        | false => rfl
        | true =>
            rw [sameName_congr hdropped, hother] at hname
            cases hname

/-- Nor does it take the records with it. -/
theorem records_of_drop? {dropped : String} (h : c.drop? dropped = some c')
    (hother : sameName dropped recordTable.name = false) : c'.records = c.records := by
  unfold drop? at h
  split at h
  case isFalse => cases h
  case isTrue =>
    cases h
    apply if_neg
    intro hsame
    have hsame' := sameName_iff.mpr (sameName_iff.mp hsame).symm
    rw [hother] at hsame'
    cases hsame'

end Catalog

/-- The statement does not touch the table of records, or creates it where it
is missing. -/
def Statement.KeepsRecords (s : Statement) : Prop :=
  s = .createIfAbsent recordTable ∨ s.touches recordTable.name = false

/-- A table that is created if absent was there, or has been created; in any
case the sequences are there from which it draws. -/
theorem Statement.run?_createIfAbsent_iff {t : Table} :
    (Statement.createIfAbsent t).run? c = some c' ↔
      c.supplies t = true ∧
        (c.hasTable t.name = true ∧ c' = c ∨
          c.hasTable t.name = false ∧ c.create? t = some c') := by
  show (if c.hasTable t.name && c.supplies t then some c else c.create? t) = some c' ↔ _
  cases hthere : c.hasTable t.name with
  | false =>
      rw [Bool.false_and, if_neg Bool.false_ne_true]
      constructor
      · exact fun h => ⟨(Catalog.create?_eq_some_iff.mp h).2.1, .inr ⟨rfl, h⟩⟩
      · rintro ⟨-, ⟨⟨⟩, -⟩ | ⟨-, h⟩⟩
        exact h
  | true =>
      rw [Bool.true_and]
      split
      case isTrue hsupplies => simp [hsupplies, eq_comm]
      case isFalse hsupplies => simp [hsupplies, Catalog.create?, hthere]

/-- Behind the statement it is there. -/
theorem Statement.hasTable_of_createIfAbsent {t : Table}
    (h : (Statement.createIfAbsent t).run? c = some c') : c'.hasTable t.name = true := by
  rcases (Statement.run?_createIfAbsent_iff.mp h).2 with ⟨hthere, rfl⟩ | ⟨-, hcreated⟩
  · exact hthere
  · rw [Catalog.hasTable, Catalog.table?_of_create? hcreated, if_pos (sameName_self _),
      Option.isSome_or, Option.isSome_some, Bool.or_true]

theorem Statement.KeepsRecords.run? (h : s.KeepsRecords) (hran : s.run? c = some c') :
    c.RecordsKept c' := by
  rcases h with rfl | hother
  · rcases (Statement.run?_createIfAbsent_iff.mp hran).2 with ⟨-, rfl⟩ | ⟨hmissing, hran⟩
    · exact .refl c'
    · have hnone := Catalog.table?_eq_none_iff.mpr hmissing
      refine ⟨Catalog.records_of_create? hran, .inr ⟨hnone, ?_⟩⟩
      rw [Catalog.table?_of_create? hran, hnone, if_pos (sameName_self _)]
      rfl
  · have hcreate : ∀ t : Table, sameName t.name recordTable.name = false →
        c.create? t = some c' → c.RecordsKept c' := by
      intro t ht hcreate
      refine ⟨Catalog.records_of_create? hcreate, .inl ?_⟩
      rw [Catalog.table?_of_create? hcreate, if_neg (Bool.eq_false_iff.mp ht), Option.or_none]
    cases s with
    | create t => exact hcreate t hother hran
    | createIfAbsent t =>
        rcases (Statement.run?_createIfAbsent_iff.mp hran).2 with ⟨-, rfl⟩ | ⟨-, hran⟩
        · exact .refl c'
        · exact hcreate t hother hran
    | createIndex table column =>
        have hindex : (if c.hasColumn table column then some c else none) = some c' := hran
        split at hindex
        · cases hindex
          exact .refl c
        · cases hindex
    | createSequence sequence =>
        obtain rfl := Option.some.inj hran
        exact .withSequence c sequence
    | drop table =>
        exact ⟨Catalog.records_of_drop? hran hother, .inl (Catalog.table?_of_drop? hran hother)⟩
    | malformed => cases hran

/-- Texts of such statements leave what is on record alone. -/
theorem Migration.Completes.recordsKept (h : Completes c ss c')
    (hss : ∀ s ∈ ss, s.KeepsRecords) : c.RecordsKept c' := by
  induction h with
  | nil => exact .refl _
  | cons first _ ih =>
      obtain ⟨hs, hrest⟩ := List.forall_mem_cons.mp hss
      exact (hs.run? first).trans (ih hrest)

/-- Where one of them creates the table of records, it is there. -/
theorem Migration.Completes.hasRecordTable (h : Completes c ss c')
    (hss : ∀ s ∈ ss, s.KeepsRecords) (hcreates : .createIfAbsent recordTable ∈ ss) :
    c'.hasTable recordTable.name = true := by
  induction h with
  | nil => cases hcreates
  | @cons c c₁ c₂ s ss first rest ih =>
      obtain ⟨hs, hrest⟩ := List.forall_mem_cons.mp hss
      rcases List.mem_cons.mp hcreates with rfl | hlater
      · exact (rest.recordsKept hrest).hasTable (Statement.hasTable_of_createIfAbsent first)
      · exact ih hrest hlater

end DoubleEntry
