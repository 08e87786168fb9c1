/-
DoubleEntry/Proofs/Settings/Saving.lean

Saving a configuration.  No setting is lost: the JSON value of the settings
file afterwards is the value before with the keys of the configuration set
(`Config.SetIn`), and a file that is refused stays as it is.  What has been
saved is what is loaded, and saving it again changes nothing.
`save_keeps_settings` says so of every file.

A number that is no integer of 64 bits is written as a double and read again.
The arithmetic of doubles is not open to proofs, so that their text is assumed
to stand for some number; what is kept is said of the integers only.
-/
import DoubleEntry.Proofs.Settings.File
import DoubleEntry.Settings.Config

namespace DoubleEntry

open DoubleEntry.Json

/-! ### Files -/

/-- The JSON value of a settings file.  An absent file stands for an object
without fields. -/
def StoredFile.value? : StoredFile → Option Json
  | .absent => some (.object [])
  | .text content => Json.parse? content
  | .directory | .binary => none

namespace Config

/-- What stands at the path of the settings file after an attempt to save. -/
def fileAfter (c : Config) (dir : String) (file : StoredFile) : StoredFile :=
  match c.save dir file with
  | .ok saved => saved
  | .error _ => file

variable {c : Config} {dir : String} {file : StoredFile} {s : SettingsFile}

theorem fileAfter_of_error {e : Error} (h : readSettings dir file = .error e) :
    c.save dir file = .error e ∧ c.fileAfter dir file = file := by
  have hsave : c.save dir file = .error e := by
    rw [save, h]
    rfl
  exact ⟨hsave, by rw [fileAfter, hsave]⟩

theorem fileAfter_of_ok (h : readSettings dir file = .ok s) :
    c.save dir file = .ok (.text (c.apply s).render) ∧
      c.fileAfter dir file = .text (c.apply s).render := by
  have hsave : c.save dir file = .ok (.text (c.apply s).render) := by
    rw [save, h]
    rfl
  exact ⟨hsave, by rw [fileAfter, hsave]⟩

/-- Settings are read from an absent file, or from JSON. -/
theorem readSettings_ok (h : readSettings dir file = .ok s) :
    (file = .absent ∧ s = {}) ∨ ∃ content w, file = .text content ∧
      Written.read? content = some w ∧ SettingsFile.ofWritten? w = some s := by
  cases file with
  | absent => exact .inl ⟨rfl, (Except.ok.inj h).symm⟩
  | directory => cases h
  | binary => cases h
  | text content =>
      rcases hparse : SettingsFile.parse? content with - | s'
      · rw [readSettings, hparse] at h
        cases h
      · rw [readSettings, hparse] at h
        obtain rfl := Except.ok.inj h
        obtain ⟨w, hw, hs⟩ := Option.bind_eq_some_iff.mp hparse
        exact .inr ⟨content, w, rfl, hw, hs⟩

theorem value?_text {content : String} {w : Written} (hw : Written.read? content = some w) :
    (StoredFile.text content).value? = w.toJson? maxDepth := by
  show (Written.read? content).bind _ = _
  rw [hw]
  rfl

/-- Settings that are read have a JSON value. -/
theorem holds_of_readSettings (h : readSettings dir file = .ok s) :
    s.Sound ∧ ∃ fields, file.value? = some (.object fields) ∧ s.Holds fields := by
  rcases readSettings_ok h with ⟨rfl, rfl⟩ | ⟨content, w, rfl, hw, hs⟩
  · exact ⟨⟨.default, List.nodup_nil, List.not_mem_nil, trivial⟩, [], rfl,
      ⟨[], rfl, fun _ _ => rfl⟩, fun _ _ => rfl⟩
  · obtain ⟨hsound, fields, hfields, hholds, -⟩ := SettingsFile.holds_of_ofWritten? hs
    exact ⟨hsound, fields, (value?_text hw).trans hfields, hholds⟩

end Config

/-! ### Numbers that are kept -/

/-- The numbers of the values that settings keep are numbers of the file. -/
theorem SettingsFile.Holds.everyNumber {s : SettingsFile} {fields : List (String × Json)}
    {p : Number → Prop} (h : s.Holds fields) (hs : s.Sound)
    (hnumbers : EveryNumberOfFields p fields) : s.EveryNumber p := by
  have hfields := everyNumberOfFields_iff.mp hnumbers
  obtain ⟨ledger, hledger, hkept⟩ := h.ledger
  have hnumbersOfLedger : EveryNumberOfFields p ledger := by
    rw [ledgerFields?] at hledger
    split at hledger
    case h_1 =>
      obtain rfl := Option.some.inj hledger
      exact trivial
    case h_2 hobject =>
      obtain rfl := Option.some.inj hledger
      exact hfields _ (mem_of_lookup hobject)
    case h_3 => cases hledger
  constructor
  case ledger =>
    refine everyNumberOfFields_iff.mpr fun m hm => ?_
    have hunmanaged : m.1 ∉ LedgerSettings.managedKeys := fun hmem =>
      hs.ledger.unmanaged m.1 hmem (List.mem_map_of_mem hm)
    have hvalue : field? ledger m.1 = some m.2 :=
      (hkept m.1 hunmanaged).trans (lookup_of_mem hs.ledger.keys hm)
    exact everyNumberOfFields_iff.mp hnumbersOfLedger _ (mem_of_lookup hvalue)
  case other =>
    refine everyNumberOfFields_iff.mpr fun m hm => ?_
    have hunmanaged : m.1 ≠ "ledger" := fun heq => hs.unmanaged (heq ▸ List.mem_map_of_mem hm)
    have hvalue : field? fields m.1 = some m.2 :=
      (h.other m.1 hunmanaged).trans (lookup_of_mem hs.keys hm)
    exact hfields _ (mem_of_lookup hvalue)

/-! ### Values that are kept -/

/-- A value that is kept: it is there if it was, and where its numbers are
integers of 64 bits it is the same. -/
structure Kept (before after : Option Json) : Prop where
  present : after.isSome = before.isSome
  same : ∀ j, before = some j → j.EveryNumber Number.IsInteger → after = some j

theorem Kept.reread (before : Option Json) : Kept before (before.map Json.reread) where
  present := Option.isSome_map
  same := by
    rintro j rfl hj
    rw [Option.map_some, reread_eq_self j hj]

namespace Config

/-- The settings of the ledger, with those of a configuration set and all
others kept. -/
structure SetInLedger (c : Config) (before after : List (String × Json)) : Prop where
  dbFile : field? after "dbFile" = some (.string c.dbFile)
  minutes : field? after "verifyEmailTtlMinutes" = some (.ofInt64 c.verifyEmailTtlMinutes)
  pageSize : field? after "defaultPageSize" = some (.ofInt64 c.defaultPageSize)
  other : ∀ key, key ∉ LedgerSettings.managedKeys → Kept (field? before key) (field? after key)

/-- The fields of a settings file, with those of a configuration set and all
others kept. -/
structure SetIn (c : Config) (before after : List (String × Json)) : Prop where
  ledger : ∃ old new, ledgerFields? before = some old ∧
    field? after "ledger" = some (.object new) ∧ c.SetInLedger old new
  other : ∀ key, key ≠ "ledger" → Kept (field? before key) (field? after key)

variable {c : Config} {dir : String} {file : StoredFile} {s : SettingsFile}

/-- The JSON value of the settings of the ledger with those of a configuration
set. -/
theorem setInLedger_apply {old : List (String × Json)}
    (hkept : ∀ key, key ∉ LedgerSettings.managedKeys → field? old key = field? s.ledger.other key) :
    ∃ new, (c.apply s).ledger.toJson.reread = .object new ∧ c.SetInLedger old new := by
  let managed : List (String × Json) :=
    [("dbFile", .string c.dbFile), ("verifyEmailTtlMinutes", .ofInt64 c.verifyEmailTtlMinutes),
      ("defaultPageSize", .ofInt64 c.defaultPageSize)]
  have hmanaged : rereadFields managed = managed :=
    rereadFields_eq_self managed
      ⟨trivial, isInteger_ofInt64 _, isInteger_ofInt64 _, trivial⟩
  have hfields : ∀ key, field? (rereadFields (managed ++ s.ledger.other)) key =
      (field? managed key).or ((field? s.ledger.other key).map Json.reread) := by
    intro key
    have happend : field? (managed ++ s.ledger.other) key =
        (field? managed key).or (field? s.ledger.other key) := List.lookup_append
    rw [field?_rereadFields, happend, Option.map_or, ← field?_rereadFields managed, hmanaged]
  refine ⟨rereadFields (managed ++ s.ledger.other), rfl, ?_, ?_, ?_, fun key hkey => ?_⟩
  · rw [hfields]
    rfl
  · rw [hfields]
    rfl
  · rw [hfields]
    rfl
  · have hnone : field? managed key = none :=
      lookup_eq_none_iff_notMem.mpr hkey
    rw [hfields, hnone, Option.none_or, ← hkept key hkey]
    exact Kept.reread _

/-- **The JSON value of what is saved** is the value before with the settings of
the configuration set. -/
theorem setIn_apply {before : List (String × Json)} (h : s.Holds before) :
    ∃ after, (c.apply s).toJson.reread = .object after ∧ c.SetIn before after := by
  obtain ⟨old, hold, hkept⟩ := h.ledger
  obtain ⟨new, hnew, hset⟩ := setInLedger_apply (c := c) hkept
  refine ⟨("ledger", .object new) :: rereadFields s.other, ?_, ⟨old, new, hold, ?_, hset⟩, ?_⟩
  · rw [← hnew]
    rfl
  · exact List.lookup_cons_self
  · intro key hkey
    have hlater : field? (("ledger", .object new) :: rereadFields s.other) key =
        field? (rereadFields s.other) key := lookup_cons_of_ne hkey
    rw [hlater, field?_rereadFields, h.other key hkey]
    exact Kept.reread _

theorem sound_apply (h : s.Sound) : (c.apply s).Sound :=
  ⟨⟨h.ledger.keys, h.ledger.unmanaged, h.ledger.fits⟩, h.keys, h.unmanaged, h.fits⟩

theorem everyNumber_apply {p : Number → Prop} (h : s.EveryNumber p) : (c.apply s).EveryNumber p :=
  ⟨h.ledger, h.other⟩

/-! ### Saving, loading and saving again -/

/-- A file that a configuration was saved to, with fields as they were before:
the settings of the configuration are set in them, loading it gives the
configuration if it can be used, and without doubles saving again leaves the
same value. -/
structure Saved (c : Config) (dir : String) (before : List (String × Json)) (file : StoredFile) :
    Prop where
  value : ∃ after, file.value? = some (.object after) ∧ c.SetIn before after
  accepted : c.validate = .ok () → load dir file (fun _ => none) = .ok c
  rejected : ∀ e, c.validate = .error e →
    load dir file (fun _ => none) = .error e ∧ ∃ problem, e = .config problem
  again : EveryNumberOfFields Number.IsInteger before →
    c.save dir file = .ok (c.fileAfter dir file) ∧ (c.fileAfter dir file).value? = file.value?

theorem exists_problem_of_validate {e : Error} (h : c.validate = .error e) :
    ∃ problem, e = .config problem := by
  simp only [validate] at h
  split at h
  · exact ⟨_, (Except.error.inj h).symm⟩
  · split at h
    · exact ⟨_, (Except.error.inj h).symm⟩
    · split at h
      · exact ⟨_, (Except.error.inj h).symm⟩
      · cases h

/-- What was saved is read again. -/
theorem readSettings_render (hs : s.Sound) (hnumbers : s.EveryNumber Number.IsLegible) :
    readSettings dir (.text (c.apply s).render) = .ok (c.apply s.reread) := by
  rw [readSettings, SettingsFile.parse?_render (sound_apply hs) (everyNumber_apply hnumbers)]
  rfl

/-- What was saved is loaded, if it can be used. -/
theorem load_render (hs : s.Sound) (hnumbers : s.EveryNumber Number.IsLegible) :
    load dir (.text (c.apply s).render) (fun _ => none) = c.validate.map fun _ => c := by
  rw [load, readSettings_render hs hnumbers]
  show (c.validate >>= fun _ => pure c) = _
  cases c.validate <;> rfl

theorem saved_of_readSettings {before : List (String × Json)}
    (hread : readSettings dir file = .ok s) (hs : s.Sound) (hholds : s.Holds before)
    (hlegible : EveryNumberOfFields Number.IsLegible before) :
    c.Saved dir before (c.fileAfter dir file) := by
  have hnumbers := hholds.everyNumber hs hlegible
  rw [(fileAfter_of_ok hread).2]
  obtain ⟨after, hafter, hset⟩ := setIn_apply (c := c) hholds
  have hvalue : (StoredFile.text (c.apply s).render).value? = some (.object after) := by
    rw [← hafter]
    exact SettingsFile.value_render (sound_apply hs) (everyNumber_apply hnumbers)
  constructor
  case value => exact ⟨after, hvalue, hset⟩
  case accepted =>
    intro hvalid
    rw [load_render hs hnumbers, hvalid]
    rfl
  case rejected =>
    intro e he
    refine ⟨?_, exists_problem_of_validate he⟩
    rw [load_render hs hnumbers, he]
    rfl
  case again =>
    intro hintegers
    have hreread : s.reread = s := SettingsFile.reread_eq_self (hholds.everyNumber hs hintegers)
    have hagain : readSettings dir (.text (c.apply s).render) = .ok (c.apply s) := by
      rw [readSettings_render hs hnumbers, hreread]
    obtain ⟨hsave, hfile⟩ := fileAfter_of_ok (c := c) hagain
    rw [hfile]
    exact ⟨hsave, rfl⟩

/-- **No setting is lost when a configuration is saved.**  A file that is
refused stays as it is.  In any other the settings of the configuration are
set and all others are kept, at the top and among those of the ledger; what
was saved is loaded, and saving it again changes nothing.

The doubles of the file, if it has any, are taken to be written as text that
stands for a number.  Integers of 64 bits are (`Number.IsInteger.isLegible`). -/
theorem save_keeps_settings (c : Config) (dir : String) (file : StoredFile) :
    (∀ e, readSettings dir file = .error e →
      c.save dir file = .error e ∧ c.fileAfter dir file = file) ∧
    (∀ s, readSettings dir file = .ok s →
      c.save dir file = .ok (c.fileAfter dir file) ∧
      ∃ before, file.value? = some (.object before) ∧
        (EveryNumberOfFields Number.IsLegible before →
          c.Saved dir before (c.fileAfter dir file))) := by
  refine ⟨fun e he => fileAfter_of_error he, fun s hread => ?_⟩
  obtain ⟨hsave, hfile⟩ := fileAfter_of_ok (c := c) hread
  obtain ⟨hs, before, hbefore, hholds⟩ := holds_of_readSettings hread
  refine ⟨by rw [hsave, hfile], before, hbefore, fun hlegible => ?_⟩
  exact saved_of_readSettings hread hs hholds hlegible

/-- A page size is saved beside a theme and a note, and not to a file that is
no object. -/
theorem save_keeps_settings_of_theme :
    let c : Config := { defaultPageSize := 50 }
    let refused : StoredFile := .text "[]"
    let file : StoredFile := .text
      ("\x7b\"theme\": \"dark\", \"ledger\": \x7b" ++
        "\"note\": [18446744073709551615], \"dbFile\": null\x7d\x7d")
    (∃ e, readSettings "books" refused = .error e ∧ c.fileAfter "books" refused = refused) ∧
      ∃ s before, readSettings "books" file = .ok s ∧ file.value? = some (.object before) ∧
        EveryNumberOfFields Number.IsLegible before ∧
          c.Saved "books" before (c.fileAfter "books" file) := by
  intro c refused file
  have hrefused : SettingsFile.parse? "[]" = none := by
    have hnone : (SettingsFile.parse? "[]").isNone = true := by decide +kernel
    exact Option.isNone_iff_eq_none.mp hnone
  have herror : readSettings "books" refused =
      .error (.config (.invalidFile (settingsPath "books"))) := by
    rw [readSettings, hrefused]
  have haccepted : (readSettings "books" file).isOk = true := by decide +kernel
  have hintegers : (file.value?.all fun j => j.EveryNumber Number.IsInteger) = true := by
    decide +kernel
  have hkeeps := save_keeps_settings c "books"
  refine ⟨⟨_, herror, ((hkeeps refused).1 _ herror).2⟩, ?_⟩
  rcases hread : readSettings "books" file with e | s
  · rw [hread] at haccepted
    cases haccepted
  · obtain ⟨-, before, hbefore, hsaved⟩ := (hkeeps file).2 s hread
    have hobject : (Json.object before).EveryNumber Number.IsInteger := by
      rw [hbefore] at hintegers
      exact of_decide_eq_true hintegers
    have hlegible : EveryNumberOfFields Number.IsLegible before :=
      EveryNumberOfFields.imp Number.IsInteger.isLegible before hobject
    exact ⟨s, before, rfl, hbefore, hlegible, hsaved hlegible⟩

end Config

end DoubleEntry
