/-
DoubleEntry/Proofs/Settings/Resolution.lean

Where a configuration comes from.  Each of its settings is the one of the
environment, which has none for the page size, or else the one that the
settings file gives, unless that is null, or else the default
(`Config.ResolvedFrom`).  Only what comes out of this is checked, so that what
is overridden may be anything.  `Config.load_outcome` says of every file and
every environment what is loaded or why nothing is, and that the files stay
as they are.
-/
import DoubleEntry.Proofs.CommandLine.Outcome
import DoubleEntry.Proofs.Outcome
import DoubleEntry.Proofs.Settings.Saving
import DoubleEntry.Proofs.Text.Integer
import DoubleEntry.Proofs.Text.Trimmed

namespace DoubleEntry

open DoubleEntry.Json DoubleEntry.Text

/-- The value that a settings file gives a key of the ledger, if that is there
and not null. -/
def StoredFile.ledgerValue? (file : StoredFile) (key : String) : Option Json :=
  match file.value? with
  | some (.object fields) =>
      (ledgerFields? fields).bind fun ledger => (field? ledger key).bind Json.nonNull?
  | _ => none

namespace Config

variable {dir : String} {file file' : StoredFile} {env : Environment} {s s' : SettingsFile}
variable {c : Config}

/-- The settings that are read are the values of the file. -/
theorem ledgerValue?_of_readSettings (h : readSettings dir file = .ok s) :
    file.ledgerValue? "dbFile" = s.ledger.dbFile.map Json.string ∧
      file.ledgerValue? "verifyEmailTtlMinutes" =
        s.ledger.verifyEmailTtlMinutes.map Json.ofInt64 ∧
      file.ledgerValue? "defaultPageSize" = s.ledger.defaultPageSize.map Json.ofInt64 := by
  rcases readSettings_ok h with ⟨rfl, rfl⟩ | ⟨content, w, rfl, hw, hs⟩
  · exact ⟨rfl, rfl, rfl⟩
  · obtain ⟨-, fields, hfields, ⟨⟨ledger, hledger, -⟩, -⟩, hmanaged⟩ :=
      SettingsFile.holds_of_ofWritten? hs
    have hvalue : ∀ key, (StoredFile.text content).ledgerValue? key =
        (field? ledger key).bind Json.nonNull? := by
      intro key
      simp only [StoredFile.ledgerValue?, value?_text hw, hfields, hledger, Option.bind_some]
    obtain ⟨hname, hminutes, hsize⟩ := hmanaged ledger hledger
    exact ⟨(hvalue _).trans hname, (hvalue _).trans hminutes, (hvalue _).trans hsize⟩

/-! ### Settings that can be used -/

/-- Every setting can be used. -/
structure IsValid (c : Config) : Prop where
  dbFile : ∃ ch ∈ c.dbFile.toList, isBlank ch = false
  minutes : 0 < c.verifyEmailTtlMinutes.toInt
  pageSize : 1 ≤ c.defaultPageSize.toInt

/-- The first of the settings that cannot be used. -/
inductive FirstProblem (c : Config) : ConfigProblem → Prop
  | dbFile (blank : ∀ ch ∈ c.dbFile.toList, isBlank ch = true) : FirstProblem c .emptyDbFile
  | minutes (named : ∃ ch ∈ c.dbFile.toList, isBlank ch = false)
      (notPositive : c.verifyEmailTtlMinutes.toInt ≤ 0) :
      FirstProblem c (.lifetimeNotPositive c.verifyEmailTtlMinutes)
  | pageSize (named : ∃ ch ∈ c.dbFile.toList, isBlank ch = false)
      (positive : 0 < c.verifyEmailTtlMinutes.toInt) (tooSmall : c.defaultPageSize.toInt < 1) :
      FirstProblem c (.pageSizeTooSmall c.defaultPageSize)

theorem isValid_or_firstProblem (c : Config) : c.IsValid ∨ ∃ p, c.FirstProblem p := by
  cases hblank : allBlank c.dbFile with
  | true => exact .inr ⟨_, .dbFile (allBlank_iff.mp hblank)⟩
  | false =>
      have hnamed := allBlank_eq_false_iff.mp hblank
      by_cases hpos : 0 < c.verifyEmailTtlMinutes.toInt
      · by_cases hsize : 1 ≤ c.defaultPageSize.toInt
        · exact .inl ⟨hnamed, hpos, hsize⟩
        · exact .inr ⟨_, .pageSize hnamed hpos (by omega)⟩
      · exact .inr ⟨_, .minutes hnamed (by omega)⟩

theorem validate_of_isValid (h : c.IsValid) : c.validate = .ok () := by
  have hpos := h.minutes
  have hsize := h.pageSize
  rw [validate, allBlank_eq_false_iff.mpr h.dbFile, if_neg (by simp), if_neg (by omega),
    if_neg (by omega)]

theorem validate_of_firstProblem {p : ConfigProblem} (h : c.FirstProblem p) :
    c.validate = .error (.config p) := by
  cases h with
  | dbFile hblank => rw [validate, if_pos (allBlank_iff.mpr hblank)]
  | minutes hnamed hpos =>
      rw [validate, allBlank_eq_false_iff.mpr hnamed, if_neg (by simp), if_pos hpos]
  | pageSize hnamed hpos hsize =>
      rw [validate, allBlank_eq_false_iff.mpr hnamed, if_neg (by simp), if_neg (by omega),
        if_pos hsize]

/-! ### The three sources -/

/-- A setting is read from the environment, which may give a text for it, or
else it is the value of the file, or else the default. -/
inductive Resolves {α : Type} (reads : String → α → Prop) (value : α → Json) (default : α) :
    Option String → Option Json → α → Prop
  | environment {text : String} {stored : Option Json} {a : α} (read : reads text a) :
      Resolves reads value default (some text) stored a
  | file {a : α} : Resolves reads value default none (some (value a)) a
  | default : Resolves reads value default none none default

/-- The text stands for a number of minutes, blanks around it apart. -/
def IsMinutes (text : String) (minutes : Int64) : Prop :=
  Spells (trimChars text.toList) minutes.toInt

/-- Where the settings of a configuration come from.  The environment gives
none for the page size, and the lifetime in decimal. -/
structure ResolvedFrom (c : Config) (file : StoredFile) (env : Environment) : Prop where
  dbFile : Resolves (fun text name => name = text) Json.string ({} : Config).dbFile
    (env "TALLY_DB_FILE") (file.ledgerValue? "dbFile") c.dbFile
  minutes : Resolves IsMinutes Json.ofInt64 ({} : Config).verifyEmailTtlMinutes
    (env "TALLY_VERIFY_EMAIL_TTL_MINUTES") (file.ledgerValue? "verifyEmailTtlMinutes")
    c.verifyEmailTtlMinutes
  pageSize : Resolves (fun _ _ => False) Json.ofInt64 ({} : Config).defaultPageSize
    none (file.ledgerValue? "defaultPageSize") c.defaultPageSize

section Resolves

variable {α : Type} {reads : String → α → Prop} {value : α → Json} {default a : α}

/-- There is a value, unless the environment gives a text that stands for none. -/
theorem exists_resolves {given : Option String} (v : Option α)
    (hread : ∀ text, given = some text → ∃ a, reads text a) :
    ∃ a, Resolves reads value default given (v.map value) a := by
  cases given with
  | some text =>
      obtain ⟨a, ha⟩ := hread text rfl
      exact ⟨a, .environment ha⟩
  | none =>
      cases v with
      | some a => exact ⟨a, .file⟩
      | none => exact ⟨default, .default⟩

theorem Resolves.eq_getD {v : Option α} (hvalue : Function.Injective value)
    (h : Resolves reads value default none (v.map value) a) : a = v.getD default := by
  generalize hstored : v.map value = stored at h
  cases h with
  | file =>
      obtain ⟨b, rfl, hb⟩ := Option.map_eq_some_iff.mp hstored
      exact (hvalue hb).symm
  | default =>
      obtain rfl := Option.map_eq_none_iff.mp hstored
      rfl

end Resolves

theorem string_injective : Function.Injective Json.string :=
  fun _ _ h => Json.string.inj h

theorem ofInt64_injective : Function.Injective Json.ofInt64 := by
  intro m n h
  simp only [Json.ofInt64, Json.int, Json.number.injEq, Number.int.injEq] at h
  exact Int64.toInt_inj.mp h

/-- The lifetime that is read is the one of the environment or of the file. -/
theorem lifetimeOf_of_resolves {ledger : LedgerSettings} {minutes : Int64}
    (h : Resolves IsMinutes Json.ofInt64 ({} : Config).verifyEmailTtlMinutes
      (env "TALLY_VERIFY_EMAIL_TTL_MINUTES")
      (ledger.verifyEmailTtlMinutes.map Json.ofInt64) minutes) :
    lifetimeOf env ledger = .ok minutes := by
  unfold lifetimeOf
  generalize env "TALLY_VERIFY_EMAIL_TTL_MINUTES" = given at h
  cases given with
  | some text =>
      cases h with
      | environment hspells =>
          dsimp only
          rw [readInt64?_eq_some_iff.mpr hspells]
  | none => rw [h.eq_getD ofInt64_injective]

/-- What is loaded is what comes from the sources, if it can be used. -/
theorem load_of_resolvedFrom (hread : readSettings dir file = .ok s)
    (h : c.ResolvedFrom file env) : load dir file env = c.validate.map fun _ => c := by
  obtain ⟨hstoredName, hstoredMinutes, hstoredSize⟩ := ledgerValue?_of_readSettings hread
  obtain ⟨hname, hminutes, hsize⟩ := h
  rw [hstoredName] at hname
  rw [hstoredMinutes] at hminutes
  rw [hstoredSize] at hsize
  have hdbFile : ((env "TALLY_DB_FILE").or s.ledger.dbFile).getD ({} : Config).dbFile =
      c.dbFile := by
    generalize env "TALLY_DB_FILE" = given at hname
    cases given with
    | some text =>
        cases hname with
        | environment heq => exact heq.symm
    | none => exact (hname.eq_getD string_injective).symm
  have hpageSize := (hsize.eq_getD ofInt64_injective).symm
  simp only [load, hread, hdbFile, hpageSize, bind, Except.bind, lifetimeOf_of_resolves hminutes]
  cases c.validate <;> rfl

/-- A text that stands for no number of minutes. -/
def Illegible (text : String) : Prop :=
  ∀ minutes, ¬ IsMinutes text minutes

theorem load_of_illegible {text : String} (hread : readSettings dir file = .ok s)
    (hgiven : env "TALLY_VERIFY_EMAIL_TTL_MINUTES" = some text) (htext : Illegible text) :
    load dir file env = .error (.config (.lifetimeNotANumber text)) := by
  have hnone : readInt64? (trimChars text.toList) = none := by
    rw [Option.eq_none_iff_forall_ne_some]
    exact fun minutes hminutes => htext minutes (readInt64?_eq_some_iff.mp hminutes)
  simp only [load, hread, bind, Except.bind, lifetimeOf, hgiven, hnone]

/-- The sources give a configuration, or an illegible lifetime. -/
theorem exists_resolvedFrom (env : Environment) (hread : readSettings dir file = .ok s) :
    (∃ c : Config, c.ResolvedFrom file env) ∨
      ∃ text, env "TALLY_VERIFY_EMAIL_TTL_MINUTES" = some text ∧ Illegible text := by
  by_cases hillegible : ∃ text,
      env "TALLY_VERIFY_EMAIL_TTL_MINUTES" = some text ∧ Illegible text
  · exact .inr hillegible
  have hlegible : ∀ text, env "TALLY_VERIFY_EMAIL_TTL_MINUTES" = some text →
      ∃ minutes, IsMinutes text minutes := by
    intro text hgiven
    by_contra hnone
    exact hillegible ⟨text, hgiven, not_exists.mp hnone⟩
  obtain ⟨hstoredName, hstoredMinutes, hstoredSize⟩ := ledgerValue?_of_readSettings hread
  -- the lifetime is legible, so that each setting comes from one of its sources
  obtain ⟨name, hname⟩ : ∃ name, Resolves (fun text name => name = text) Json.string
      ({} : Config).dbFile (env "TALLY_DB_FILE") (s.ledger.dbFile.map Json.string) name :=
    exists_resolves _ fun text _ => ⟨text, rfl⟩
  obtain ⟨minutes, hminutes⟩ := exists_resolves s.ledger.verifyEmailTtlMinutes hlegible
  obtain ⟨size, hsize⟩ : ∃ size, Resolves (fun _ _ => False) Json.ofInt64
      ({} : Config).defaultPageSize none (s.ledger.defaultPageSize.map Json.ofInt64) size :=
    exists_resolves _ nofun
  rw [← hstoredName] at hname
  rw [← hstoredMinutes] at hminutes
  rw [← hstoredSize] at hsize
  exact .inl ⟨⟨name, minutes, size⟩, hname, hminutes, hsize⟩

/-! ### What is loaded -/

/-- Why no configuration is loaded: the file cannot be read, or the lifetime
that the environment gives is no number, or one of the settings cannot be
used. -/
inductive LoadFails (dir : String) (file : StoredFile) (env : Environment) : Error → Prop
  | unread {e : Error} (unread : readSettings dir file = .error e) : LoadFails dir file env e
  | illegible {s : SettingsFile} {text : String} (read : readSettings dir file = .ok s)
      (given : env "TALLY_VERIFY_EMAIL_TTL_MINUTES" = some text) (illegible : Illegible text) :
      LoadFails dir file env (.config (.lifetimeNotANumber text))
  | invalid {s : SettingsFile} {c : Config} {p : ConfigProblem}
      (read : readSettings dir file = .ok s) (resolved : c.ResolvedFrom file env)
      (problem : c.FirstProblem p) : LoadFails dir file env (.config p)

theorem load_of_unread {e : Error} (h : readSettings dir file = .error e) :
    load dir file env = .error e := by
  rw [load, h]
  rfl

theorem load_of_loadFails {e : Error} (h : LoadFails dir file env e) :
    load dir file env = .error e := by
  cases h with
  | unread hunread => exact load_of_unread hunread
  | illegible hread hgiven htext => exact load_of_illegible hread hgiven htext
  | invalid hread hresolved hproblem =>
      rw [load_of_resolvedFrom hread hresolved, validate_of_firstProblem hproblem]
      rfl

/-- The file can be read, and the configuration comes from the sources and can
be used. -/
structure Loads (dir : String) (file : StoredFile) (env : Environment) (c : Config) : Prop where
  read : ∃ s, readSettings dir file = .ok s
  resolved : c.ResolvedFrom file env
  valid : c.IsValid

theorem load_of_loads (h : c.Loads dir file env) : load dir file env = .ok c := by
  obtain ⟨⟨s, hread⟩, hresolved, hvalid⟩ := h
  rw [load_of_resolvedFrom hread hresolved, validate_of_isValid hvalid]
  rfl

/-- Nothing lies between the two. -/
theorem load_endsAs (dir : String) (file : StoredFile) (env : Environment) :
    EndsAs (load dir file env) (Loads dir file env) (LoadFails dir file env) where
  accepted _ := load_of_loads
  refused _ := load_of_loadFails
  total := by
    -- in the order in which it is checked: the file, the lifetime, the settings that come out
    rcases hread : readSettings dir file with e | s
    · exact .inr ⟨e, .unread hread⟩
    rcases exists_resolvedFrom env hread with ⟨c, hresolved⟩ | ⟨text, hgiven, htext⟩
    · rcases isValid_or_firstProblem c with hvalid | ⟨p, hproblem⟩
      · exact .inl ⟨c, ⟨s, hread⟩, hresolved, hvalid⟩
      · exact .inr ⟨_, .invalid hread hresolved hproblem⟩
    · exact .inr ⟨_, .illegible hread hgiven htext⟩

/-- A file that is no text is the only reason that is no problem with the
settings. -/
theorem LoadFails.problem_or_unread {e : Error} (h : LoadFails dir file env e) :
    (∃ p, e = .config p) ∨ ((file = .directory ∨ file = .binary) ∧
      readSettings dir file = .error e) := by
  cases h with
  | illegible _ _ _ => exact .inl ⟨_, rfl⟩
  | invalid _ _ _ => exact .inl ⟨_, rfl⟩
  | unread hunread =>
      cases file with
      | absent => cases hunread
      | directory => exact .inr ⟨.inl rfl, hunread⟩
      | binary => exact .inr ⟨.inr rfl, hunread⟩
      | text content =>
          rw [readSettings] at hunread
          split at hunread
          · cases hunread
          · exact .inl ⟨_, (Except.error.inj hunread).symm⟩

/-! ### What is overridden -/

/-- The files give the ledger the same settings, but for those that the
environment overrides. -/
structure AlikeBut (env : Environment) (file file' : StoredFile) : Prop where
  dbFile : env "TALLY_DB_FILE" = none →
    file'.ledgerValue? "dbFile" = file.ledgerValue? "dbFile"
  minutes : env "TALLY_VERIFY_EMAIL_TTL_MINUTES" = none →
    file'.ledgerValue? "verifyEmailTtlMinutes" = file.ledgerValue? "verifyEmailTtlMinutes"
  pageSize : file'.ledgerValue? "defaultPageSize" = file.ledgerValue? "defaultPageSize"

theorem Resolves.congr {α : Type} {reads : String → α → Prop} {value : α → Json} {default a : α}
    {given : Option String} {stored stored' : Option Json}
    (h : Resolves reads value default given stored a) (hsame : given = none → stored' = stored) :
    Resolves reads value default given stored' a := by
  cases h with
  | environment hread => exact .environment hread
  | file =>
      rw [hsame rfl]
      exact .file
  | default =>
      rw [hsame rfl]
      exact .default

/-- What is overridden does not matter. -/
theorem ResolvedFrom.congr (h : c.ResolvedFrom file env) (halike : AlikeBut env file file') :
    c.ResolvedFrom file' env where
  dbFile := h.dbFile.congr halike.dbFile
  minutes := h.minutes.congr halike.minutes
  pageSize := h.pageSize.congr fun _ => halike.pageSize

/-- From files that differ in overridden settings only the same is loaded. -/
theorem load_congr (hread : readSettings dir file = .ok s)
    (hread' : readSettings dir file' = .ok s') (halike : AlikeBut env file file') :
    load dir file' env = load dir file env := by
  rcases exists_resolvedFrom env hread with ⟨c, hresolved⟩ | ⟨text, hgiven, htext⟩
  · rw [load_of_resolvedFrom hread hresolved,
      load_of_resolvedFrom hread' (hresolved.congr halike)]
  · rw [load_of_illegible hread hgiven htext, load_of_illegible hread' hgiven htext]

end Config

/-! ### The files -/

namespace CommandLine

open DoubleEntry.CommandLine.Action

theorem settingsFile_eq_text_iff {fs : Files} {l : Location} {content : String} :
    fs.settingsFile l = .text content ↔ fs.file? l = some (.text content) := by
  unfold Files.settingsFile Files.file?
  rcases fs.node? l with - | n
  · simp
  · cases n <;> simp

/-- A run writes ledgers and event logs only, and neither over text. -/
theorem settingsFile_run {h : Host} {args : List String} {fs : Files} {l : Location}
    {content : String} (htext : fs.settingsFile l = .text content) :
    (run h args fs).files.settingsFile l = .text content := by
  -- what is at the place stays text, so that nothing that is written goes there
  let Φ : Location → Option FileNode → Prop := fun l' n => l' = l → n = some (.text content)
  have hopening : KeptByOpening Φ :=
    { newLog := fun _ _ _ hthere heq => nomatch hthere heq
      oldLog := fun _ _ _ _ hthere heq => nomatch hthere heq
      newLedger := fun _ hthere heq => nomatch hthere heq
      oldLedger := fun _ _ hthere heq => nomatch hthere heq }
  have hfs : fs.Every Φ := by
    rintro _ rfl
    exact settingsFile_eq_text_iff.mp htext
  have hrun : (run h args fs).files.Every Φ := by
    apply run_every hfs
    case hended =>
      intro i
      exact ended_every hopening (fun _ _ _ hthere heq => nomatch hthere heq)
        (fun _ _ _ _ _ hthere heq => nomatch hthere heq) hfs
    case hrecord =>
      intro l' log log' e hopened _ heq
      obtain ⟨hkept, hlog⟩ := openRecorder_every (h := h) hopening hfs
      have hthere := hkept l' heq
      rw [hlog l' log hopened] at hthere
      cases hthere
  exact settingsFile_eq_text_iff.mpr (hrun l rfl)

/-- Opening a ledger leaves every place as it is but the one where the loaded
configuration has the ledger. -/
theorem node?_openLedger (h : Host) (dir : String) (fs : Files) (l : Location) :
    (openLedger h dir fs).2.node? l = fs.node? l ∨
      ∃ c, Config.load dir (fs.settingsFile (h.locate (Config.settingsPath dir)))
        h.environment = .ok c ∧ l = h.locate (c.dbPath dir) := by
  let loaded := Config.load dir (fs.settingsFile (h.locate (Config.settingsPath dir)))
    h.environment
  -- until the ledger is put in its place, the files are the ones at the start
  let kept : Files → Prop := fun s =>
    s.node? l = fs.node? l ∨ ∃ c, loaded = .ok c ∧ l = h.locate (c.dbPath dir)
  have hstart : ∀ s, s = fs → kept s := fun s hs => .inl (by rw [hs])
  have hensures : (openLedger h dir).Ensures (· = fs) (fun _ => kept) kept := by
    unfold openLedger
    apply ensures_bind ensures_get
    intro before
    dsimp only
    apply ensures_bind (M := fun c s => s = fs ∧ loaded = .ok c)
    case ha =>
      apply ensures_orFail
      · rintro c hc _ ⟨rfl, rfl⟩
        exact ⟨rfl, hc⟩
      · rintro _ ⟨-, hs⟩
        exact hstart _ hs
    intro c
    apply ensures_bind ensures_get
    intro before
    apply ensures_bind (M := fun _ s => s = fs ∧ loaded = .ok c ∧ h.locate (c.dbPath dir) ≠ [])
    case ha =>
      apply ensures_orFail
      · rintro db hdb _ ⟨rfl, rfl, hc⟩
        exact ⟨rfl, hc, (Files.openLedger_ok hdb).1⟩
      · rintro _ ⟨-, hs, -⟩
        exact hstart _ hs
    intro db
    apply ensures_bind (M := fun _ => kept)
    case ha =>
      apply ensures_modify
      rintro _ ⟨rfl, hc, hroot⟩
      show (Files.put _ _ _).node? l = _ ∨ _
      rw [Files.node?_put hroot]
      by_cases hl : l = h.locate (c.dbPath dir)
      · exact .inr ⟨c, hc, hl⟩
      · rw [if_neg hl]
        exact .inl rfl
    intro _
    apply ensures_bind (M := fun _ => kept)
    case ha => exact ensures_orFail (fun _ _ _ hs => hs) fun _ hs => hs
    intro _
    exact ensures_pure fun _ hs => hs
  exact hensures.after rfl

end CommandLine

/-! ### Loading -/

namespace Config

open DoubleEntry.CommandLine

variable {dir : String} {file : StoredFile} {env : Environment}

/-- A configuration is loaded exactly if the file and the lifetime of the
environment can be read and what comes from the sources can be used. -/
theorem exists_load_iff :
    (∃ c, load dir file env = .ok c) ↔
      (∃ s, readSettings dir file = .ok s) ∧
      (∀ text, env "TALLY_VERIFY_EMAIL_TTL_MINUTES" = some text →
        ∃ minutes, IsMinutes text minutes) ∧
      ∀ c : Config, c.ResolvedFrom file env → c.IsValid := by
  constructor
  · rintro ⟨c, hc⟩
    obtain ⟨⟨s, hread⟩, hresolved, hvalid⟩ := ((load_endsAs dir file env).eq_ok_iff c).mp hc
    refine ⟨⟨s, hread⟩, fun text hgiven => ?_, fun c' hresolved' => ?_⟩
    · by_contra hnone
      cases (load_of_illegible hread hgiven (not_exists.mp hnone)).symm.trans hc
    · rcases isValid_or_firstProblem c' with hvalid' | ⟨p, hproblem⟩
      · exact hvalid'
      · cases (load_of_loadFails (.invalid hread hresolved' hproblem)).symm.trans hc
  · rintro ⟨⟨s, hread⟩, hlegible, hvalid⟩
    rcases exists_resolvedFrom env hread with ⟨c, hresolved⟩ | ⟨text, hgiven, htext⟩
    · exact ⟨c, load_of_loads ⟨⟨s, hread⟩, hresolved, hvalid c hresolved⟩⟩
    · obtain ⟨minutes, hminutes⟩ := hlegible text hgiven
      exact absurd hminutes (htext minutes)

/-- **What is loaded** is what comes from the three sources, and it is loaded
exactly if the file can be read, the lifetime of the environment is a number
and every setting that comes out can be used.  Otherwise the first of these
that fails is told, as a problem with the settings unless the file is no text.
What is overridden does not matter, a blank name in the environment is not
made good by the file, and no file changes. -/
theorem load_outcome (dir : String) (file : StoredFile) (env : Environment) :
    ((∃ c, load dir file env = .ok c) ↔
      (∃ s, readSettings dir file = .ok s) ∧
      (∀ text, env "TALLY_VERIFY_EMAIL_TTL_MINUTES" = some text →
        ∃ minutes, IsMinutes text minutes) ∧
      ∀ c : Config, c.ResolvedFrom file env → c.IsValid) ∧
    (∀ c, load dir file env = .ok c ↔ c.Loads dir file env) ∧
    (∀ e, load dir file env = .error e ↔ LoadFails dir file env e) ∧
    (∀ e, load dir file env = .error e → (∃ p, e = .config p) ∨
      ((file = .directory ∨ file = .binary) ∧ readSettings dir file = .error e)) ∧
    (∀ file' s s', readSettings dir file = .ok s → readSettings dir file' = .ok s' →
      AlikeBut env file file' → load dir file' env = load dir file env) ∧
    (∀ name, env "TALLY_DB_FILE" = some name → (∀ ch ∈ name.toList, isBlank ch = true) →
      ∀ c, load dir file env ≠ .ok c) ∧
    ∀ (h : Host) (fs : Files),
      (∀ l, (openLedger h dir fs).2.node? l = fs.node? l ∨
        ∃ c, load dir (fs.settingsFile (h.locate (settingsPath dir))) h.environment = .ok c ∧
          l = h.locate (c.dbPath dir)) ∧
      ∀ args l content, fs.settingsFile l = .text content →
        (run h args fs).files.settingsFile l = .text content := by
  have hends := load_endsAs dir file env
  refine ⟨exists_load_iff, hends.eq_ok_iff, hends.eq_error_iff, ?reasons, fun _ _ _ => load_congr,
    ?blank, fun h fs => ⟨node?_openLedger h dir fs, ?kept⟩⟩
  case reasons => exact fun e he => ((hends.eq_error_iff e).mp he).problem_or_unread
  case blank =>
    intro name hgiven hblank c hc
    obtain ⟨-, hresolved, hvalid⟩ := (hends.eq_ok_iff c).mp hc
    have hname := hresolved.dbFile
    rw [hgiven] at hname
    cases hname with
    | environment heq =>
        obtain ⟨ch, hch, hne⟩ := hvalid.dbFile
        rw [hblank ch (heq ▸ hch)] at hne
        cases hne
  case kept => exact fun args l content => settingsFile_run

/-- A blank name and a negative lifetime in the file do no harm where the
environment overrides them, and a blank name there does. -/
theorem load_outcome_of_overridden :
    let file : StoredFile := .text
      ("\x7b\"ledger\": \x7b\"dbFile\": \" \", " ++
        "\"verifyEmailTtlMinutes\": -1, \"defaultPageSize\": 5\x7d\x7d")
    let file' : StoredFile := .text "\x7b\"ledger\": \x7b\"defaultPageSize\": 5\x7d\x7d"
    let env : Environment := fun name =>
      if name = "TALLY_DB_FILE" then some "books.duckdb"
      else if name = "TALLY_VERIFY_EMAIL_TTL_MINUTES" then some " +7 "
      else none
    let blank : Environment := fun name => if name = "TALLY_DB_FILE" then some " " else none
    let c : Config :=
      { dbFile := "books.duckdb", verifyEmailTtlMinutes := 7, defaultPageSize := 5 }
    c.Loads "tally" file env ∧ load "tally" file' env = .ok c ∧
      ∀ c', load "tally" file blank ≠ .ok c' := by
  intro file file' env blank c
  have hload : load "tally" file env = .ok c := by decide +kernel
  have hread : ∀ f : StoredFile,
      (readSettings "tally" f).toOption.map (·.ledger.defaultPageSize) = some (some 5) →
        ∃ s, readSettings "tally" f = .ok s ∧
          f.ledgerValue? "defaultPageSize" = some (.ofInt64 5) := by
    intro f hf
    rcases hs : readSettings "tally" f with e | s
    · rw [hs] at hf
      cases hf
    · rw [hs] at hf
      have hsize : s.ledger.defaultPageSize = some 5 := Option.some.inj hf
      exact ⟨s, rfl, by rw [(ledgerValue?_of_readSettings hs).2.2, hsize]; rfl⟩
  obtain ⟨s, hs, hsize⟩ := hread file (by decide +kernel)
  obtain ⟨s', hs', hsize'⟩ := hread file' (by decide +kernel)
  have halike : AlikeBut env file file' := ⟨nofun, nofun, hsize'.trans hsize.symm⟩
  obtain ⟨-, hok, -, -, hoverridden, -, -⟩ := load_outcome "tally" file env
  obtain ⟨-, -, -, -, -, hblank, -⟩ := load_outcome "tally" file blank
  exact ⟨(hok c).mp hload, (hoverridden file' s s' hs hs' halike).trans hload,
    hblank " " rfl (allBlank_iff.mp (by decide))⟩

end Config

end DoubleEntry
