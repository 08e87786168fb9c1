/-
DoubleEntry/Settings/Config.lean

The configuration of the ledger.  It comes from the settings file, the
environment, which overrides the file, and defaults for what neither gives.
Saving it keeps every setting that is not part of it.
-/
import DoubleEntry.Error
import DoubleEntry.Settings.File
import DoubleEntry.Text.Blank
import DoubleEntry.Text.Path

namespace DoubleEntry

open DoubleEntry.Text

/-- The configuration. -/
structure Config where
  dbFile : String := "tally.duckdb"
  verifyEmailTtlMinutes : Int64 := 15
  defaultPageSize : Int64 := 20
  deriving DecidableEq, Repr

/-- What stands at the path of a settings file. -/
inductive StoredFile where
  | absent
  | directory
  | text (content : String)
  /-- A file whose bytes are no text. -/
  | binary
  deriving DecidableEq, Repr

/-- The environment: the variables that are set. -/
abbrev Environment := String → Option String

namespace Config

/-- The path of the settings file of a directory. -/
def settingsPath (dir : String) : String :=
  joinPath dir "settings.json"

/-- Reads the settings file of a directory; an absent file has no settings. -/
def readSettings (dir : String) : StoredFile → Except Error SettingsFile
  | .absent => .ok {}
  | .directory => .error (.io "Is a directory (os error 21)")
  | .binary => .error (.io "stream did not contain valid UTF-8")
  | .text content =>
      match SettingsFile.parse? content with
      | some s => .ok s
      | none => .error (.config (.invalidFile (settingsPath dir)))

/-- Whether a configuration can be used. -/
def validate (c : Config) : Except Error Unit :=
  if allBlank c.dbFile then .error (.config .emptyDbFile)
  else if c.verifyEmailTtlMinutes.toInt ≤ 0 then
    .error (.config (.lifetimeNotPositive c.verifyEmailTtlMinutes))
  else if c.defaultPageSize.toInt < 1 then .error (.config (.pageSizeTooSmall c.defaultPageSize))
  else .ok ()

/-- The lifetime of codes: from the environment, else from the file. -/
def lifetimeOf (env : Environment) (s : LedgerSettings) : Except Error Int64 :=
  match env "TALLY_VERIFY_EMAIL_TTL_MINUTES" with
  | some value =>
      match readInt64? (trimChars value.toList) with
      | some minutes => .ok minutes
      | none => .error (.config (.lifetimeNotANumber value))
  | none => .ok (s.verifyEmailTtlMinutes.getD ({} : Config).verifyEmailTtlMinutes)

/-- Loads the configuration of a directory. -/
def load (dir : String) (file : StoredFile) (env : Environment) : Except Error Config := do
  let s ← readSettings dir file
  let config : Config :=
    { dbFile := ((env "TALLY_DB_FILE").or s.ledger.dbFile).getD ({} : Config).dbFile
      verifyEmailTtlMinutes := ← lifetimeOf env s.ledger
      defaultPageSize := s.ledger.defaultPageSize.getD ({} : Config).defaultPageSize }
  config.validate
  return config

/-- Settings with those of a configuration set and all others kept. -/
def apply (c : Config) (s : SettingsFile) : SettingsFile :=
  { s with
    ledger :=
      { s.ledger with
        dbFile := some c.dbFile
        verifyEmailTtlMinutes := some c.verifyEmailTtlMinutes
        defaultPageSize := some c.defaultPageSize } }

/-- Saves a configuration: the settings file of the directory afterwards.
A file that cannot be read stays as it is. -/
def save (c : Config) (dir : String) (file : StoredFile) : Except Error StoredFile :=
  (readSettings dir file).map fun s => .text (c.apply s).render

/-- The path of the ledger database. -/
def dbPath (c : Config) (dir : String) : String :=
  joinPath dir c.dbFile

end Config

end DoubleEntry
