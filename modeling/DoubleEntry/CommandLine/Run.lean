/-
DoubleEntry/CommandLine/Run.lean

A run of the program: from the arguments, the host and the files to what is
printed, the exit code, and the files as they are afterwards.

* Every command but those on the event log itself leaves one event in the
  log.  A log that cannot be opened keeps no command from its work.
* The exit code is 0 after a success, 2 when something was not found, 3 when
  a rule was violated, 1 after any other failure, and 2 for arguments that
  do not fit.  A run that breaks off exits with 101 and leaves no event.
-/
import DoubleEntry.CommandLine.Host
import DoubleEntry.CommandLine.LogSession
import DoubleEntry.Text.Quoted

namespace DoubleEntry.CommandLine

open DoubleEntry.Text DoubleEntry.CommandLine.Action

/-! ### Opening the ledger and the event log -/

/-- The directory of the settings, the ledger and the event log. -/
def findDirectory (h : Host) : Action Files String :=
  match h.directory? with
  | some dir => pure dir
  | none => stop (.ofText "Could not find home directory; set TALLY_DIR")

/-- Makes a directory. -/
def makeDirectory (h : Host) (dir : String) : Action Files Unit := do
  set (← orFail Failure.ofText ((← get).createDirectory (h.locate dir)))

/-- Opens the event log of a directory and brings its tables up to date. -/
def openLog (h : Host) (dir : String) : Action Files EventLog := do
  let l := h.locate (Host.logPath dir)
  let log ← orFail Failure.ofFault ((← get).openLog l)
  let log ← orFail Failure.ofMigration log.prepare
  modify fun fs => fs.put l (.log log)
  return log

/-- Opens the ledger of a directory and brings its tables up to date. -/
def openLedger (h : Host) (dir : String) : Action Files (Config × Location × Database) := do
  let settings := (← get).settingsFile (h.locate (Config.settingsPath dir))
  let config ← orFail Failure.ofError (Config.load dir settings h.environment)
  let l := h.locate (config.dbPath dir)
  let db ← orFail Failure.ofFault ((← get).openLedger l)
  let (report, db) := db.migrate
  modify fun fs => fs.put l (.ledger db)
  let _ ← orFail Failure.ofMigration report
  return (config, l, db)

/-! ### Commands -/

/-- An action on the ledger. -/
def onLedger (h : Host) (json : Bool) (act : Session → Action Database String) :
    Action Files String := do
  let dir ← findDirectory h
  within ("Failed to create tally directory: " ++ quote dir) (makeDirectory h dir)
  let (config, l, db) ← within "Failed to open the ledger" (openLedger h dir)
  let lifetime ← orCrash (Duration.ofMinutes? config.verifyEmailTtlMinutes)
  let session : Session :=
    { json, color := h.color, reply := h.reply, env := h.surroundings,
      pageSize := config.defaultPageSize, lifetime, secretCode := h.secretCode }
  focus db (fun db fs => fs.put l (.ledger db)) (act session)

/-- An action on the event log. -/
def onLog (h : Host) (json : Bool) (act : LogSession → Action EventLog String) :
    Action Files String := do
  let dir ← findDirectory h
  makeDirectory h dir
  let log ← openLog h dir
  let path := Host.logPath dir
  let session : LogSession :=
    { json, color := h.color, reply := h.reply, now := h.clock 0, path, size := h.logSize }
  focus log (fun log fs => fs.put (h.locate path) (.log log)) (act session)

/-- What a command does. -/
def Invocation.action (h : Host) (i : Invocation) : Action Files String :=
  match i.command with
  | .account c => onLedger h i.json fun s => s.runAccount c
  | .transfer c => onLedger h i.json fun s => s.runTransfer c
  | .entry c => onLedger h i.json fun s => s.runEntry c
  | .user c => onLedger h i.json fun s => s.runUser c
  | .verify c => onLedger h i.json fun s => s.runVerify c
  | .status => onLedger h i.json fun s => s.runStatus
  | .logs c => onLog h i.json fun s => s.run c

/-! ### The event of a run -/

/-- The version of the program. -/
def version : String := "0.1.0"

/-- What recorded the events of the command line. -/
def logSource : LogSource :=
  { entryPoint := .cli, appVersion := version }

/-- The event of a command that ended, if it left one. -/
def eventOf (h : Host) (c : Command) (result : Except Stop String) : Option LogEvent :=
  let event := fun name => ((LogEvent.new name).withCommand c.name).withOperationId h.operationId
  match result with
  | .ok _ => some (event "command_executed")
  | .error s => s.failure?.map fun f => f.describe (event "command_failed")

/-- Opens the log in which events are recorded, if it can be opened. -/
def openRecorder (h : Host) (fs : Files) : Option (Location × EventLog) × Files :=
  let opening : Action Files (Location × EventLog) := do
    let dir ← findDirectory h
    makeDirectory h dir
    return (h.locate (Host.logPath dir), ← openLog h dir)
  match opening fs with
  | (.ok recorder, fs) => (some recorder, fs)
  | (.error _, fs) => (none, fs)

/-- Records an event; one that cannot be recorded is lost. -/
def recordEvent (h : Host) (recorder : Option (Location × EventLog)) (event : Option LogEvent)
    (fs : Files) : Files :=
  match recorder, event with
  | some (l, log), some e =>
      match log.record logSource h.stamp e with
      | .ok log => fs.put l (.log log)
      | .error _ => fs
  | _, _ => fs

/-! ### Runs -/

/-- What a run leaves behind. -/
structure Report where
  exitCode : Nat
  stdout : String := ""
  stderr : String := ""
  files : Files
  /-- The question that stayed without an answer. -/
  unanswered : Option String := none

/-- What is reported about a command that ended. -/
def conclude (color json : Bool) (result : Except Stop String) (files : Files) : Report :=
  match result with
  | .ok text => { exitCode := 0, stdout := text, files }
  | .error s =>
      let unanswered :=
        match s with
        | .unanswered question => some question
        | _ => none
      match s.failure? with
      | none => { exitCode := 101, stderr := lines ["The command broke off."], files }
      | some f =>
          if json then
            { exitCode := f.exitCode, stdout := jsonText f.envelope.toJson, files, unanswered }
          else
            { exitCode := f.exitCode, stderr := errorLine color f.message, files, unanswered }

/-- Whether a command leaves an event. -/
def Command.isRecorded : Command → Bool
  | .logs _ => false
  | _ => true

/-- Runs a command. -/
def runCommand (h : Host) (i : Invocation) (fs : Files) : Report :=
  let (recorder, fs) := if i.command.isRecorded then openRecorder h fs else (none, fs)
  let (result, fs) := i.action h fs
  conclude h.color i.json result (recordEvent h recorder (eventOf h i.command result) fs)

/-- How the program is used. -/
def usage : String :=
  lines <|
    "Usage: tally [--json] <command>" :: "" :: "Commands:"
      :: (groups.flatMap fun (name, leaves) => leaves.map fun l => "  " ++ name ++ " " ++ l.name)
      ++ ["  " ++ statusLeaf.name]

/-- Runs the program. -/
def run (h : Host) (args : List String) (files : Files) : Report :=
  match parse args with
  | .ok i => runCommand h i files
  | .error .misuse => { exitCode := 2, stderr := usage, files }
  | .error .help => { exitCode := 0, stdout := usage, files }
  | .error .version => { exitCode := 0, stdout := lines ["tally " ++ version], files }

end DoubleEntry.CommandLine
