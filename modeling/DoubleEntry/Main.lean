/-
DoubleEntry/Main.lean

The program.  It reads the files that a run can see, lets
`CommandLine.run` work on them, and writes back those that have changed.
-/
import DoubleEntry.CommandLine.FileText
import DoubleEntry.CommandLine.Run
import Std.Time.DateTime.Timestamp

namespace DoubleEntry.CommandLine

/-! ### The host -/

/-- The environment variables that are looked at. -/
def variableNames : List String :=
  ["TALLY_DIR", "TALLY_DB_FILE", "TALLY_VERIFY_EMAIL_TTL_MINUTES", "HOME", "NO_COLOR", "CLICOLOR",
    "CLICOLOR_FORCE"]

/-- Reads the environment. -/
def readEnvironment : IO Environment := do
  let values ← variableNames.mapM fun name => do return (name, ← IO.getEnv name)
  return fun name => (values.lookup name).join

/-- A code from random bytes: a letter for each. -/
def codeOf (bytes : List UInt8) : String :=
  String.ofList (bytes.map fun b => Char.ofNat (97 + b.toNat % 26))

/-- A byte in two hexadecimal digits. -/
def byteText (b : UInt8) : String :=
  String.ofList [Nat.digitChar (b.toNat / 16), Nat.digitChar (b.toNat % 16)]

/-- An operation id from sixteen random bytes: a random UUID, whose version
and variant are set. -/
def operationIdOf (bytes : List UInt8) : String :=
  let marked := bytes.mapIdx fun i b =>
    if i = 6 then b % 16 + 64 else if i = 8 then b % 64 + 128 else b
  String.join <| marked.mapIdx fun i b =>
    if [4, 6, 8, 10].contains i then "-" ++ byteText b else byteText b

/-- The time now. -/
def readClock : IO Instant := do
  return .ofNanos (← Std.Time.Timestamp.now).toNanosecondsSinceUnixEpoch.val

/-- The host of this run. -/
def findHost : IO Host := do
  let environment ← readEnvironment
  let now ← readClock
  return {
    environment
    home := (environment "HOME").filter (· ≠ "")
    workingDir := toString (← IO.currentDir)
    terminal := ← (← IO.getStdout).isTty
    clock := fun _ => now
    stamp := { idTime := now, counter := 0, time := now }
    operationId := operationIdOf (← IO.getRandomBytes 16).toList
    secretCode := codeOf (← IO.getRandomBytes 32).toList }

/-! ### Files -/

/-- The path of a location. -/
def pathOf (l : Location) : String :=
  "/" ++ String.intercalate "/" l

/-- Reads what is at a location. -/
def readNode (l : Location) : IO (Option FileNode) := do
  try return some (.ofBytes (← IO.FS.readBinFile (pathOf l)))
  catch
    | .noFileOrDirectory .. => return none
    | .inappropriateType .. => return some .directory
    | _ => return some .binary

/-- Reads what is on the way to a location, itself included, and adds it to
the tree. -/
def readInto (fs : Files) (l : Location) : IO Files :=
  (Files.steps l).foldlM (fun fs s => do
    if (fs.node? s).isSome then return fs
    match ← readNode s with
    | some n => return fs.put s n
    | none => return fs) fs

/-- Reads the files that a run can see. -/
def readFiles (h : Host) : IO Files := do
  match h.directory? with
  | none => return {}
  | some dir =>
      let paths := [dir, Config.settingsPath dir, Host.logPath dir]
      let fs ← (paths.map h.locate).foldlM readInto {}
      let settings := fs.settingsFile (h.locate (Config.settingsPath dir))
      match Config.load dir settings h.environment with
      | .ok config => readInto fs (h.locate (config.dbPath dir))
      | .error _ => return fs

/-- Writes what differs from the tree before the run. -/
def writeFiles (before after : Files) : IO Unit := do
  let changed := after.nodes.filter fun (l, n) => before.node? l ≠ some n
  for (l, n) in changed do
    if n = .directory then IO.FS.createDirAll (pathOf l)
  for (l, n) in changed do
    if let some text := n.text? then IO.FS.writeFile (pathOf l) text

/-- The size of the file of the event log. -/
def logSizeIn (h : Host) (fs : Files) : Nat :=
  let size? := do
    let node ← fs.node? (h.locate (Host.logPath (← h.directory?)))
    return (← node.text?).utf8ByteSize
  size?.getD 0

/-! ### Running -/

/-- Asks a question on the terminal. -/
def ask (question : String) : IO Bool := do
  IO.eprint (question ++ " [y/N] ")
  let answer := (← (← IO.getStdin).getLine).toList
  return answer.head? = some 'y' || answer.head? = some 'Y'

/-- Runs the program; a question is asked when a run has come to it, and the
run is then made again with the answer. -/
def runWith (h : Host) (args : List String) (files : Files) : IO Report := do
  let report := run h args files
  match report.unanswered with
  | some question =>
      if ← (← IO.getStderr).isTty then
        return run { h with reply := some (← ask question) } args files
      else return report
  | none => return report

end DoubleEntry.CommandLine

open DoubleEntry.CommandLine in
/-- The program: accounts, transfers, users and the event log from the
command line. -/
def main (args : List String) : IO UInt32 := do
  let host ← findHost
  let files ← readFiles host
  let report ← runWith { host with logSize := logSizeIn host files } args files
  writeFiles files report.files
  IO.print report.stdout
  IO.eprint report.stderr
  return report.exitCode.toUInt32
