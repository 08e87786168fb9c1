/-
DoubleEntry/CommandLine/Host.lean

What a run of the program gets from its host, apart from arguments and
files: the environment, the terminal, the time, and values that are random.
-/
import DoubleEntry.CommandLine.Files
import DoubleEntry.Store.Scope

namespace DoubleEntry.CommandLine

/-- The host of a run. -/
structure Host where
  environment : Environment
  /-- The home directory of whoever runs the program. -/
  home : Option String
  workingDir : String
  /-- Whether standard output is a terminal. -/
  terminal : Bool := false
  /-- The answer to the question that a command may ask, if somebody is
  there to answer. -/
  reply : Option Bool := none
  /-- The time at each query of a command. -/
  clock : Nat → Instant
  /-- The times read while the event of the run is recorded. -/
  stamp : Stamp
  operationId : String
  /-- The code that a request for verification issues. -/
  secretCode : String
  /-- The size of the file of the event log. -/
  logSize : Nat := 0

namespace Host

/-- What the queries of a command depend on. -/
def surroundings (h : Host) : Surroundings :=
  { clock := h.clock }

/-- The location of a path. -/
def locate (h : Host) (path : String) : Location :=
  CommandLine.locate h.workingDir path

/-! ### The directory of the ledger -/

/-- The directory of the settings, the ledger and the event log. -/
def directory? (h : Host) : Option String :=
  (h.environment "TALLY_DIR").or (h.home.map fun home => Text.joinPath home ".tally")

/-- The path of the event log in a directory. -/
def logPath (dir : String) : String :=
  Text.joinPath dir EventLog.fileName

/-! ### Colours -/

/-- Whether a variable switches something on: it is set, and not to zero. -/
def switchesOn (value : Option String) : Bool :=
  value.any fun v => v ≠ "0"

/-- Whether output is coloured.  Colours can be forced on; otherwise they
need a terminal, and can be switched off. -/
def color (h : Host) : Bool :=
  switchesOn (h.environment "CLICOLOR_FORCE")
    || (h.terminal && (h.environment "NO_COLOR").isNone
      && switchesOn ((h.environment "CLICOLOR").or (some "1")))

end Host

end DoubleEntry.CommandLine
