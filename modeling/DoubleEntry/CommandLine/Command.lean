/-
DoubleEntry/CommandLine/Command.lean

The commands, and reading one from the arguments of the program.
-/
import DoubleEntry.CommandLine.Arguments

namespace DoubleEntry.CommandLine

open DoubleEntry.Text

/-! ### Commands -/

/-- Commands about accounts. -/
inductive AccountCommand where
  | openNew (owner currency : String) (balance : Int64)
  | info (id : Int64)
  | list (owner : Option String) (limit : Option Int64) (offset : Int64)
  | close (id : Int64) (force : Bool)
  | adjust (id amount : Int64)
  deriving DecidableEq, Repr

/-- Commands about transfers. -/
inductive TransferCommand where
  | send (fromId toId amount : Int64)
  | info (id : Int64)
  | list (accountId : Int64) (limit : Option Int64) (offset : Int64)
  deriving DecidableEq, Repr

/-- Commands about entries. -/
inductive EntryCommand where
  | info (id : Int64)
  | list (accountId : Int64) (limit : Option Int64) (offset : Int64)
  deriving DecidableEq, Repr

/-- Commands about users. -/
inductive UserCommand where
  | register (username fullName email : String)
  | info (username : String)
  deriving DecidableEq, Repr

/-- Commands about the verification of email addresses. -/
inductive VerifyCommand where
  | request (username : String)
  | confirm (id : Int64) (secretCode : String)
  deriving DecidableEq, Repr

/-- Commands about the event log. -/
inductive LogsCommand where
  | list (limit : UInt64) (errors : Bool)
  | clear (olderThanDays : Int64) (force : Bool)
  | stats
  deriving DecidableEq, Repr

/-- A command. -/
inductive Command where
  | account (c : AccountCommand)
  | transfer (c : TransferCommand)
  | entry (c : EntryCommand)
  | user (c : UserCommand)
  | verify (c : VerifyCommand)
  | status
  | logs (c : LogsCommand)
  deriving DecidableEq, Repr

/-- The name under which a command is logged. -/
def Command.name : Command → String
  | .account _ => "account"
  | .transfer _ => "transfer"
  | .entry _ => "entry"
  | .user _ => "user"
  | .verify _ => "verify"
  | .status => "status"
  | .logs _ => "logs"

/-- A command and whether its output is JSON. -/
structure Invocation where
  json : Bool
  command : Command
  deriving DecidableEq, Repr

/-! ### Specifications -/

/-- The option for JSON output, which every command has. -/
def jsonOption : OptionSpec := { name := "json" }

/-- The option for help, which every command has. -/
def helpOption : OptionSpec := { name := "help", short := some 'h' }

/-- The specification of a command without subcommands. -/
def leaf (options : List OptionSpec) (arguments : List ArgumentSpec) : Spec :=
  { options := options ++ [jsonOption, helpOption], arguments }

/-- The option for the size of a page. -/
def limitOption : OptionSpec := { name := "limit", short := some 'l', value := some .signed }

/-- The option for the start of a page. -/
def offsetOption : OptionSpec := { name := "offset", value := some .signed }

/-- The option that answers a question beforehand. -/
def forceOption : OptionSpec := { name := "force", short := some 'f' }

/-- An id as a positional argument. -/
def idArgument : ArgumentSpec := { value := .signed }

/-- A text as a positional argument. -/
def textArgument : ArgumentSpec := { value := .text }

/-! ### From arguments to commands -/

/-- A signed integer among the positional arguments. -/
def Given.signedAt (g : Given) (i : Nat) : Int64 :=
  ((g.arguments.reverse[i]?).bind fun s => readInt64? s.toList).getD 0

/-- A text among the positional arguments. -/
def Given.textAt (g : Given) (i : Nat) : String :=
  (g.arguments.reverse[i]?).getD ""

/-- A signed integer given with an option. -/
def Given.signed? (g : Given) (name : String) : Option Int64 :=
  (g.value? name).bind fun s => readInt64? s.toList

/-- An unsigned integer given with an option. -/
def Given.unsigned? (g : Given) (name : String) : Option UInt64 :=
  (g.value? name).bind fun s => readUInt64? s.toList

/-- A command without subcommands: its specification, and the command for
arguments that fit it. -/
structure Leaf where
  name : String
  spec : Spec
  command : Given → Command

/-- The commands about accounts. -/
def accountLeaves : List Leaf :=
  [ { name := "open"
      spec :=
        leaf
          [ { name := "currency", short := some 'c', value := some .text },
            { name := "balance", value := some .signed, hyphens := true } ]
          [textArgument]
      command := fun g =>
        .account (.openNew (g.textAt 0) ((g.value? "currency").getD "USD")
          ((g.signed? "balance").getD 0)) },
    { name := "show"
      spec := leaf [] [idArgument]
      command := fun g => .account (.info (g.signedAt 0)) },
    { name := "list"
      spec := leaf [{ name := "owner", value := some .text }, limitOption, offsetOption] []
      command := fun g =>
        .account (.list (g.value? "owner") (g.signed? "limit") ((g.signed? "offset").getD 0)) },
    { name := "close"
      spec := leaf [forceOption] [idArgument]
      command := fun g => .account (.close (g.signedAt 0) (g.has "force")) },
    { name := "adjust"
      spec := leaf [] [idArgument, { value := .signed, hyphens := true }]
      command := fun g => .account (.adjust (g.signedAt 0) (g.signedAt 1)) } ]

/-- The commands about transfers. -/
def transferLeaves : List Leaf :=
  [ { name := "send"
      spec := leaf [] [idArgument, idArgument, idArgument]
      command := fun g => .transfer (.send (g.signedAt 0) (g.signedAt 1) (g.signedAt 2)) },
    { name := "show"
      spec := leaf [] [idArgument]
      command := fun g => .transfer (.info (g.signedAt 0)) },
    { name := "list"
      spec := leaf [limitOption, offsetOption] [idArgument]
      command := fun g =>
        .transfer (.list (g.signedAt 0) (g.signed? "limit") ((g.signed? "offset").getD 0)) } ]

/-- The commands about entries. -/
def entryLeaves : List Leaf :=
  [ { name := "show"
      spec := leaf [] [idArgument]
      command := fun g => .entry (.info (g.signedAt 0)) },
    { name := "list"
      spec := leaf [limitOption, offsetOption] [idArgument]
      command := fun g =>
        .entry (.list (g.signedAt 0) (g.signed? "limit") ((g.signed? "offset").getD 0)) } ]

/-- The commands about users. -/
def userLeaves : List Leaf :=
  [ { name := "new"
      spec :=
        leaf
          [ { name := "full-name", value := some .text, required := true },
            { name := "email", value := some .text, required := true } ]
          [textArgument]
      command := fun g =>
        .user (.register (g.textAt 0) ((g.value? "full-name").getD "")
          ((g.value? "email").getD "")) },
    { name := "show"
      spec := leaf [] [textArgument]
      command := fun g => .user (.info (g.textAt 0)) } ]

/-- The commands about verifications. -/
def verifyLeaves : List Leaf :=
  [ { name := "request"
      spec := leaf [] [textArgument]
      command := fun g => .verify (.request (g.textAt 0)) },
    { name := "confirm"
      spec := leaf [] [idArgument, textArgument]
      command := fun g => .verify (.confirm (g.signedAt 0) (g.textAt 1)) } ]

/-- The commands about the event log. -/
def logsLeaves : List Leaf :=
  [ { name := "list"
      spec :=
        leaf
          [ { name := "limit", short := some 'l', value := some .unsigned },
            { name := "errors" } ]
          []
      command := fun g => .logs (.list ((g.unsigned? "limit").getD 50) (g.has "errors")) },
    { name := "clear"
      spec := leaf [{ name := "older-than-days", value := some .signed }, forceOption] []
      command := fun g =>
        .logs (.clear ((g.signed? "older-than-days").getD 30) (g.has "force")) },
    { name := "stats"
      spec := leaf [] []
      command := fun _ => .logs .stats } ]

/-- The command that has no subcommands of its own. -/
def statusLeaf : Leaf :=
  { name := "status", spec := leaf [] [], command := fun _ => .status }

/-- The groups of commands. -/
def groups : List (String × List Leaf) :=
  [ ("account", accountLeaves), ("transfer", transferLeaves), ("entry", entryLeaves),
    ("user", userLeaves), ("verify", verifyLeaves), ("logs", logsLeaves) ]

/-- The specification of a group of commands. -/
def groupSpec (leaves : List Leaf) : Spec :=
  { options := [jsonOption, helpOption], subcommands := "help" :: leaves.map (·.name) }

/-- The specification of the program. -/
def rootSpec : Spec :=
  { options := [jsonOption, helpOption, { name := "version", short := some 'V' }]
    subcommands := "help" :: statusLeaf.name :: groups.map (·.1) }

/-! ### Reading -/

/-- Reads the arguments of a command without subcommands. -/
def parseLeaf (json : Bool) (l : Leaf) (args : List String) : Except Halt Invocation := do
  let (g, _) ← Given.walk l.spec {} args
  if g.isComplete l.spec then
    return { json := json || g.has "json", command := l.command g }
  else .error .misuse

/-- A request for help on a command of a group. -/
def groupHelp (leaves : List Leaf) : List String → Halt
  | [] => .help
  | [name] => if name = "help" || leaves.any fun l => l.name = name then .help else .misuse
  | _ => .misuse

/-- A request for help on a command. -/
def rootHelp : List String → Halt
  | [] => .help
  | [name] => if rootSpec.subcommands.contains name then .help else .misuse
  | name :: rest =>
      match groups.lookup name with
      | some leaves => groupHelp leaves rest
      | none => .misuse

/-- Reads the arguments of a group of commands. -/
def parseGroup (json : Bool) (leaves : List Leaf) (args : List String) :
    Except Halt Invocation := do
  let (g, sub) ← Given.walk (groupSpec leaves) {} args
  match sub with
  | none => .error .misuse
  | some (name, rest) =>
      match leaves.find? fun l => l.name = name with
      | some l => parseLeaf (json || g.has "json") l rest
      | none => .error (groupHelp leaves rest)

/-- Reads the arguments of the program. -/
def parse (args : List String) : Except Halt Invocation := do
  let (g, sub) ← Given.walk rootSpec {} args
  match sub with
  | none => .error .misuse
  | some (name, rest) =>
      if name = statusLeaf.name then parseLeaf (g.has "json") statusLeaf rest
      else
        match groups.lookup name with
        | some leaves => parseGroup (g.has "json") leaves rest
        | none => .error (rootHelp rest)

end DoubleEntry.CommandLine
