/-
DoubleEntry/CommandLine/Arguments.lean

Walking over the arguments of a command: options with and without values,
positional arguments, and the name of a subcommand.

* `--name value`, `--name=value`, `-n value`, `-nvalue` and `-n=value` give
  an option its value; short options without values can be written together.
* An option may be given only once.
* After `--` all arguments are positional.
* An argument that starts with a hyphen is taken for an option, unless the
  option or positional argument whose turn it is accepts such values.
* Values are checked as they are read, so that a bad value is reported
  before a request for help that follows it.
-/
import DoubleEntry.Text.Decimal

namespace DoubleEntry.CommandLine

open DoubleEntry.Text

/-! ### Specifications -/

/-- What an option or argument accepts. -/
inductive ValueKind where
  | text
  | signed
  | unsigned
  deriving DecidableEq, Repr

/-- Whether a text is a value of a kind. -/
def ValueKind.accepts : ValueKind → String → Bool
  | .text, _ => true
  | .signed, s => (readInt64? s.toList).isSome
  | .unsigned, s => (readUInt64? s.toList).isSome

/-- An option.  Without a kind it takes no value. -/
structure OptionSpec where
  name : String
  short : Option Char := none
  value : Option ValueKind := none
  hyphens : Bool := false
  required : Bool := false
  deriving DecidableEq, Repr

/-- A positional argument, which has to be given. -/
structure ArgumentSpec where
  value : ValueKind
  hyphens : Bool := false
  deriving DecidableEq, Repr

/-- What may follow the name of a command. -/
structure Spec where
  options : List OptionSpec
  arguments : List ArgumentSpec := []
  subcommands : List String := []
  deriving DecidableEq, Repr

/-- Why the walk ended before its time. -/
inductive Halt where
  /-- The arguments do not fit the specification. -/
  | misuse
  | help
  | version
  deriving DecidableEq, Repr

/-- The arguments read so far: options with their values, last first, and
positional arguments, last first. -/
structure Given where
  options : List (String × String) := []
  arguments : List String := []
  /-- The option that waits for its value. -/
  pending : Option OptionSpec := none
  /-- Whether all that follows is positional. -/
  trailing : Bool := false
  deriving Repr

namespace Given

/-- The value of an option. -/
def value? (g : Given) (name : String) : Option String :=
  g.options.lookup name

/-- Whether an option was given. -/
def has (g : Given) (name : String) : Bool :=
  (g.value? name).isSome

/-! ### Options -/

/-- Gives an option a value; an option may be given only once. -/
def setOption (g : Given) (o : OptionSpec) (value : String) : Except Halt Given :=
  if g.has o.name then .error .misuse
  else if (o.value.getD .text).accepts value then
    .ok { g with options := (o.name, value) :: g.options, pending := none }
  else .error .misuse

/-- Sets an option without a value.  Two of them end the walk. -/
def setFlag (g : Given) (o : OptionSpec) : Except Halt Given :=
  if o.name = "help" then .error .help
  else if o.name = "version" then .error .version
  else g.setOption o ""

/-- Splits an option at the first equals sign. -/
def splitEquals (cs : List Char) : String × Option String :=
  match cs.span (· ≠ '=') with
  | (name, '=' :: value) => (String.ofList name, some (String.ofList value))
  | (name, _) => (String.ofList name, none)

/-- A known option, with the value attached to it if there is one. -/
def takeOption (g : Given) (o : OptionSpec) (attached : Option String) : Except Halt Given :=
  match o.value, attached with
  | none, none => g.setFlag o
  | none, some _ => .error .misuse
  | some _, some v => g.setOption o v
  | some _, none => .ok { g with pending := some o }

/-- Short options written together: those without a value one after the
other, and one with a value takes the rest. -/
def takeShorts (spec : Spec) (g : Given) : List Char → Except Halt Given
  | [] => .ok g
  | c :: rest =>
      match spec.options.find? fun o => o.short = some c with
      | none => .error .misuse
      | some o =>
          match o.value, rest with
          | none, rest => (g.setFlag o).bind fun g => takeShorts spec g rest
          | some _, [] => g.takeOption o none
          | some _, '=' :: value => g.takeOption o (some (String.ofList value))
          | some _, value => g.takeOption o (some (String.ofList value))

/-! ### Positional arguments -/

/-- The positional argument whose turn it is. -/
def next? (spec : Spec) (g : Given) : Option ArgumentSpec :=
  spec.arguments[g.arguments.length]?

/-- Takes the next positional argument. -/
def takeArgument (spec : Spec) (g : Given) (arg : String) : Except Halt Given :=
  match next? spec g with
  | some a =>
      if a.value.accepts arg then .ok { g with arguments := arg :: g.arguments }
      else .error .misuse
  | none => .error .misuse

/-- Whether the positional argument whose turn it is accepts hyphens. -/
def nextTakesHyphens (spec : Spec) (g : Given) : Bool :=
  match next? spec g with
  | some a => a.hyphens
  | none => false

/-! ### The walk -/

/-- One argument before any `--`, when no option waits for a value. -/
def takeWord (spec : Spec) (g : Given) (arg : String) : Except Halt Given :=
  match arg.toList with
  | ['-', '-'] => .ok { g with trailing := true }
  | '-' :: '-' :: cs =>
      let (name, attached) := splitEquals cs
      match spec.options.find? fun o => o.name = name with
      | some o => g.takeOption o attached
      | none => if g.nextTakesHyphens spec then g.takeArgument spec arg else .error .misuse
  | '-' :: c :: cs =>
      let isShort := fun c => spec.options.any fun o => o.short = some c
      if g.nextTakesHyphens spec && !(c :: cs).all isShort then g.takeArgument spec arg
      else g.takeShorts spec (c :: cs)
  | _ => g.takeArgument spec arg

/-- The value of an option that waits for one. -/
def takePending (g : Given) (o : OptionSpec) (arg : String) : Except Halt Given :=
  match arg.toList with
  | '-' :: _ :: _ => if o.hyphens then g.setOption o arg else .error .misuse
  | _ => g.setOption o arg

/-- Whether all that has to be given is given. -/
def isComplete (spec : Spec) (g : Given) : Bool :=
  g.pending.isNone && g.arguments.length = spec.arguments.length
    && spec.options.all fun o => !o.required || g.has o.name

/-- Walks over arguments up to the name of a subcommand, which is given with
the arguments after it. -/
def walk (spec : Spec) (g : Given) : List String → Except Halt (Given × Option (String × List String))
  | [] => .ok (g, none)
  | arg :: rest =>
      match g.pending with
      | some o => (g.takePending o arg).bind fun g => walk spec g rest
      | none =>
          if g.trailing then (g.takeArgument spec arg).bind fun g => walk spec g rest
          else if spec.subcommands.contains arg then .ok (g, some (arg, rest))
          else (g.takeWord spec arg).bind fun g => walk spec g rest

end Given

end DoubleEntry.CommandLine
