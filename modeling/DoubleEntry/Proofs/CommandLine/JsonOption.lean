/-
DoubleEntry/Proofs/CommandLine/JsonOption.lean

The option for JSON output in front of a command line.  It asks for the same
command with its output as JSON, and changes nothing about why a command line
is turned down (`parse_json_cons`).

Of all words in front of the name of a command, only this option lets the walk
over the arguments go on to that name; every other word ends it, or leaves no
place for a name (`takeWord_root`).
-/
import Mathlib.Data.List.TakeDrop
import DoubleEntry.CommandLine.Command

namespace DoubleEntry.CommandLine

/-- The same command, with its output as JSON. -/
def Invocation.withJson (i : Invocation) : Invocation :=
  { i with json := true }

/-! ### Words in front of the command -/

namespace Given

/-- An option without a value is its name. -/
theorem eq_of_splitEquals {cs : List Char} {name : String} (h : splitEquals cs = (name, none)) :
    cs = name.toList := by
  have hparts : cs.takeWhile (· ≠ '=') ++ cs.dropWhile (· ≠ '=') = cs :=
    List.takeWhile_append_dropWhile
  have hrest := List.head?_dropWhile_not (· ≠ '=') cs
  unfold splitEquals at h
  rw [List.span_eq_takeWhile_dropWhile] at h
  -- what is left over begins with an equals sign, if anything is
  cases hdrop : cs.dropWhile (· ≠ '=') with
  | nil =>
      rw [hdrop, List.append_nil] at hparts
      rw [hdrop] at h
      obtain ⟨rfl, -⟩ := Prod.mk.inj h
      rw [String.toList_ofList, hparts]
  | cons c rest =>
      rw [hdrop] at hrest h
      obtain rfl : c = '=' := by simpa using hrest
      cases h

/-- In front of the command there are no positional arguments. -/
theorem takeArgument_root (g : Given) (arg : String) :
    takeArgument rootSpec g arg = .error .misuse :=
  rfl

/-- Short options in front of the command end the walk. -/
theorem takeShorts_root (c : Char) (cs : List Char) :
    ∃ halt, ∀ g : Given, g.takeShorts rootSpec (c :: cs) = .error halt := by
  by_cases hhelp : c = 'h'
  · subst hhelp
    exact ⟨.help, fun _ => rfl⟩
  by_cases hversion : c = 'V'
  · subst hversion
    exact ⟨.version, fun _ => rfl⟩
  · have hnone : (rootSpec.options.find? fun o => o.short = some c) = none := by
      simp [rootSpec, jsonOption, helpOption, Ne.symm hhelp, Ne.symm hversion]
    refine ⟨.misuse, fun g => ?_⟩
    unfold takeShorts
    rw [hnone]

/-- So do long options, but for the one for JSON. -/
theorem takeOption_root {name : String} {attached : Option String}
    (h : ¬ (name = "json" ∧ attached = none)) :
    ∃ halt, ∀ g : Given,
      (match rootSpec.options.find? fun o => o.name = name with
        | some o => g.takeOption o attached
        | none => .error .misuse) = .error halt := by
  by_cases hjson : name = "json"
  · subst hjson
    cases attached with
    | none => exact absurd ⟨rfl, rfl⟩ h
    | some v => exact ⟨.misuse, fun _ => rfl⟩
  by_cases hhelp : name = "help"
  · subst hhelp
    cases attached with
    | none => exact ⟨.help, fun _ => rfl⟩
    | some v => exact ⟨.misuse, fun _ => rfl⟩
  by_cases hversion : name = "version"
  · subst hversion
    cases attached with
    | none => exact ⟨.version, fun _ => rfl⟩
    | some v => exact ⟨.misuse, fun _ => rfl⟩
  · have hnone : (rootSpec.options.find? fun o => o.name = name) = none := by
      simp [rootSpec, jsonOption, helpOption, Ne.symm hjson, Ne.symm hhelp, Ne.symm hversion]
    refine ⟨.misuse, fun g => ?_⟩
    rw [hnone]

/-- A word in front of the command is the option for JSON, or ends the walk, or
makes all that follows positional. -/
theorem takeWord_root {arg : String} (harg : arg ≠ "--json") :
    (∃ halt, ∀ g : Given, takeWord rootSpec g arg = .error halt) ∨
      ∀ g : Given, takeWord rootSpec g arg = .ok { g with trailing := true } := by
  unfold takeWord
  split
  · exact .inr fun _ => rfl
  · -- a long option
    rename_i cs _ hcs
    left
    have hname : ¬ ((splitEquals cs).1 = "json" ∧ (splitEquals cs).2 = none) := by
      rintro ⟨hname, hattached⟩
      have hsplit := eq_of_splitEquals (Prod.ext hname hattached)
      apply harg
      rw [← String.toList_inj, hcs, hsplit]
      rfl
    obtain ⟨halt, hhalt⟩ := takeOption_root hname
    refine ⟨halt, fun g => ?_⟩
    exact hhalt g
  · -- short options
    rename_i c cs _ _ _
    obtain ⟨halt, hhalt⟩ := takeShorts_root c cs
    exact .inl ⟨halt, hhalt⟩
  · exact .inl ⟨.misuse, fun g => takeArgument_root g arg⟩

/-- What has been read when the option for JSON was the first word. -/
def jsonGiven : Given :=
  { options := [("json", "")] }

theorem walk_json (args : List String) :
    walk rootSpec {} ("--json" :: args) = walk rootSpec jsonGiven args :=
  rfl

/-- The walk over other words does not depend on the options before them: it
comes to the name of a command at once, or to none. -/
theorem walk_root {arg : String} (harg : arg ≠ "--json") (rest : List String) :
    (∀ g : Given, g.pending = none → g.trailing = false →
      walk rootSpec g (arg :: rest) = .ok (g, some (arg, rest))) ∨
    ∃ halt, ∀ g : Given, g.pending = none → g.trailing = false →
      ∀ next : Given × Option (String × List String) → Except Halt Invocation,
        (∀ g, next (g, none) = .error .misuse) →
          (walk rootSpec g (arg :: rest) >>= next) = .error halt := by
  by_cases hname : rootSpec.subcommands.contains arg = true
  · left
    intro g hpending htrailing
    unfold walk
    rw [hpending, htrailing, hname]
    rfl
  have hwalk : ∀ g : Given, g.pending = none → g.trailing = false →
      walk rootSpec g (arg :: rest) =
        (g.takeWord rootSpec arg).bind fun g => walk rootSpec g rest := by
    intro g hpending htrailing
    rw [walk, hpending, htrailing]
    simp only [Bool.false_eq_true, if_false, if_neg hname]
  right
  rcases takeWord_root harg with ⟨halt, hhalt⟩ | htrails
  · refine ⟨halt, fun g hpending htrailing next _ => ?_⟩
    rw [hwalk g hpending htrailing, hhalt]
    rfl
  · -- what is positional has no place, and without it there is no command
    refine ⟨.misuse, fun g hpending htrailing next hnone => ?_⟩
    rw [hwalk g hpending htrailing, htrails]
    cases rest with
    | nil => exact hnone _
    | cons word rest =>
        have hword : walk rootSpec { g with trailing := true } (word :: rest) =
            .error .misuse := by
          rw [walk, hpending]
          rfl
        show (walk rootSpec { g with trailing := true } (word :: rest) >>= next) = _
        rw [hword]
        rfl

end Given

/-! ### Commands -/

theorem parseLeaf_json (json : Bool) (l : Leaf) (args : List String) :
    parseLeaf true l args = (parseLeaf json l args).map Invocation.withJson := by
  unfold parseLeaf
  cases Given.walk l.spec {} args with
  | error halt => rfl
  | ok walked =>
      obtain ⟨g, sub⟩ := walked
      show (if g.isComplete l.spec then _ else _) =
        Except.map _ (if g.isComplete l.spec then _ else _)
      split
      · rfl
      · rfl

theorem parseGroup_json (leaves : List Leaf) (args : List String) :
    parseGroup true leaves args = (parseGroup false leaves args).map Invocation.withJson := by
  unfold parseGroup
  cases Given.walk (groupSpec leaves) {} args with
  | error halt => rfl
  | ok walked =>
      obtain ⟨g, sub⟩ := walked
      cases sub with
      | none => rfl
      | some named =>
          obtain ⟨name, rest⟩ := named
          dsimp only [bind, Except.bind]
          cases leaves.find? fun l => l.name = name with
          | none => rfl
          | some l => exact parseLeaf_json _ l rest

/-- **The option for JSON in front** asks for the same command with its output
as JSON, and is turned down for the same reason. -/
theorem parse_json_cons {args : List String} (h : args.head? ≠ some "--json") :
    parse ("--json" :: args) = (parse args).map Invocation.withJson := by
  cases args with
  | nil => rfl
  | cons arg rest =>
      have harg : arg ≠ "--json" := fun heq => h (congrArg some heq)
      unfold parse
      rw [Given.walk_json]
      rcases Given.walk_root harg rest with hnamed | ⟨halt, hends⟩
      · rw [hnamed {} rfl rfl, hnamed Given.jsonGiven rfl rfl]
        dsimp only [bind, Except.bind]
        split
        · exact parseLeaf_json _ _ _
        · cases groups.lookup arg with
          | none => rfl
          | some leaves => exact parseGroup_json leaves rest
      · rw [hends {} rfl rfl _ fun _ => rfl, hends Given.jsonGiven rfl rfl _ fun _ => rfl]
        rfl

end DoubleEntry.CommandLine
