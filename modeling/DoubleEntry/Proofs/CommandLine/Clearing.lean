/-
DoubleEntry/Proofs/CommandLine/Clearing.lean

Clearing the event log by age.  The age is a number of days, which may be any
64-bit integer.  If so many days before the time on the clock there is an
instant (`Instant.Reaches`), the entries from before it are deleted and their
number is reported; times are compared in whole milliseconds, in which the log
keeps them (`LogEntry.isOlder`).  If there is none, the run breaks off and the
log stays as it is.  `clear_outcome` says so of every run that clears the log,
and `clear_unsafe` that not every number of days is safe.
-/
import DoubleEntry.Proofs.CommandLine.Outcome
import DoubleEntry.Proofs.Text.Integer
import DoubleEntry.Proofs.Text.Pattern

namespace DoubleEntry

open DoubleEntry.Text

/-! ### Days ago -/

namespace Instant

/-- What a clock may show: an instant within the bounds, outside a leap
second. -/
structure IsShown (t : Instant) : Prop where
  inRange : t.inRange = true
  nanos_lt : t.nanos < 1000000000

/-- So many days before an instant there is an instant. -/
def Reaches (now : Instant) (days : Int64) : Prop :=
  firstSecond ≤ now.seconds - 86400 * days.toInt ∧ now.seconds - 86400 * days.toInt ≤ lastSecond

instance {now : Instant} {days : Int64} : Decidable (now.Reaches days) :=
  inferInstanceAs (Decidable (_ ∧ _))

theorem inRange_iff {t : Instant} :
    t.inRange = true ↔ firstSecond ≤ t.seconds ∧ t.seconds ≤ lastSecond := by
  simp [inRange]

variable {now : Instant} {days : Int64}

/-- Going back whole days changes only the seconds. -/
theorem later_daysAgo (hnow : now.nanos < 1000000000) :
    now.later (Duration.neg ⟨days.toInt * 86400 * 1000000000⟩) =
      { now with seconds := now.seconds - 86400 * days.toInt } := by
  have hlater := later_ofSeconds hnow (-(86400 * days.toInt))
  rw [Int.neg_mul, Int.mul_comm 86400] at hlater
  rw [Duration.neg, hlater, Int.mul_comm 86400, Int.sub_eq_add_neg]

/-- In whole milliseconds the days are taken off the time. -/
theorem toMillis_daysAgo (now : Instant) (days : Int64) :
    toMillis { now with seconds := now.seconds - 86400 * days.toInt } =
      now.toMillis - 86400000 * days.toInt := by
  simp only [toMillis, toNanos]
  omega

end Instant

/-- An entry from before a number of days ago. -/
def LogEntry.isOlder (now : Instant) (days : Int64) (e : LogEntry) : Bool :=
  e.timestamp.toInt < now.toMillis - 86400000 * days.toInt

namespace CommandLine

open DoubleEntry.CommandLine.Action

namespace LogSession

variable {s : LogSession} {days : Int64} {cutoff : Instant}

/-- From a time on the clock, as many days are a duration as lead to an
instant. -/
theorem daysAgo?_of_reaches (hnow : s.now.IsShown) (h : s.now.Reaches days) :
    s.daysAgo? days = some { s.now with seconds := s.now.seconds - 86400 * days.toInt } := by
  have hrange := Instant.inRange_iff.mp hnow.inRange
  have hduration : Duration.ofDays? days = some ⟨days.toInt * 86400 * 1000000000⟩ := by
    -- the bounds on instants lie far within the one on durations
    simp only [Instant.Reaches, Instant.firstSecond, Instant.lastSecond] at hrange h
    simp only [Duration.ofDays?, Duration.ofSeconds?]
    rw [if_pos]
    omega
  rw [daysAgo?, hduration, Option.bind_some, Instant.add?, Instant.later_daysAgo hnow.nanos_lt,
    if_pos]
  exact Instant.inRange_iff.mpr h

/-- Too many days are no duration, or do not lead to an instant. -/
theorem daysAgo?_of_not_reaches (hnow : s.now.nanos < 1000000000) (h : ¬ s.now.Reaches days) :
    s.daysAgo? days = none := by
  simp only [daysAgo?, Duration.ofDays?, Duration.ofSeconds?]
  split
  case isFalse => rfl
  case isTrue =>
    rw [Option.bind_some, Instant.add?, Instant.later_daysAgo hnow, if_neg]
    exact fun hrange => h (Instant.inRange_iff.mp hrange)

/-- What is reported when entries have been deleted. -/
def clearedText (json : Bool) (n : Nat) : String :=
  if json then jsonText (deletedJson (.ofNat n))
  else lines ["Deleted " ++ natText n ++ " log entries"]

theorem clear_of_daysAgo? (h : s.daysAgo? days = some cutoff) (log : EventLog) :
    s.clear days true log =
      (.ok (clearedText s.json (log.deleteBefore cutoff.toMillis).1),
        (log.deleteBefore cutoff.toMillis).2) := by
  unfold clear
  rw [h]
  cases s.json <;> rfl

theorem clear_of_daysAgo?_eq_none (h : s.daysAgo? days = none) (force : Bool) (log : EventLog) :
    s.clear days force log = (.error .crash, log) := by
  unfold clear
  rw [h]
  rfl

end LogSession

/-! ### Asking for a number of days -/

namespace Given

/-- An option is split from its value at the first equals sign. -/
theorem splitEquals_attached {name : String} (hname : '=' ∉ name.toList) (value : String) :
    splitEquals (name.toList ++ '=' :: value.toList) = (name, some value) := by
  obtain ⟨htake, hdrop⟩ := takeWhile_ne_append_cons hname value.toList
  rw [splitEquals, List.span_eq_takeWhile_dropWhile, htake, hdrop]
  simp

/-- A long option with a value attached to it is given that value. -/
theorem takeWord_attached {spec : Spec} {o : OptionSpec} {name : String}
    (hname : '=' ∉ name.toList) (ho : (spec.options.find? fun o => o.name = name) = some o)
    (g : Given) (value : String) :
    takeWord spec g ("--" ++ name ++ "=" ++ value) = g.takeOption o (some value) := by
  have htext : ("--" ++ name ++ "=" ++ value).toList =
      '-' :: '-' :: (name.toList ++ '=' :: value.toList) := by
    simp [String.toList_append]
  simp only [takeWord, htext]
  split
  case h_1 heq => simp at heq
  case h_2 heq =>
    simp only [List.cons.injEq, true_and] at heq
    rw [← heq, splitEquals_attached hname]
    dsimp only
    rw [ho]
  case h_3 hdash heq =>
    simp only [List.cons.injEq, true_and] at heq
    exact (hdash heq.1.symm).elim
  case h_4 hdash _ => exact absurd rfl (hdash _)

end Given

/-- The arguments that clear the log of what is older than a number of days.
With an equals sign the number may be negative. -/
def clearArguments (days : Int64) : List String :=
  ["logs", "clear", "--force", "--" ++ "older-than-days" ++ "=" ++ int64Text days]

/-- Every number of days can be asked for. -/
theorem parse_clearArguments (days : Int64) :
    parse (clearArguments days) =
      .ok { json := false, command := .logs (.clear days true) } := by
  let age : OptionSpec := { name := "older-than-days", value := some .signed }
  let spec := leaf [age, forceOption] []
  let word := "--" ++ "older-than-days" ++ "=" ++ int64Text days
  let forced : Given := { options := [("force", "")] }
  let given : Given := { options := [("older-than-days", int64Text days), ("force", "")] }
  have hread : readInt64? (int64Text days).toList = some days := readInt64?_int64Text days
  have hword : Given.takeWord spec forced word = .ok given := by
    have hname : '=' ∉ "older-than-days".toList := by decide
    have hage : (spec.options.find? fun o => o.name = "older-than-days") = some age := rfl
    have haccepts : ValueKind.accepts .signed (int64Text days) = true := by
      rw [ValueKind.accepts, hread]
      rfl
    rw [Given.takeWord_attached hname hage]
    exact if_pos haccepts
  have hwalk : Given.walk spec {} ["--force", word] = .ok (given, none) := by
    show (Given.takeWord spec forced word).bind _ = _
    rw [hword]
    rfl
  show (Given.walk spec {} ["--force", word] >>= _) = _
  rw [hwalk]
  show Except.ok (Invocation.mk false (.logs (.clear ((readInt64? (int64Text days).toList).getD 30)
    true))) = _
  rw [hread]
  rfl

/-! ### Runs -/

section

variable {h : Host} {fs : Files} {l : Location} {log : EventLog} {args : List String}
variable {json : Bool} {days : Int64}

/-- A command on the event log works on the log that can be opened, and what
it leaves of the log is put back. -/
theorem onLog_apply (hopened : (openRecorder h fs).1 = some (l, log)) (json : Bool)
    (act : LogSession → Action EventLog String) :
    ∃ s : LogSession, s.json = json ∧ s.now = h.clock 0 ∧
      onLog h json act fs =
        ((act s log).1, (openRecorder h fs).2.put l (.log (act s log).2)) := by
  rw [openRecorder_eq] at hopened ⊢
  unfold opening at hopened ⊢
  unfold onLog
  -- both take the same three steps, and an error at one of them opens no log
  rw [bind_apply] at hopened ⊢
  rw [bind_apply]
  generalize findDirectory h fs = found at hopened ⊢
  obtain ⟨t | dir, fs₁⟩ := found
  · cases hopened
  dsimp only at hopened ⊢
  rw [bind_apply] at hopened ⊢
  rw [bind_apply]
  generalize makeDirectory h dir fs₁ = made at hopened ⊢
  obtain ⟨t | _, fs₂⟩ := made
  · cases hopened
  dsimp only at hopened ⊢
  rw [bind_apply] at hopened ⊢
  rw [bind_apply]
  generalize openLog h dir fs₂ = read at hopened ⊢
  obtain ⟨t | log', fs₃⟩ := read
  · cases hopened
  cases hopened
  exact ⟨_, rfl, rfl, rfl⟩

/-- A run that clears the log ends as its command does on the log. -/
theorem run_clear (hargs : parse args = .ok { json, command := .logs (.clear days true) })
    (hopened : (openRecorder h fs).1 = some (l, log)) :
    ∃ s : LogSession, s.json = json ∧ s.now = h.clock 0 ∧
      run h args fs = conclude h.color json (s.clear days true log).1
        ((openRecorder h fs).2.put l (.log (s.clear days true log).2)) := by
  obtain ⟨s, hjson, hnow, hrun⟩ := onLog_apply hopened json fun s => s.run (.clear days true)
  refine ⟨s, hjson, hnow, ?_⟩
  have hended : ended h { json, command := .logs (.clear days true) } fs = _ := hrun
  have hrecorder : recorder h { json, command := .logs (.clear days true) } fs = none := rfl
  rw [run_eq hargs, hended, hrecorder]
  rfl

theorem events_put (hroot : l ≠ []) (fs : Files) (log : EventLog) :
    events (fs.put l (.log log)) l = log.entries := by
  rw [events, Files.file?_put hroot (by simp), if_pos rfl]
  rfl

/-- The run cleared the log of the entries from before a number of days ago
and of no others, and reported how many these were. -/
structure ClearsOlder (now : Instant) (days : Int64) (json : Bool) (fs : Files) (l : Location)
    (r : Report) : Prop where
  exitCode : r.exitCode = 0
  entries : events r.files l = (events fs l).filter fun e => !e.isOlder now days
  stdout : r.stdout = LogSession.clearedText json ((events fs l).countP (·.isOlder now days))
  stderr : r.stderr = ""

/-- The run broke off and left the log as it was. -/
structure BreaksOff (fs : Files) (l : Location) (r : Report) : Prop where
  exitCode : r.exitCode = 101
  entries : events r.files l = events fs l
  stdout : r.stdout = ""

/-- **What becomes of a log that is cleared by age.**  Every number of days can
be asked for.  Where there is an instant so many days ago, exactly the entries
from before it go and their number is reported; otherwise the run breaks off,
and the log stays as it is. -/
theorem clear_outcome (days : Int64) :
    parse (clearArguments days) = .ok { json := false, command := .logs (.clear days true) } ∧
      ∀ {h : Host} {args : List String} {fs : Files} {json : Bool} {l : Location} {log : EventLog},
        parse args = .ok { json, command := .logs (.clear days true) } →
        (h.clock 0).IsShown → (openRecorder h fs).1 = some (l, log) →
        ((h.clock 0).Reaches days →
          ClearsOlder (h.clock 0) days json fs l (run h args fs)) ∧
        (¬ (h.clock 0).Reaches days → BreaksOff fs l (run h args fs)) := by
  refine ⟨parse_clearArguments days, ?_⟩
  intro h args fs json l log hargs hclock hopened
  obtain ⟨hroot, hentries⟩ := openRecorder_entries hopened
  obtain ⟨s, rfl, hnow, hrun⟩ := run_clear hargs hopened
  rw [← hnow] at hclock ⊢
  constructor
  case left =>
    intro hreaches
    rw [hrun, LogSession.clear_of_daysAgo? (LogSession.daysAgo?_of_reaches hclock hreaches),
      Instant.toMillis_daysAgo]
    refine ⟨rfl, ?entries, ?stdout, rfl⟩
    case entries =>
      show events ((openRecorder h fs).2.put l _) l = _
      rw [events_put hroot, ← hentries]
      rfl
    case stdout =>
      rw [← hentries, List.countP_eq_length_filter]
      rfl
  case right =>
    intro hreaches
    rw [hrun, LogSession.clear_of_daysAgo?_eq_none
      (LogSession.daysAgo?_of_not_reaches hclock.nanos_lt hreaches)]
    refine ⟨rfl, ?_, rfl⟩
    show events ((openRecorder h fs).2.put l _) l = _
    rw [events_put hroot, hentries]

/-- Of two events a hundred days apart, the first is cleared on the day of the
second. -/
theorem clear_outcome_of_two :
    let first : Instant := { seconds := 0, nanos := 0 }
    let second : Instant := { seconds := 8640000, nanos := 0 }
    let h := { bareHost "a" with clock := fun _ => second }
    let entry := fun t => EventLog.entryOf logSource ⟨t, 0, t⟩ (.new "command_completed")
    let log : EventLog :=
      { catalog := EventLog.openedCatalog, entries := [entry first, entry second] }
    let l := ["tally", "logs.duckdb"]
    let fs := (({} : Files).put ["tally"] .directory).put l (.log log)
    ClearsOlder second 30 false fs l (run h (clearArguments 30) fs) ∧
      events (run h (clearArguments 30) fs).files l = [entry second] := by
  intro first second h entry log l fs
  have hopened : (openRecorder h fs).1 = some (l, log) :=
    congrArg Prod.fst (@openRecorder_of_opened h fs log "/tally" fs rfl rfl rfl rfl)
  have hclock : (h.clock 0).IsShown := ⟨by decide, by decide⟩
  have hreaches : (h.clock 0).Reaches 30 := by decide
  obtain ⟨hargs, hclear⟩ := clear_outcome 30
  have hclears := (hclear hargs hclock hopened).1 hreaches
  refine ⟨hclears, hclears.entries.trans ?_⟩
  decide +kernel

/-- A number of days that is no duration breaks the run off. -/
theorem clear_unsafe :
    ¬ ∀ {days : Int64} {h : Host} {args : List String} {fs : Files} {json : Bool} {l : Location}
        {log : EventLog}, parse args = .ok { json, command := .logs (.clear days true) } →
      (h.clock 0).IsShown → (openRecorder h fs).1 = some (l, log) →
      ClearsOlder (h.clock 0) days json fs l (run h args fs) := by
  intro hclaim
  have hopened : ((openRecorder (bareHost "a") {}).1.map Prod.fst) =
      some ["tally", "logs.duckdb"] := by decide +kernel
  obtain ⟨⟨l, log⟩, hlog, -⟩ := Option.map_eq_some_iff.mp hopened
  have hclock : ((bareHost "a").clock 0).IsShown := ⟨by decide, by decide⟩
  have hclears := hclaim (parse_clearArguments 9223372036854775807) hclock hlog
  have hcode : (run (bareHost "a") (clearArguments 9223372036854775807) {}).exitCode = 101 := by
    decide +kernel
  exact absurd hclears.exitCode (by rw [hcode]; decide)

end

end CommandLine

end DoubleEntry
