/-
DoubleEntry/Proofs/CommandLine/Privacy.lean

What the event log tells about owners, balances and amounts: nothing, but
for the text of three errors.

Take two runs of one command line that differ in personal values only, those
in the arguments and those in the files.  Up to the end of the command they
go through states that are alike (`Invocation.action_agree`), so that they
end alike.  If they end in the same way, the rows that they add to the event
log are the same apart from ids, times and operations
(`event_log_privacy`).

The text of an error is part of its row.  The text about an amount that is
not positive names the amount, so that it has to be left out
(`event_log_names_amount`); so have the texts of the engine about a sum that
leaves 64 bits and about a row that cannot be read.
-/
import DoubleEntry.Proofs.CommandLine.Kept

namespace DoubleEntry

/-! ### Errors -/

namespace Error

/-- The rule that is broken, or the way in which the engine fails, among those
of the variant. -/
def causeIdx : Error → Nat
  | .constraint v => v.ctorIdx
  | .database f => f.ctorIdx
  | _ => 0

/-- The text of the error may show a personal value.  It names the amount, or
it is what the engine says about a sum or a row. -/
def ShowsValue : Error → Prop
  | .constraint (.amountNotPositive _) => True
  | .database .outOfRange => True
  | .database (.undecodable _) => True
  | _ => False

variable {e e' : Error}

/-- Errors of one variant are of one kind. -/
theorem kind_eq_of_ctorIdx_eq (h : e'.ctorIdx = e.ctorIdx) : e'.kind = e.kind := by
  cases e <;> cases e' <;> first | rfl | cases h

theorem eq_constraint_of_ctorIdx_eq {v : Violation} (h : e.ctorIdx = (constraint v).ctorIdx) :
    ∃ w, e = .constraint w := by
  cases e with
  | constraint w => exact ⟨w, rfl⟩
  | _ => cases h

theorem eq_database_of_ctorIdx_eq {f : Fault} (h : e.ctorIdx = (database f).ctorIdx) :
    ∃ g, e = .database g := by
  cases e with
  | database g => exact ⟨g, rfl⟩
  | _ => cases h

/-- The personal errors with a text that is always the same. -/
theorem IsPersonal.cases_of_not_showsValue (hpersonal : e.IsPersonal) (hshows : ¬ e.ShowsValue) :
    e = .constraint .zeroAdjustment ∨ e = .constraint .blankOwner ∨
      e = .constraint .checkFailed := by
  cases e with
  | constraint v =>
      cases v with
      | zeroAdjustment => exact .inl rfl
      | blankOwner => exact .inr (.inl rfl)
      | checkFailed => exact .inr (.inr rfl)
      | amountNotPositive amount => exact absurd trivial hshows
      | _ => exact hpersonal.elim
  | database f =>
      cases f with
      | outOfRange => exact absurd trivial hshows
      | undecodable column => exact absurd trivial hshows
      | _ => exact hpersonal.elim
  | _ => exact hpersonal.elim

/-- An error is known from its cause, if its text does not depend on a
personal value that brought it about. -/
theorem IsPersonal.eq_of_causeIdx_eq (hpersonal : e.IsPersonal) (hshows : ¬ e.ShowsValue)
    (hvariant : e'.ctorIdx = e.ctorIdx) (hcause : e'.causeIdx = e.causeIdx) : e' = e := by
  rcases hpersonal.cases_of_not_showsValue hshows with rfl | rfl | rfl
  all_goals
    obtain ⟨v, rfl⟩ := eq_constraint_of_ctorIdx_eq hvariant
    cases v <;> first | rfl | cases hcause

/-- Whether the text shows a value depends on the cause. -/
theorem ShowsValue.of_causeIdx_eq (hshows : e.ShowsValue) (hvariant : e'.ctorIdx = e.ctorIdx)
    (hcause : e'.causeIdx = e.causeIdx) : e'.ShowsValue := by
  cases e with
  | constraint v =>
      obtain ⟨v', rfl⟩ := eq_constraint_of_ctorIdx_eq hvariant
      cases v with
      | amountNotPositive amount => cases v' <;> trivial
      | _ => exact hshows.elim
  | database f =>
      obtain ⟨f', rfl⟩ := eq_database_of_ctorIdx_eq hvariant
      cases f with
      | outOfRange => cases f' <;> first | trivial | cases hcause
      | undecodable column => cases f' <;> first | trivial | cases hcause
      | _ => exact hshows.elim
  | _ => exact hshows.elim

end Error

namespace CommandLine

open DoubleEntry.Text DoubleEntry.CommandLine.Action

/-! ### Two runs -/

/-- Two runs of one command line that differ in personal values only.  Each
run has its own id of the operation and its own times of recording. -/
structure RunsAlike (h h' : Host) (i i' : Invocation) (fs fs' : Files) : Prop where
  host : h' = { h with operationId := h'.operationId, stamp := h'.stamp }
  json : i'.json = i.json
  command : i.command.Alike i'.command
  files : fs.Alike fs'

/-- What the command of a run ends with, and the files behind it, before the
event of the run is recorded. -/
def ending (h : Host) (i : Invocation) (fs : Files) : Except Stop String × Files :=
  i.action h (openRecorder h fs).2

/-- A run that opens a log, or none, before its command, and records an event
there behind it. -/
structure Records (h : Host) (args : List String) (i : Invocation) (fs : Files)
    (recorder : Option (Location × EventLog)) (event : LogEvent) : Prop where
  opened : (openRecorder h fs).1 = recorder
  files : (run h args fs).files = recordEvent h recorder (some event) (ending h i fs).2

/-- A run records the event of its command. -/
theorem records {h : Host} {args : List String} {i : Invocation} {fs : Files} {event : LogEvent}
    (hargs : parse args = .ok i) (hrecorded : i.command.isRecorded = true)
    (hevent : eventOf h i.command (ending h i fs).1 = some event) :
    Records h args i fs (openRecorder h fs).1 event where
  opened := rfl
  files := by
    have hrun : run h args fs = runCommand h i fs := by
      unfold run
      rw [hargs]
    rw [hrun, ← hevent]
    unfold runCommand
    rw [if_pos hrecorded]
    exact conclude_files _ _ _ _

/-- Before their events are recorded, two runs agree. -/
theorem RunsAlike.ending_agree {h h' : Host} {i i' : Invocation} {fs fs' : Files}
    (hruns : RunsAlike h h' i i' fs fs') (hrecorded : i.command.isRecorded = true) :
    (openRecorder h' fs').1 = (openRecorder h fs).1 ∧
      EndsAgree Error.IsPersonal anyAnswers Files.Alike (ending h i fs) (ending h' i' fs') := by
  -- a command never sees the id of the operation or the times of recording
  have hopen : openRecorder h' fs' = openRecorder h fs' := by
    rw [hruns.host]
    rfl
  have haction : i'.action h' = i'.action h := by
    rw [hruns.host]
    rfl
  obtain ⟨hrecorder, hfiles⟩ := openRecorder_agree h hruns.files
  have hagree := Invocation.action_agree h hruns.json hruns.command hrecorded
  refine ⟨by rw [hopen, hrecorder], ?_⟩
  unfold ending
  rw [hopen, haction]
  exact hagree _ _ hfiles

/-! ### Events of two runs -/

/-- The error of the ledger that an action ended with. -/
def cause? : Except Stop String → Option Error
  | .ok _ => none
  | .error t => t.failure?.bind fun f => f.cause

/-- Both commands succeed, or both fail with the same variant of an error.
Failures that are no error of the ledger count as one variant. -/
inductive SameEnd : Except Stop String → Except Stop String → Prop
  | succeeded (text text' : String) : SameEnd (.ok text) (.ok text')
  | failed {t t' : Stop} {f f' : Failure} (hf : t.failure? = some f) (hf' : t'.failure? = some f')
      (variant : f'.cause.map Error.ctorIdx = f.cause.map Error.ctorIdx) :
      SameEnd (.error t) (.error t')

/-- Errors of one variant are one end. -/
theorem sameEnd_of_cause? {result result' : Except Stop String} {e e' : Error}
    (h : cause? result = some e) (h' : cause? result' = some e') (hvariant : e'.ctorIdx = e.ctorIdx) :
    SameEnd result result' := by
  cases result with
  | ok text => cases h
  | error t =>
      cases result' with
      | ok text => cases h'
      | error t' =>
          obtain ⟨f, hf, he⟩ := Option.bind_eq_some_iff.mp h
          obtain ⟨f', hf', he'⟩ := Option.bind_eq_some_iff.mp h'
          exact .failed hf hf' (by rw [he, he', Option.map_some, Option.map_some, hvariant])

/-- The rows are the same apart from their ids, times and operations, and
from the text of an error. -/
def SameButText (row row' : LogEntry) : Prop :=
  row' =
    { row with
      id := row'.id
      timestamp := row'.timestamp
      operationId := row'.operationId
      errorMessage := row'.errorMessage }

/-- The event of a command that failed. -/
def failedEvent (h : Host) (c : Command) (f : Failure) : LogEvent :=
  f.describe
    { event := "command_failed", command := some c.name, operationId := some h.operationId }

/-- The event of a failure that an error of the ledger caused tells the kind
and the text of that error. -/
theorem failedEvent_of_cause {f : Failure} {e : Error} (hcause : f.cause = some e) (h : Host)
    (c : Command) :
    failedEvent h c f =
      { event := "command_failed", command := some c.name, operationId := some h.operationId,
        errorKind := some e.kind.name, errorMessage := some e.message } := by
  unfold failedEvent Failure.describe
  rw [hcause]
  rfl

/-- Two failures that agree are the same, or errors of the ledger caused them,
one of which is personal. -/
theorem failures_agree {t t' : Stop} {fs fs' : Files} {f f' : Failure}
    (hagree : EndsAgree (α := String) (β := String) Error.IsPersonal anyAnswers Files.Alike
      (.error t, fs) (.error t', fs'))
    (hf : t.failure? = some f) (hf' : t'.failure? = some f')
    (variant : f'.cause.map Error.ctorIdx = f.cause.map Error.ctorIdx) :
    f' = f ∨ ∃ e e', f.cause = some e ∧ f'.cause = some e' ∧ (e.IsPersonal ∨ e'.IsPersonal) := by
  cases hagree with
  | stopped =>
      rw [hf] at hf'
      cases hf'
      exact .inl rfl
  | unanswered =>
      cases hf
      cases hf'
      exact .inl rfl
  | @left _ e hcause personal =>
      cases hf
      rw [hcause, Option.map_some, Option.map_eq_some_iff] at variant
      obtain ⟨e', he', -⟩ := variant
      exact .inr ⟨e, e', hcause, he', .inl personal⟩
  | @right _ e' hcause personal =>
      cases hf'
      rw [hcause, Option.map_some, eq_comm, Option.map_eq_some_iff] at variant
      obtain ⟨e, he, -⟩ := variant
      exact .inr ⟨e, e', he, hcause, .inr personal⟩

/-- Commands that end in the same way leave events that are the same but for
the operation and the text of an error.  The text is the same, too, if it
shows no personal value and the errors have one cause. -/
theorem eventOf_agree {h h' : Host} {c c' : Command} (hname : c'.name = c.name)
    {ended ended' : Except Stop String × Files}
    (hagree : EndsAgree Error.IsPersonal anyAnswers Files.Alike ended ended')
    (hend : SameEnd ended.1 ended'.1) :
    ∃ event event', eventOf h c ended.1 = some event ∧ eventOf h' c' ended'.1 = some event' ∧
      event'.event = event.event ∧ event'.command = event.command ∧
      event'.errorKind = event.errorKind ∧
      ((∀ e e', cause? ended.1 = some e → cause? ended'.1 = some e' →
        e'.causeIdx = e.causeIdx ∧ ¬ e.ShowsValue) → event'.errorMessage = event.errorMessage) := by
  obtain ⟨result, fs⟩ := ended
  obtain ⟨result', fs'⟩ := ended'
  dsimp only at hend ⊢
  have hcommand : some c'.name = some c.name := by rw [hname]
  cases hend with
  | succeeded text text' => exact ⟨_, _, rfl, rfl, rfl, hcommand, rfl, fun _ => rfl⟩
  | @failed t t' f f' hf hf' variant =>
      refine ⟨failedEvent h c f, failedEvent h' c' f', ?_, ?_, ?_⟩
      · show t.failure?.map (failedEvent h c) = _
        rw [hf]
        rfl
      · show t'.failure?.map (failedEvent h' c') = _
        rw [hf']
        rfl
      rcases failures_agree hagree hf hf' variant with hsame | ⟨e, e', he, he', hpersonal⟩
      · rw [hsame]
        unfold failedEvent Failure.describe
        cases f.cause with
        | none => exact ⟨rfl, hcommand, rfl, fun _ => rfl⟩
        | some e => exact ⟨rfl, hcommand, rfl, fun _ => rfl⟩
      have hvariant : e'.ctorIdx = e.ctorIdx := by
        rw [he, he'] at variant
        exact Option.some.inj variant
      rw [failedEvent_of_cause he, failedEvent_of_cause he']
      refine ⟨rfl, hcommand, ?_, ?_⟩
      · rw [Error.kind_eq_of_ctorIdx_eq hvariant]
      · intro hcauses
        obtain ⟨hcause, hshows⟩ := hcauses e e' (by simp only [cause?, hf, Option.bind_some, he])
          (by simp only [cause?, hf', Option.bind_some, he'])
        have heq : e' = e := by
          rcases hpersonal with hpersonal | hpersonal
          · exact hpersonal.eq_of_causeIdx_eq hshows hvariant hcause
          · have hshows' : ¬ e'.ShowsValue := fun h =>
              hshows (h.of_causeIdx_eq hvariant.symm hcause.symm)
            exact (hpersonal.eq_of_causeIdx_eq hshows' hvariant.symm hcause.symm).symm
        rw [heq]

/-- **The event log keeps personal values private.**  Take two runs of one
command line that differ in nothing but owners, balances and amounts, in the
arguments and in the ledger, and that end in the same way.  The rows that they
add to the event log are the same apart from ids, times and operations, and
apart from the text of an error.  That text is the same, too, if the errors
have one cause and their text does not show a personal value. -/
theorem event_log_privacy {h h' : Host} {args args' : List String} {i i' : Invocation}
    {fs fs' : Files} (hargs : parse args = .ok i) (hargs' : parse args' = .ok i')
    (hrecorded : i.command.isRecorded = true) (hruns : RunsAlike h h' i i' fs fs')
    (hend : SameEnd (ending h i fs).1 (ending h' i' fs').1) :
    ∃ recorder event event', Records h args i fs recorder event ∧
      Records h' args' i' fs' recorder event' ∧
      SameButText (EventLog.entryOf logSource h.stamp event)
        (EventLog.entryOf logSource h'.stamp event') ∧
      ((∀ e e', cause? (ending h i fs).1 = some e → cause? (ending h' i' fs').1 = some e' →
        e'.causeIdx = e.causeIdx ∧ ¬ e.ShowsValue) →
          event'.errorMessage = event.errorMessage) := by
  obtain ⟨hrecorder, hagree⟩ := hruns.ending_agree hrecorded
  obtain ⟨event, event', hevent, hevent', hname, hcommand, hkind, hmessage⟩ :=
    eventOf_agree hruns.command.name_eq hagree hend
  have hrecorded' : i'.command.isRecorded = true := by
    rw [hruns.command.isRecorded_eq, hrecorded]
  have hrecords' := records hargs' hrecorded' hevent'
  rw [hrecorder] at hrecords'
  refine ⟨_, event, event', records hargs hrecorded hevent, hrecords', ?_, hmessage⟩
  unfold SameButText EventLog.entryOf
  rw [hname, hcommand, hkind]

/-- A host that gives a directory for the ledger and nothing else. -/
def bareHost (operationId : String) : Host where
  environment name := if name = "TALLY_DIR" then some "/tally" else none
  home := none
  workingDir := "/"
  clock _ := { seconds := 0, nanos := 0 }
  stamp :=
    { idTime := { seconds := 0, nanos := 0 }
      counter := 0
      time := { seconds := 0, nanos := 0 } }
  operationId
  secretCode := ""

/-- By whatever amount an account that is not there is adjusted, the log says
the same. -/
theorem event_log_privacy_of_adjustment :
    let i : Invocation := { json := false, command := .account (.adjust 7 30) }
    let i' : Invocation := { json := false, command := .account (.adjust 7 80) }
    SameEnd (ending (bareHost "a") i {}).1 (ending (bareHost "b") i' {}).1 ∧
      ∃ recorder event event',
        Records (bareHost "a") ["account", "adjust", "7", "30"] i {} recorder event ∧
        Records (bareHost "b") ["account", "adjust", "7", "80"] i' {} recorder event' ∧
        event'.errorMessage = event.errorMessage := by
  intro i i'
  have hcause : cause? (ending (bareHost "a") i {}).1 = some (.notFound (.account 7)) := by
    decide +kernel
  have hcause' : cause? (ending (bareHost "b") i' {}).1 = some (.notFound (.account 7)) := by
    decide +kernel
  have hend := sameEnd_of_cause? hcause hcause' rfl
  have hruns : RunsAlike (bareHost "a") (bareHost "b") i i' {} {} :=
    { host := rfl, json := rfl, command := .account (.adjust 7 30 80), files := .nil }
  have hargs : parse ["account", "adjust", "7", "30"] = .ok i := by decide +kernel
  have hargs' : parse ["account", "adjust", "7", "80"] = .ok i' := by decide +kernel
  obtain ⟨recorder, event, event', hrecords, hrecords', -, hmessage⟩ :=
    event_log_privacy hargs hargs' rfl hruns hend
  refine ⟨hend, recorder, event, event', hrecords, hrecords', hmessage ?_⟩
  intro e e' he he'
  cases hcause.symm.trans he
  cases hcause'.symm.trans he'
  exact ⟨rfl, id⟩

/-- The texts of the errors in an event log. -/
def errorTexts (fs : Files) (l : Location) : List (Option String) :=
  match fs.node? l with
  | some (.log log) => log.entries.map fun e => e.errorMessage
  | _ => []

/-- The command that sends an amount from the first account to the second. -/
def sending (amount : Int64) : Invocation :=
  { json := false, command := .transfer (.send 1 2 amount) }

/-- **An amount that is not positive reaches the event log.** -/
theorem event_log_names_amount :
    ¬ ∀ (h h' : Host) (args args' : List String) (i i' : Invocation) (fs fs' : Files)
      (l : Location), parse args = .ok i → parse args' = .ok i' →
      i.command.isRecorded = true → RunsAlike h h' i i' fs fs' →
      SameEnd (ending h i fs).1 (ending h' i' fs').1 →
      errorTexts (run h' args' fs').files l = errorTexts (run h args fs).files l := by
  intro hclaim
  have hcause : cause? (ending (bareHost "a") (sending (-5)) {}).1 =
      some (.constraint (.amountNotPositive (-5))) := by decide +kernel
  have hcause' : cause? (ending (bareHost "b") (sending (-7)) {}).1 =
      some (.constraint (.amountNotPositive (-7))) := by decide +kernel
  have hruns : RunsAlike (bareHost "a") (bareHost "b") (sending (-5)) (sending (-7)) {} {} :=
    { host := rfl, json := rfl, command := .transfer (.send 1 2 (-5) (-7)), files := .nil }
  have hsame := hclaim (bareHost "a") (bareHost "b") ["transfer", "send", "--", "1", "2", "-5"]
    ["transfer", "send", "--", "1", "2", "-7"] (sending (-5)) (sending (-7)) {} {}
    ["tally", "logs.duckdb"] (by decide +kernel) (by decide +kernel) rfl hruns
    (sameEnd_of_cause? hcause hcause' rfl)
  revert hsame
  decide +kernel

end CommandLine

end DoubleEntry
