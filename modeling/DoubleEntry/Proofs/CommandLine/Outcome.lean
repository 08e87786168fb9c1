/-
DoubleEntry/Proofs/CommandLine/Outcome.lean

What a run tells about the end of its command.  The exit code, the JSON that
is printed and the event that is recorded are each made from the end of the
command.  They agree (`agrees_run`): all three tell of a success, or of a
failure by the same kind of error.

The event of a run is added where its id is new (`addsEvent_run`) and lost where
it is taken (`events_run_of_taken`).  The ids are new if the clock goes on from
run to run (`ClockGoesOn.nodup_eventIds`); of two runs at one reading of the
clock the second leaves no event (`runs_disagree_at_one_reading`).
-/
import DoubleEntry.Proofs.CommandLine.Privacy
import DoubleEntry.Proofs.EventLog.Tables
import DoubleEntry.Proofs.Json.Meaning

namespace DoubleEntry

namespace CommandLine

open DoubleEntry.Text DoubleEntry.CommandLine.Action

/-! ### Ends -/

/-- How a command ended: a failure has the kind of the first error of the
ledger among its causes, if there is one. -/
inductive Ending where
  | succeeded
  | failed (kind : Option ErrorKind)
  | brokeOff
  deriving DecidableEq, Repr

namespace Ending

/-- How an action ended. -/
def of : Except Stop String → Ending
  | .ok _ => succeeded
  | .error s =>
      match s.failure? with
      | some f => failed f.kind?
      | none => brokeOff

/-- The exit code for an end. -/
def exitCode : Ending → Nat
  | succeeded => 0
  | failed (some .notFound) => 2
  | failed (some .constraintViolation) => 3
  | failed _ => 1
  | brokeOff => 101

/-- An object tells of a failure by an error of a kind. -/
structure EnvelopeTells (kind : Option ErrorKind) (j : Json) : Prop where
  success : Json.get? "success" j = some (.bool false)
  errorKind : Json.get? "error_kind" j = kind.map fun k => .string k.name

/-- An entry of the event log tells of an end. -/
def EntryTells (entry : LogEntry) : Ending → Prop
  | succeeded =>
      entry.event = "command_executed" ∧ entry.errorKind = none ∧ entry.errorMessage = none
  | failed kind =>
      entry.event = "command_failed" ∧ entry.errorKind = kind.map ErrorKind.name ∧
        entry.errorMessage.isSome
  | brokeOff => False

end Ending

/-! ### The exit code and the envelope -/

theorem exitCode_conclude (color json : Bool) (result : Except Stop String) (fs : Files) :
    (conclude color json result fs).exitCode = (Ending.of result).exitCode := by
  unfold conclude Ending.of
  cases result with
  | ok text => rfl
  | error s =>
      dsimp only
      cases s.failure? with
      | none => rfl
      | some f =>
          have hcode : f.exitCode = (Ending.failed f.kind?).exitCode := by
            unfold Failure.exitCode
            rcases f.kind? with - | kind
            · rfl
            · cases kind <;> rfl
          cases json with
          | true => exact hcode
          | false => exact hcode

/-- An envelope that tells of a failure is read back from what is printed. -/
theorem parse?_jsonText_envelope (f : Failure) :
    ∃ j, Json.parse? (jsonText f.envelope.toJson) = some j ∧
      Ending.EnvelopeTells f.kind? j := by
  have htext : jsonText f.envelope.toJson =
      String.ofList (Json.render .indented 0 f.envelope.toJson ++ ['\n']) := by
    rw [String.ofList_append]
    simp [jsonText, lines, Json.pretty, String.join]
  -- there are no numbers in it, no container in another, and no key twice
  have hnumbers : f.envelope.toJson.EveryNumber Json.Number.IsInteger := by
    unfold Failure.envelope Envelope.toJson
    cases f.kind? with
    | none => exact ⟨trivial, trivial, trivial, trivial, trivial⟩
    | some kind => exact ⟨trivial, trivial, trivial, trivial, trivial, trivial⟩
  have hfits : f.envelope.toJson.Fits Json.maxDepth := by
    unfold Failure.envelope Envelope.toJson
    cases f.kind? with
    | none =>
        refine ⟨?_, trivial, trivial, trivial, trivial, trivial⟩
        simp
    | some kind =>
        refine ⟨?_, trivial, trivial, trivial, trivial, trivial, trivial⟩
        simp
  have hread := Json.parse?_render_append .indented
    (Json.EveryNumber.imp Json.Number.IsInteger.isLegible _ hnumbers) hfits
    (fun c hc => by rw [List.mem_singleton.mp hc]; decide : ∀ c ∈ ['\n'], Json.isSpace c = true)
  rw [Json.reread_eq_self _ hnumbers, ← htext] at hread
  refine ⟨f.envelope.toJson, hread, ?_, ?_⟩
  · rfl
  · show Json.get? "error_kind" f.envelope.toJson = f.kind?.map fun k => .string k.name
    unfold Failure.envelope Envelope.toJson
    cases f.kind? <;> rfl

/-! ### Events -/

/-- The entries of a file. -/
def entriesOf : Option FileNode → List LogEntry
  | some (.log log) => log.entries
  | _ => []

/-- The entries of the event log at a location. -/
def events (fs : Files) (l : Location) : List LogEntry :=
  entriesOf (fs.file? l)

/-- The id of the event of a run. -/
def eventId (h : Host) : UInt64 :=
  EventLog.entryId h.stamp.idTime.toMillis h.stamp.counter

/-- Each event log has been opened, and its entries have ids among those
given. -/
def LogsKnown (ids : List UInt64) (_ : Location) (n : Option FileNode) : Prop :=
  ∀ log, n = some (.log log) →
    log.catalog = EventLog.openedCatalog ∧ ∀ e ∈ log.entries, e.id ∈ ids

theorem keptByOpening_logsKnown (ids : List UInt64) : KeptByOpening (LogsKnown ids) where
  newLog l log hlog _ := by
    rintro _ ⟨⟩
    refine ⟨EventLog.catalog_prepare_empty hlog, ?_⟩
    rw [EventLog.entries_prepare hlog]
    exact fun _ he => nomatch he
  oldLog l log log' hlog hthere := by
    rintro _ ⟨⟩
    obtain ⟨hcatalog, hids⟩ := hthere log rfl
    refine ⟨EventLog.catalog_prepare hlog hcatalog, ?_⟩
    rw [EventLog.entries_prepare hlog]
    exact hids
  newLedger _ _ := by
    rintro _ ⟨⟩
  oldLedger _ _ _ := by
    rintro _ ⟨⟩

/-- Opening leaves the entries as they are. -/
theorem keptByOpening_entries (P : Location → List LogEntry → Prop) :
    KeptByOpening fun l n => P l (entriesOf n) where
  newLog l log hlog hthere := by
    show P l log.entries
    rw [EventLog.entries_prepare hlog]
    exact hthere
  oldLog l log log' hlog hthere := by
    show P l log'.entries
    rw [EventLog.entries_prepare hlog]
    exact hthere
  newLedger _ hthere := hthere
  oldLedger _ _ hthere := hthere

/-! ### Commands on the event log -/

/-- Entries may be gone. -/
structure Cleared (log log' : EventLog) : Prop where
  catalog : log'.catalog = log.catalog
  entries : log'.entries.Sublist log.entries

theorem Cleared.refl (log : EventLog) : Cleared log log :=
  ⟨rfl, List.Sublist.refl _⟩

section

variable {σ : Type} {P Q R : σ → Prop}

theorem ensures_present (json : Bool) (j : Json) {text : Action σ String}
    (hjson : ∀ s, P s → Q s) (h : text.Ensures P (fun _ => Q) R) :
    (present json j text).Ensures P (fun _ => Q) R := by
  cases json with
  | true => exact ensures_pure hjson
  | false => exact h

theorem ensures_confirm (known : Bool) (reply : Option Bool) (question : String) :
    (confirm known reply question).Ensures P (fun _ => P) P := by
  cases known with
  | true => exact ensures_pure fun _ hs => hs
  | false =>
      cases reply with
      | some yes => exact ensures_pure fun _ hs => hs
      | none => exact ensures_throw fun _ hs => hs

end

/-- A command on the event log deletes entries at most. -/
theorem LogSession.cleared_run (s : LogSession) (c : LogsCommand) (log : EventLog) :
    Cleared log (s.run c log).2 := by
  have hensures : (s.run c).Ensures (Cleared log) (fun _ => Cleared log) (Cleared log) := by
    cases c with
    | list limit errors =>
        apply ensures_bind ensures_get
        intro seen
        apply ensures_bind (M := fun _ => Cleared log)
        case ha =>
          apply ensures_orFail
          · exact fun _ _ _ hs => hs.2
          · exact fun _ hs => hs.2
        intro es
        apply ensures_present _ _ fun _ hs => hs
        split
        · exact ensures_pure fun _ hs => hs
        · exact ensures_pure fun _ hs => hs
    | clear days force =>
        apply ensures_bind (M := fun _ => Cleared log)
        case ha =>
          apply ensures_orCrash
          · exact fun _ _ _ hs => hs
          · exact fun _ hs => hs
        intro cutoff
        apply ensures_bind (ensures_confirm _ _ _)
        intro yes
        split
        case isFalse => exact ensures_pure fun _ hs => hs
        case isTrue =>
          apply ensures_bind ensures_get
          intro seen
          apply ensures_bind (M := fun _ => Cleared log)
          case ha =>
            apply ensures_set
            rintro _ ⟨rfl, hs⟩
            exact ⟨hs.catalog, List.filter_sublist.trans hs.entries⟩
          intro _
          exact ensures_present _ _ (fun _ hs => hs) (ensures_pure fun _ hs => hs)
    | stats =>
        apply ensures_bind ensures_get
        intro seen
        exact ensures_present _ _ (fun _ hs => hs.2) (ensures_pure fun _ hs => hs.2)
  exact hensures.after (Cleared.refl log)

/-! ### The log over a run -/

section Log

variable {h : Host} {i : Invocation} {fs : Files} {ids : List UInt64}

/-- Until the event of a run is recorded, what is there of event logs stays,
but for a command on the event log itself. -/
theorem ended_every {Φ : Location → Option FileNode → Prop} (hΦ : KeptByOpening Φ)
    (hledger : ∀ l db db', Φ l (some (.ledger db)) → Φ l (some (.ledger db')))
    (hlog : i.command.isRecorded = false → ∀ l log log', Cleared log log' →
      Φ l (some (.log log)) → Φ l (some (.log log')))
    (hfs : fs.Every Φ) : (ended h i fs).2.Every Φ := by
  unfold ended
  cases hrecorded : i.command.isRecorded with
  | true =>
      rw [if_pos rfl, Invocation.action_eq hrecorded]
      exact onLedger_every hΦ _ (fun _ _ l db hthere => hledger l db _ hthere)
        (openRecorder_every hΦ hfs).1
  | false =>
      obtain ⟨c, haction⟩ := Invocation.exists_action_eq hrecorded h
      rw [if_neg (by decide), haction]
      exact onLog_every hΦ _
        (fun s l log hthere => hlog hrecorded l log _ (s.cleared_run c log) hthere) hfs

theorem logsKnown_ended (hfs : fs.Every (LogsKnown ids)) :
    (ended h i fs).2.Every (LogsKnown ids) := by
  apply ended_every (keptByOpening_logsKnown ids) _ _ hfs
  · rintro _ _ _ _ _ ⟨⟩
  · rintro - l log log' hcleared hthere _ ⟨⟩
    obtain ⟨hcatalog, hids⟩ := hthere log rfl
    exact ⟨hcleared.catalog.trans hcatalog, fun e he => hids e (hcleared.entries.mem he)⟩

/-- The entries before the event are those from before the run. -/
theorem events_ended (hrecorded : i.command.isRecorded = true) (l : Location) :
    events (ended h i fs).2 l = events fs l := by
  have hkept : (ended h i fs).2.Every fun l n => entriesOf n = events fs l := by
    apply ended_every (keptByOpening_entries fun l es => es = events fs l)
    · exact fun _ _ _ hthere => hthere
    · exact fun hfalse => absurd hrecorded (by rw [hfalse]; decide)
    · exact fun _ => rfl
  exact hkept l

/-- A log that can be opened is a file with the entries from before. -/
theorem openRecorder_entries {l : Location} {log : EventLog}
    (hopened : (openRecorder h fs).1 = some (l, log)) : l ≠ [] ∧ log.entries = events fs l := by
  obtain ⟨hkept, hthere⟩ := openRecorder_every (h := h)
    (keptByOpening_entries fun l es => es = events fs l) fun _ => rfl
  have hfile := hthere l log hopened
  have hentries := hkept l
  rw [hfile] at hentries
  refine ⟨?_, hentries⟩
  rintro rfl
  cases hfile

/-- A log that is opened for the event of a run has been opened before, if it
was there. -/
theorem openRecorder_log {l : Location} {log : EventLog}
    (hopened : (openRecorder h fs).1 = some (l, log)) (hfs : fs.Every (LogsKnown ids)) :
    l ≠ [] ∧ log.entries = events fs l ∧ log.catalog = EventLog.openedCatalog ∧
      ∀ e ∈ log.entries, e.id ∈ ids := by
  obtain ⟨hroot, hentries⟩ := openRecorder_entries hopened
  obtain ⟨hknown, hthere⟩ := openRecorder_every (h := h) (keptByOpening_logsKnown ids) hfs
  have hlog := hknown l
  rw [hthere l log hopened] at hlog
  obtain ⟨hcatalog, hids⟩ := hlog log rfl
  exact ⟨hroot, hentries, hcatalog, hids⟩

/-- A log whose tables are up to date is opened as it is. -/
theorem openRecorder_of_opened {log : EventLog} {dir : String} {fs' : Files}
    (hdir : h.directory? = some dir) (hmade : fs.createDirectory (h.locate dir) = .ok fs')
    (hread : fs'.openLog (h.locate (Host.logPath dir)) = .ok log)
    (hlog : log.catalog = EventLog.openedCatalog) :
    openRecorder h fs =
      (some (h.locate (Host.logPath dir), log),
        fs'.put (h.locate (Host.logPath dir)) (.log log)) := by
  have hfound : findDirectory h fs = (.ok dir, fs) := by
    rw [findDirectory, hdir]
    rfl
  have hget : ∀ fs : Files, (get : Action Files Files) fs = (.ok fs, fs) := fun _ => rfl
  have hdirectory : makeDirectory h dir fs = (.ok (), fs') := by
    simp only [makeDirectory, bind_apply, hget, hmade, orFail, pure_apply]
    rfl
  have hopened : openLog h dir fs' =
      (.ok log, fs'.put (h.locate (Host.logPath dir)) (.log log)) := by
    simp only [openLog, bind_apply, hget, hread, orFail, pure_apply,
      EventLog.prepare_opened hlog]
    rfl
  rw [openRecorder_eq, opening, bind_apply, hfound]
  dsimp only
  rw [bind_apply, hdirectory]
  dsimp only
  rw [bind_apply, hopened]
  rfl

/-- More ids may be given. -/
theorem LogsKnown.mono {ids' : List UInt64} (hsub : ids ⊆ ids')
    (hfs : fs.Every (LogsKnown ids)) : fs.Every (LogsKnown ids') := by
  intro l log hlog
  obtain ⟨hcatalog, hids⟩ := hfs l log hlog
  exact ⟨hcatalog, fun e he => hsub (hids e he)⟩

/-- A run adds its id at most. -/
theorem logsKnown_run (args : List String) (hfs : fs.Every (LogsKnown ids)) :
    (run h args fs).files.Every (LogsKnown (eventId h :: ids)) := by
  have hsub : ids ⊆ eventId h :: ids := List.subset_cons_self _ _
  apply run_every (LogsKnown.mono hsub hfs)
  · exact fun i => LogsKnown.mono hsub (logsKnown_ended hfs)
  · intro l log log' e hopened hrecord
    obtain ⟨-, -, hcatalog, hids⟩ := openRecorder_log hopened hfs
    obtain rfl := EventLog.insert_entries hrecord
    rintro _ ⟨⟩
    refine ⟨hcatalog, ?_⟩
    intro e' he'
    rcases List.mem_append.mp he' with hold | hadded
    · exact List.mem_cons_of_mem _ (hids e' hold)
    · obtain rfl := List.mem_singleton.mp hadded
      exact List.mem_cons_self

/-- Some runs add their ids at most. -/
theorem logsKnown_after (runs : List (Host × List String)) (hfs : fs.Every (LogsKnown ids)) :
    (after fs runs).Every (LogsKnown (runs.map (fun r => eventId r.1) ++ ids)) := by
  induction runs generalizing fs ids with
  | nil => exact hfs
  | cons r runs ih =>
      refine LogsKnown.mono ?_ (ih (logsKnown_run r.2 hfs))
      simp

end Log

/-! ### Agreement -/

/-- The log at a location has one more event, which tells of the end of the
command. -/
def AddsEvent (h : Host) (i : Invocation) (fs : Files) (r : Report) (l : Location) : Prop :=
  ∃ entry, events r.files l = events fs l ++ [entry] ∧
    Ending.EntryTells entry (Ending.of (ended h i fs).1)

/-- What a run leaves behind agrees with the end of its command: the exit
code, the envelope that is printed as JSON, and the event that is added to the
log if it can be opened.  The event is lost just where its id is taken.  A
command on the event log adds none. -/
structure Agrees (h : Host) (i : Invocation) (fs : Files) (r : Report) : Prop where
  exitCode : r.exitCode = (Ending.of (ended h i fs).1).exitCode
  envelope : ∀ kind, Ending.of (ended h i fs).1 = .failed kind → i.json = true →
    ∃ j, Json.parse? r.stdout = some j ∧ Ending.EnvelopeTells kind j
  recorded : i.command.isRecorded = true → ∀ l log, (openRecorder h fs).1 = some (l, log) →
    (∀ e ∈ events fs l, e.id ≠ eventId h) → AddsEvent h i fs r l
  lost : i.command.isRecorded = true → ∀ l log, (openRecorder h fs).1 = some (l, log) →
    (∃ e ∈ events fs l, e.id = eventId h) → events r.files l = events fs l
  elsewhere : i.command.isRecorded = true → ∀ l,
    (∀ log, (openRecorder h fs).1 ≠ some (l, log)) → events r.files l = events fs l
  unrecorded : i.command.isRecorded = false → ∀ l, (events r.files l).Sublist (events fs l)

section

variable {h : Host} {i : Invocation} {fs : Files} {ids : List UInt64} {args : List String}
variable {l : Location} {log : EventLog}

/-- An event that describes a failure tells of it. -/
theorem entryTells_describe (f : Failure) {e : LogEvent} (hname : e.event = "command_failed")
    (hkind : e.errorKind = none) :
    Ending.EntryTells (EventLog.entryOf logSource h.stamp (f.describe e)) (.failed f.kind?) := by
  unfold Failure.describe Failure.kind?
  cases f.cause with
  | none => exact ⟨hname, hkind, rfl⟩
  | some error => exact ⟨hname, rfl, rfl⟩

/-- The event of a command tells of its end. -/
theorem exists_entryTells (c : Command) {result : Except Stop String}
    (hend : (Ending.of result).exitCode ≠ 101) :
    ∃ e, eventOf h c result = some e ∧
      Ending.EntryTells (EventLog.entryOf logSource h.stamp e) (Ending.of result) := by
  cases result with
  | ok text => exact ⟨_, rfl, rfl, rfl, rfl⟩
  | error s =>
      unfold Ending.of eventOf at *
      dsimp only at *
      cases hf : s.failure? with
      | none =>
          rw [hf] at hend
          exact absurd rfl hend
      | some f => exact ⟨_, rfl, entryTells_describe f rfl rfl⟩

/-- What is printed of a failure as JSON. -/
theorem stdout_conclude (color : Bool) {result : Except Stop String} {kind : Option ErrorKind}
    (hend : Ending.of result = .failed kind) (fs : Files) :
    ∃ f : Failure, f.kind? = kind ∧
      (conclude color true result fs).stdout = jsonText f.envelope.toJson := by
  cases result with
  | ok text => cases hend
  | error s =>
      unfold Ending.of conclude at *
      dsimp only at *
      cases hf : s.failure? with
      | none =>
          rw [hf] at hend
          cases hend
      | some f =>
          rw [hf] at hend
          cases hend
          exact ⟨f, rfl, rfl⟩

theorem exitCode_run (hargs : parse args = .ok i) :
    (run h args fs).exitCode = (Ending.of (ended h i fs).1).exitCode := by
  rw [run_eq hargs, exitCode_conclude]

/-- A run that does not break off has an event, which tells of its end. -/
theorem exists_eventOf_run (hargs : parse args = .ok i)
    (hend : (run h args fs).exitCode ≠ 101) :
    ∃ e, eventOf h i.command (ended h i fs).1 = some e ∧
      Ending.EntryTells (EventLog.entryOf logSource h.stamp e) (Ending.of (ended h i fs).1) := by
  rw [exitCode_run hargs] at hend
  exact exists_entryTells i.command hend

theorem files_run (hargs : parse args = .ok i) (h : Host) (fs : Files) :
    (run h args fs).files = recordEvent h (recorder h i fs)
      (eventOf h i.command (ended h i fs).1) (ended h i fs).2 := by
  rw [run_eq hargs, conclude_files]

/-- The event of a run goes into the log that was opened for it, unless the log
refuses it; other logs stay. -/
theorem events_run (hargs : parse args = .ok i) (hrecorded : i.command.isRecorded = true)
    (hopened : (openRecorder h fs).1 = some (l, log)) {e : LogEvent}
    (hevent : eventOf h i.command (ended h i fs).1 = some e) :
    (events (run h args fs).files l =
      match log.record logSource h.stamp e with
      | .ok log' => log'.entries
      | .error _ => events fs l) ∧
      ∀ l' ≠ l, events (run h args fs).files l' = events fs l' := by
  obtain ⟨hroot, -⟩ := openRecorder_entries hopened
  have hkept : ∀ l', events (ended h i fs).2 l' = events fs l' := events_ended hrecorded
  rw [files_run hargs, recorder, if_pos hrecorded, hopened, hevent, recordEvent]
  cases log.record logSource h.stamp e with
  | error fault => exact ⟨hkept l, fun l' _ => hkept l'⟩
  | ok log' =>
      refine ⟨?_, fun l' hl' => ?_⟩
      · rw [events, Files.file?_put hroot (by simp), if_pos rfl]
        rfl
      · rw [events, Files.file?_put hroot (by simp), if_neg hl']
        exact hkept l'

/-- Where the id of a run is new its event is added, -/
theorem addsEvent_run (hargs : parse args = .ok i) (hend : (run h args fs).exitCode ≠ 101)
    (hfs : fs.Every (LogsKnown ids)) (hrecorded : i.command.isRecorded = true)
    (hopened : (openRecorder h fs).1 = some (l, log))
    (hnew : ∀ e ∈ events fs l, e.id ≠ eventId h) :
    AddsEvent h i fs (run h args fs) l := by
  obtain ⟨e, hevent, htells⟩ := exists_eventOf_run hargs hend
  obtain ⟨-, hentries, hcatalog, -⟩ := openRecorder_log hopened hfs
  have hfresh : ∀ e' ∈ log.entries, e'.id ≠ (EventLog.entryOf logSource h.stamp e).id := by
    rw [hentries]
    exact hnew
  have hrecord : log.record logSource h.stamp e = _ := EventLog.insert_ok hcatalog hfresh
  obtain ⟨hadded, -⟩ := events_run hargs hrecorded hopened hevent
  rw [hrecord] at hadded
  dsimp only at hadded
  rw [hentries] at hadded
  exact ⟨_, hadded, htells⟩

/-- and where it is taken the event is lost. -/
theorem events_run_of_taken (hargs : parse args = .ok i) (hend : (run h args fs).exitCode ≠ 101)
    (hrecorded : i.command.isRecorded = true) (hopened : (openRecorder h fs).1 = some (l, log))
    (htaken : ∃ e ∈ events fs l, e.id = eventId h) :
    events (run h args fs).files l = events fs l := by
  obtain ⟨e, hevent, -⟩ := exists_eventOf_run hargs hend
  obtain ⟨-, hentries⟩ := openRecorder_entries hopened
  rw [← hentries] at htaken
  obtain ⟨fault, hrefused⟩ : ∃ fault, log.record logSource h.stamp e = .error fault :=
    EventLog.insert_of_taken htaken
  obtain ⟨hkept, -⟩ := events_run hargs hrecorded hopened hevent
  rw [hrefused] at hkept
  exact hkept

/-- **A run agrees with the end of its command.** -/
theorem agrees_run (hargs : parse args = .ok i) (hend : (run h args fs).exitCode ≠ 101)
    (hfs : fs.Every (LogsKnown ids)) : Agrees h i fs (run h args fs) := by
  obtain ⟨e, hevent, -⟩ := exists_eventOf_run hargs hend
  exact {
    exitCode := exitCode_run hargs
    envelope := by
      intro kind hkind hjson
      rw [run_eq hargs, hjson]
      obtain ⟨f, rfl, htext⟩ := stdout_conclude h.color hkind (recordEvent h
        (recorder h i fs) (eventOf h i.command (ended h i fs).1) (ended h i fs).2)
      rw [htext]
      exact parse?_jsonText_envelope f
    recorded := fun hrecorded _ _ hopened => addsEvent_run hargs hend hfs hrecorded hopened
    lost := fun hrecorded _ _ hopened => events_run_of_taken hargs hend hrecorded hopened
    elsewhere := by
      intro hrecorded l hother
      cases hopened : (openRecorder h fs).1 with
      | none =>
          rw [files_run hargs, recorder, if_pos hrecorded, hopened]
          exact events_ended hrecorded l
      | some opened =>
          obtain ⟨l', log⟩ := opened
          have hne : l ≠ l' := by
            rintro rfl
            exact hother log hopened
          exact (events_run hargs hrecorded hopened hevent).2 l hne
    unrecorded := by
      intro hrecorded l
      have hnone : recorder h i fs = none := by
        rw [recorder, hrecorded]
        rfl
      rw [files_run hargs, hnone]
      have hamong : (ended h i fs).2.Every fun l n =>
          (entriesOf n).Sublist (events fs l) := by
        apply ended_every (keptByOpening_entries fun l es => es.Sublist (events fs l))
        · exact fun _ _ _ hthere => hthere
        · exact fun _ _ _ _ hcleared hthere => hcleared.entries.trans hthere
        · exact fun _ => List.Sublist.refl _
      exact hamong l }

end

/-! ### The clock -/

/-- The clock goes on from run to run: the ids of their events are made at
later and later milliseconds, of those for which an id has room. -/
structure ClockGoesOn (runs : List (Host × List String)) : Prop where
  ascending : (runs.map fun r => r.1.stamp.idTime.toMillis).Pairwise (· < ·)
  inRange : ∀ r ∈ runs, 0 ≤ r.1.stamp.idTime.toMillis ∧
    r.1.stamp.idTime.toMillis < 281474976710656

/-- Whatever the counters show, the ids differ. -/
theorem ClockGoesOn.nodup_eventIds {runs : List (Host × List String)} (h : ClockGoesOn runs) :
    (runs.map fun r => eventId r.1).Nodup := by
  have hascending := h.ascending
  rw [List.pairwise_map] at hascending
  rw [List.Nodup, List.pairwise_map]
  refine hascending.imp_of_mem ?_
  intro r r' hr hr' hlt heq
  have hbounds := h.inRange r hr
  have hbounds' := h.inRange r' hr'
  -- the counter takes up the low bits alone
  have hvalues := congrArg UInt64.toNat heq
  simp only [eventId, EventLog.entryId, UInt64.toNat_ofNat'] at hvalues
  omega

/-- **Runs agree with the ends of their commands.**  Take any sequence of runs
from files without an event log.  The exit code, the envelope and the event of
a run that does not break off tell of the same end; the event is lost just where
its id is taken, and never while the clock goes on. -/
theorem runs_agree {start : Files} (hstart : ∀ l log, start.node? l ≠ some (.log log))
    {before : List (Host × List String)} {h : Host} {args : List String} {i : Invocation}
    (hargs : parse args = .ok i) (hend : (run h args (after start before)).exitCode ≠ 101) :
    Agrees h i (after start before) (run h args (after start before)) ∧
      (ClockGoesOn (before ++ [(h, args)]) → i.command.isRecorded = true →
        ∀ l log, (openRecorder h (after start before)).1 = some (l, log) →
          AddsEvent h i (after start before) (run h args (after start before)) l) := by
  have hnone : start.Every (LogsKnown []) := by
    intro l log hlog
    exact absurd (Files.node?_of_file? hlog) (hstart l log)
  have hknown := logsKnown_after before hnone
  have hagrees := agrees_run hargs hend hknown
  refine ⟨hagrees, ?_⟩
  intro hclock hrecorded l log hopened
  have hids := hclock.nodup_eventIds
  have hnew : eventId h ∉ before.map (fun r => eventId r.1) ++ [] := by
    rw [List.append_nil]
    intro hmem
    rw [List.map_append, List.nodup_append] at hids
    exact hids.2.2 _ hmem _ List.mem_cons_self rfl
  -- the ids in the log are those of earlier runs
  obtain ⟨-, hentries, -, hearlier⟩ := openRecorder_log hopened hknown
  rw [hentries] at hearlier
  exact hagrees.recorded hrecorded l log hopened fun e he heq => hnew (heq ▸ hearlier e he)

/-- The files behind the status of a first ledger. -/
def answered : Files :=
  after {} [(bareHost "a", ["status"])]

/-- A host that gives the directory of that ledger, but a ledger of its own,
and shows a time. -/
def otherHost (time : Instant) : Host :=
  { bareHost "b" with
    environment := fun name =>
      if name = "TALLY_DB_FILE" then some "other.duckdb" else (bareHost "b").environment name
    stamp := { idTime := time, counter := 0, time } }

/-- The two ledgers have one event log. -/
theorem openRecorder_answered (time : Instant) :
    let l := ["tally", "logs.duckdb"]
    let log : EventLog := { catalog := EventLog.openedCatalog, entries := events answered l }
    openRecorder (otherHost time) answered = (some (l, log), answered.put l (.log log)) := by
  intro l log
  have hmade : answered.createDirectory ["tally"] = .ok answered := by decide +kernel
  have hread : answered.openLog l = .ok log := by decide +kernel
  exact @openRecorder_of_opened (otherHost time) answered log "/tally" answered rfl hmade hread rfl

/-- A second after that status, an account is asked for that is not there. -/
theorem runs_agree_of_missing_account :
    let h := otherHost { seconds := 1, nanos := 0 }
    let args := ["--json", "account", "show", "7"]
    let i : Invocation := { json := true, command := .account (.info 7) }
    ClockGoesOn [(bareHost "a", ["status"]), (h, args)] ∧ (run h args answered).exitCode = 2 ∧
      Agrees h i answered (run h args answered) ∧
      AddsEvent h i answered (run h args answered) ["tally", "logs.duckdb"] := by
  intro h args i
  have hclock : ClockGoesOn [(bareHost "a", ["status"]), (h, args)] :=
    { ascending := by decide
      inRange := by decide }
  have hargs : parse args = .ok i := by decide +kernel
  have hopened := openRecorder_answered { seconds := 1, nanos := 0 }
  have hended : ended h i answered = i.action h (openRecorder h answered).2 := rfl
  have hcode : (run h args answered).exitCode = 2 := by
    rw [exitCode_run hargs, hended, hopened]
    decide +kernel
  have hstart : ∀ l log, ({} : Files).node? l ≠ some (.log log) := by
    rintro (- | ⟨name, l⟩) log ⟨⟩
  have hend : (run h args answered).exitCode ≠ 101 := by
    rw [hcode]
    decide
  obtain ⟨hagrees, hadds⟩ :=
    @runs_agree {} hstart [(bareHost "a", ["status"])] h args i hargs hend
  exact ⟨hclock, hcode, hagrees, hadds hclock rfl _ _ (congrArg Prod.fst hopened)⟩

/-- Asked for the status at one reading of the clock, both ledgers answer, and
the log can be opened, but the second run leaves no event. -/
theorem runs_disagree_at_one_reading :
    let h := otherHost (bareHost "a").stamp.idTime
    let i : Invocation := { json := false, command := .status }
    let l := ["tally", "logs.duckdb"]
    parse ["status"] = .ok i ∧ (run (bareHost "a") ["status"] {}).exitCode = 0 ∧
      (run h ["status"] answered).exitCode = 0 ∧
      (∃ log, (openRecorder h answered).1 = some (l, log)) ∧
      events (run h ["status"] answered).files l = events answered l ∧
      ¬ AddsEvent h i answered (run h ["status"] answered) l := by
  intro h i l
  have hargs : parse ["status"] = .ok i := by decide +kernel
  have hopened := openRecorder_answered (bareHost "a").stamp.idTime
  have hended : ended h i answered = i.action h (openRecorder h answered).2 := rfl
  have hcode : (run h ["status"] answered).exitCode = 0 := by
    rw [exitCode_run hargs, hended, hopened]
    decide +kernel
  have hend : (run h ["status"] answered).exitCode ≠ 101 := by
    rw [hcode]
    decide
  have htaken : ∃ e ∈ events answered l, e.id = eventId h := by decide +kernel
  have hlost := events_run_of_taken hargs hend rfl (congrArg Prod.fst hopened) htaken
  refine ⟨hargs, by decide +kernel, hcode, ⟨_, congrArg Prod.fst hopened⟩, hlost, ?_⟩
  rintro ⟨entry, hadded, -⟩
  rw [hlost] at hadded
  exact List.cons_ne_nil entry [] (List.self_eq_append_right.mp hadded)

end CommandLine

end DoubleEntry
