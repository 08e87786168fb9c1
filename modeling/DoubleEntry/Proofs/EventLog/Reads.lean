/-
DoubleEntry/Proofs/EventLog/Reads.lean

Runs of an event log.  Events are recorded, old entries are deleted and the
log is opened again, in any order; an event whose id is taken is lost.  After
every run the log has its tables and no two entries share an id
(`EventLog.Sound`, kept by each step: `Sound.run`), so that all readings agree
(`reads_agree`).

An event that is made step by step, in whatever order its parts are given, has
a text with its kind (`LogEvent.IsBuilt.explained`); if all events are, no kind
of error is left out of the counts.
-/
import DoubleEntry.CommandLine.LogSession
import DoubleEntry.Proofs.EventLog.Listing
import DoubleEntry.Proofs.EventLog.Tables

namespace DoubleEntry

open CommandLine

/-! ### Events that are made step by step -/

namespace LogEvent

/-- An event that was named and then given more, in any order and as often as
wanted. -/
inductive IsBuilt : LogEvent → Prop
  | new (event : String) : IsBuilt (.new event)
  | withCommand {e : LogEvent} (command : String) (h : IsBuilt e) : IsBuilt (e.withCommand command)
  | withOperationId {e : LogEvent} (operationId : String) (h : IsBuilt e) :
      IsBuilt (e.withOperationId operationId)
  | withError {e : LogEvent} (error : Error) (h : IsBuilt e) : IsBuilt (e.withError error)
  | withErrorMessage {e : LogEvent} (message : String) (h : IsBuilt e) :
      IsBuilt (e.withErrorMessage message)

/-- With the kind of an error there is its text. -/
def Explained (e : LogEvent) : Prop :=
  e.errorKind.isSome = true → e.errorMessage.isSome = true

theorem IsBuilt.explained {e : LogEvent} (h : e.IsBuilt) : e.Explained := by
  induction h with
  | new event =>
      intro hkind
      cases hkind
  | withCommand command h ih => exact ih
  | withOperationId operationId h ih => exact ih
  | withError error h ih =>
      intro _
      rfl
  | withErrorMessage message h ih =>
      intro _
      rfl

end LogEvent

/-! ### Runs -/

/-- What can be done with an event log. -/
inductive LogStep where
  | record (source : LogSource) (stamp : Stamp) (e : LogEvent)
  | deleteBefore (ms : Int)
  | reopen

namespace LogStep

/-- The log after a step.  If the step fails, the log stays as it is. -/
def run : LogStep → EventLog → EventLog
  | record source stamp e, log =>
      match log.record source stamp e with
      | .ok log => log
      | .error _ => log
  | deleteBefore ms, log => (log.deleteBefore ms).2
  | reopen, log =>
      match log.prepare with
      | .ok log => log
      | .error _ => log

/-- Whatever event the step records was made step by step. -/
def Builds : LogStep → Prop
  | record _ _ e => e.IsBuilt
  | deleteBefore _ => True
  | reopen => True

end LogStep

namespace EventLog

variable {log : EventLog} {all : List LogEntry}

/-- A log that has just been opened for the first time. -/
def opened : EventLog :=
  { catalog := openedCatalog }

/-- The log after a run. -/
def after (log : EventLog) : List LogStep → EventLog
  | [] => log
  | step :: rest => (step.run log).after rest

/-- What every step keeps: the tables are there, and no two entries share an
id. -/
structure Sound (log : EventLog) : Prop where
  catalog : log.catalog = openedCatalog
  ids : (log.entries.map (·.id)).Nodup

/-- In every entry there is a text with the kind of an error. -/
def Explained (log : EventLog) : Prop :=
  ∀ e ∈ log.entries, e.errorKind.isSome = true → e.errorMessage.isSome = true

/-! ### Each step -/

/-- An event is recorded at the end, under an id that was not there, or it is
lost. -/
theorem run_record (source : LogSource) (stamp : Stamp) (e : LogEvent) (log : EventLog) :
    (LogStep.record source stamp e).run log = log ∨
      (entryOf source stamp e).id ∉ log.entries.map (·.id) ∧
        (LogStep.record source stamp e).run log =
          { log with entries := log.entries ++ [entryOf source stamp e] } := by
  simp only [LogStep.run, record, insert]
  split
  case h_2 => exact .inl rfl
  case h_1 log' hinserted =>
    split at hinserted
    case isTrue => cases hinserted
    case isFalse =>
      split at hinserted
      case isTrue => cases hinserted
      case isFalse hnew =>
        cases hinserted
        refine .inr ⟨?_, rfl⟩
        simpa using hnew

theorem run_reopen (hlog : log.catalog = openedCatalog) : LogStep.reopen.run log = log := by
  simp only [LogStep.run, prepare_opened hlog]

theorem Sound.run (h : log.Sound) (step : LogStep) : (step.run log).Sound := by
  cases step with
  | record source stamp e =>
      rcases run_record source stamp e log with hlost | ⟨hnew, hrecorded⟩
      · rw [hlost]
        exact h
      · rw [hrecorded]
        refine ⟨h.catalog, ?_⟩
        rw [List.map_append, List.map_singleton, ← List.concat_eq_append, List.nodup_concat]
        exact ⟨hnew, h.ids⟩
  | deleteBefore ms => exact ⟨h.catalog, h.ids.sublist (List.filter_sublist.map _)⟩
  | reopen =>
      rw [run_reopen h.catalog]
      exact h

theorem Explained.run (h : log.Explained) (hlog : log.Sound) {step : LogStep}
    (hstep : step.Builds) : (step.run log).Explained := by
  cases step with
  | record source stamp e =>
      rcases run_record source stamp e log with hlost | ⟨-, hrecorded⟩
      · rw [hlost]
        exact h
      · rw [hrecorded]
        exact List.forall_mem_append.mpr ⟨h, List.forall_mem_singleton.mpr hstep.explained⟩
  | deleteBefore ms => exact fun e he => h e (List.mem_of_mem_filter he)
  | reopen =>
      rw [run_reopen hlog.catalog]
      exact h

/-! ### All steps -/

theorem Sound.after (h : log.Sound) (steps : List LogStep) : (log.after steps).Sound := by
  induction steps generalizing log with
  | nil => exact h
  | cons step steps ih => exact ih (h.run step)

theorem Explained.after (h : log.Explained) (hlog : log.Sound) {steps : List LogStep}
    (hsteps : ∀ step ∈ steps, step.Builds) : (log.after steps).Explained := by
  induction steps generalizing log with
  | nil => exact h
  | cons step steps ih =>
      obtain ⟨hstep, hrest⟩ := List.forall_mem_cons.mp hsteps
      exact ih (h.run hlog hstep) (hlog.run step) hrest

theorem sound_opened : opened.Sound where
  catalog := rfl
  ids := .nil

theorem explained_opened : opened.Explained := by
  intro e he
  cases he

/-! ### What is read after a run -/

/-- The entries from before a time are deleted, and their number is given; the
others are read as before. -/
structure DeletesBefore (log : EventLog) (all : List LogEntry) (ms : Int) : Prop where
  deleted : (log.deleteBefore ms).1 = (all.filter (·.timestamp.toInt < ms)).length
  kept : ReadsAgree (log.deleteBefore ms).2 (all.filter (ms ≤ ·.timestamp.toInt))

theorem Sound.deletesBefore (h : log.Sound) (hall : NewestFirst log.entries all) (ms : Int) :
    DeletesBefore log all ms where
  deleted := ((hall.filter _).perm.length_eq).symm
  kept := by
    have hsame : (fun e : LogEntry => decide (ms ≤ e.timestamp.toInt)) =
        fun e => !decide (e.timestamp.toInt < ms) := by
      funext e
      rw [← decide_not]
      exact decide_eq_decide.mpr Int.not_lt.symm
    rw [hsame]
    exact (hall.filter _).readsAgree (h.run (.deleteBefore ms)).ids

/-- The command that shows what is known about a log shows this. -/
structure StatsAgree (log : EventLog) (all : List LogEntry) (s : LogSession) (stats : LogStats) :
    Prop where
  shown : s.stats log =
    (.ok (if s.json then jsonText stats.toJson else stats.text s.color), log)
  total : stats.total = all.length
  errors : stats.errors = (all.filter (·.errorMessage.isSome)).length
  byKind : stats.byKind = log.errorCounts

theorem ReadsAgree.stats (h : ReadsAgree log all) (s : LogSession) :
    ∃ stats, StatsAgree log all s stats := by
  refine ⟨{ total := log.count, byKind := log.errorCounts, path := s.path, size := s.size },
    ?_, h.count, ?_, rfl⟩
  · unfold LogSession.stats present
    cases s.json <;> rfl
  · have htotal := h.errorCounts.total
    rw [List.length_map] at htotal
    exact htotal

/-- All that is known of a log after a run, and of its entries from the newest
down. -/
structure Agreement (steps : List LogStep) (log : EventLog) (all : List LogEntry) : Prop
    extends ReadsAgree log all where
  /-- The counts add up to the number of errors that are listed without a
  limit. -/
  unlimited : ∀ (limit : UInt64) (es : List LogEntry), log.recentErrors limit = .ok es →
    all.length ≤ limit.toNat → (log.errorCounts.map (·.2)).sum = es.length
  stats : ∀ s : LogSession, ∃ stats, StatsAgree log all s stats
  deletes : ∀ ms : Int, DeletesBefore log all ms
  reopened : log.prepare = .ok log
  /-- If all events were made step by step, every kind is counted. -/
  counted : (∀ step ∈ steps, step.Builds) → ∀ e ∈ all, ∀ k, e.errorKind = some k →
    e.errorMessage.isSome = true ∧ ∃ n, (k, n) ∈ log.errorCounts

/-- A limit under which errors were listed was accepted. -/
theorem limit_lt_of_recentErrors {limit : UInt64} {es : List LogEntry}
    (h : log.recentErrors limit = .ok es) : limit.toNat < 9223372036854775808 := by
  by_contra hrefused
  rw [recentErrors, latest_refused hrefused] at h
  cases h

/-- **All readings of an event log agree.**  After every run there is one list
of the entries from the newest down.  The latest entries are its first ones,
the latest errors the first of its entries that carry an error; the counts by
kind add up to the number of those, which is the number that the statistics
show.  What is deleted by time leaves the rest of the list as it was. -/
theorem reads_agree (steps : List LogStep) :
    ∃ all, Agreement steps (opened.after steps) all := by
  have hsound := sound_opened.after steps
  have hlisted := NewestFirst.mergeSort hsound.ids
  have hagree := hlisted.readsAgree hsound.ids
  refine ⟨_, hagree, ?unlimited, hagree.stats, hsound.deletesBefore hlisted,
    prepare_opened hsound.catalog, ?counted⟩
  case unlimited =>
    intro limit es hes hlimit
    have haccepted := limit_lt_of_recentErrors hes
    have hlength := (List.length_filter_le (·.errorMessage.isSome) _).trans hlimit
    rw [hagree.recentErrors limit haccepted, List.take_of_length_le hlength] at hes
    cases hes
    rw [hagree.errorCounts.total, List.length_map]
  case counted =>
    intro hbuilds e he k hk
    have hexplained := explained_opened.after sound_opened hbuilds
    have hmessage := hexplained e (hlisted.perm.mem_iff.mp he) (by rw [hk]; rfl)
    refine ⟨hmessage, _, (hagree.errorCounts.counted k _).mpr ⟨?_, rfl⟩⟩
    rw [List.count_pos_iff, List.mem_map]
    exact ⟨e, List.mem_filter.mpr ⟨he, hmessage⟩, by rw [countedKind, hk]; rfl⟩

end EventLog

end DoubleEntry
