/-
DoubleEntry/Proofs/EventLog/Tables.lean

The tables of an event log.  Opening a log brings its tables up to date and
leaves the entries as they are; a log that has been opened is opened again
without any change.  An entry is added if its id is new, and refused if it is
taken.
-/
import DoubleEntry.EventLog.Log
import DoubleEntry.Proofs.Migration.AllOrNothing

namespace DoubleEntry.EventLog

variable {log log' : EventLog}

/-! ### Opening -/

/-- The catalog of an event log that has been opened. -/
def openedCatalog : Catalog :=
  (Migration.runPending Migration.eventLog {}).2

theorem entries_prepare (h : log.prepare = .ok log') : log'.entries = log.entries := by
  unfold prepare at h
  split at h
  case h_1 =>
    obtain rfl := Except.ok.inj h
    rfl
  case h_2 => cases h

theorem catalog_prepare_empty (h : ({} : EventLog).prepare = .ok log) :
    log.catalog = openedCatalog := by
  have hprepared : ({} : EventLog).prepare = .ok { catalog := openedCatalog } := by decide +kernel
  obtain rfl := Except.ok.inj (hprepared.symm.trans h)
  rfl

/-- A log that has been opened is opened again as it is. -/
theorem prepare_opened (hlog : log.catalog = openedCatalog) : log.prepare = .ok log := by
  obtain ⟨report, hran⟩ : ∃ report, Migration.runPending Migration.eventLog openedCatalog =
      (.ok report, openedCatalog) :=
    Migration.runPending_of_recorded (by decide +kernel) (by decide +kernel) (by decide +kernel)
  unfold prepare
  rw [hlog, hran, ← hlog]

theorem catalog_prepare (h : log.prepare = .ok log') (hlog : log.catalog = openedCatalog) :
    log'.catalog = openedCatalog := by
  rw [prepare_opened hlog] at h
  cases h
  exact hlog

theorem hasTable_openedCatalog : openedCatalog.hasTable Migration.logTable.name = true := by
  decide +kernel

/-! ### Adding entries -/

/-- An entry with a new id is added. -/
theorem insert_ok {entry : LogEntry} (hlog : log.catalog = openedCatalog)
    (hnew : ∀ e ∈ log.entries, e.id ≠ entry.id) :
    log.insert entry = .ok { log with entries := log.entries ++ [entry] } := by
  unfold insert
  rw [hlog, hasTable_openedCatalog]
  have hany : (log.entries.any fun e => e.id = entry.id) = false := by
    simpa using hnew
  rw [hany]
  rfl

/-- An entry with an id that is taken is refused. -/
theorem insert_of_taken {entry : LogEntry} (h : ∃ e ∈ log.entries, e.id = entry.id) :
    ∃ e, log.insert entry = .error e := by
  unfold insert
  split
  · exact ⟨_, rfl⟩
  · have hany : (log.entries.any fun e => e.id = entry.id) = true := by
      simpa using h
    rw [hany]
    exact ⟨_, rfl⟩

theorem insert_entries {entry : LogEntry} (h : log.insert entry = .ok log') :
    log' = { log with entries := log.entries ++ [entry] } := by
  unfold insert at h
  split at h
  · cases h
  · split at h
    · cases h
    · exact (Except.ok.inj h).symm

end DoubleEntry.EventLog
