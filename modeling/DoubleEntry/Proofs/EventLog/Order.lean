/-
DoubleEntry/Proofs/EventLog/Order.lean

The order of the events that one process records.  The id of an entry holds
the time in milliseconds and, below it, the low sixteen bits of a counter that
goes on with every entry and is never set back.

As long as the clock does not go back and fewer than 65536 entries fall into
one millisecond, all ids differ (`nodup_ids`) and every event is recorded
(`recordAll_eq`).  They are listed in the order in which they were recorded,
the last one first, exactly if the low bits do not start again from zero
between two of them that share a millisecond (`record_order`); if they do, the
later ones are listed below the earlier ones (`record_order_lost`).
-/
import DoubleEntry.Proofs.EventLog.Reads

namespace DoubleEntry.EventLog

variable {log : EventLog} {counter i j : Nat}

/-! ### Recordings -/

/-- An event that is recorded, and what the clock shows meanwhile: first for
the id, and then for the time of the entry. -/
structure Recording where
  source : LogSource
  event : LogEvent
  idTime : Instant
  time : Instant

namespace Recording

/-- The time of the id in milliseconds. -/
def idMillis (r : Recording) : Int :=
  r.idTime.toMillis

/-- The time of the entry in milliseconds. -/
def millis (r : Recording) : Int :=
  r.time.toMillis

/-- What the clock and the counter show. -/
def stamp (r : Recording) (counter : Nat) : Stamp :=
  { idTime := r.idTime, counter, time := r.time }

/-- The entry of the event. -/
def entry (r : Recording) (counter : Nat) : LogEntry :=
  entryOf r.source (r.stamp counter) r.event

end Recording

variable {rs : List Recording}

/-- Records events one after the other; the counter goes on with each. -/
def recordAll (counter : Nat) : List Recording → EventLog → Except Fault EventLog
  | [], log => .ok log
  | r :: rest, log => do
      let log ← log.record r.source (r.stamp counter) r.event
      recordAll (counter + 1) rest log

/-- The entries of events that are recorded one after the other. -/
def entriesFrom (counter : Nat) (rs : List Recording) : List LogEntry :=
  rs.mapIdx fun i r => r.entry (counter + i)

theorem entriesFrom_cons (r : Recording) :
    entriesFrom counter (r :: rs) = r.entry counter :: entriesFrom (counter + 1) rs := by
  unfold entriesFrom
  rw [List.mapIdx_cons]
  simp only [Nat.add_zero, Nat.add_comm 1, Nat.add_assoc]

/-- The clock does not go back while events are recorded, fewer than 65536 of
them fall into one millisecond, and what is in the log is from before. -/
structure Paced (log : EventLog) (rs : List Recording) : Prop where
  range : ∀ r ∈ rs, 0 ≤ r.idMillis ∧ r.millis < 281474976710656
  within : ∀ r ∈ rs, r.idMillis ≤ r.millis
  forward : rs.Pairwise fun r r' => r.millis ≤ r'.idMillis
  few : ∀ ms : Int, (rs.countP fun r => r.idMillis = ms) < 65536
  earlier : ∀ e ∈ log.entries, ∀ r ∈ rs,
    e.timestamp.toInt < r.idMillis ∧ (e.id.toNat : Int) < r.idMillis * 65536

/-- The low bits of the counter do not start again between two entries of one
millisecond. -/
def KeepsCounting (counter : Nat) (rs : List Recording) : Prop :=
  ∀ (i : Nat) (hi : i < rs.length) (j : Nat) (hj : j < rs.length), i < j →
    rs[i].idMillis = rs[j].millis → (counter + i) / 65536 = (counter + j) / 65536

/-! ### Ids and times -/

theorem toNat_entryId {ms : Int} (hlow : 0 ≤ ms) (hhigh : ms < 281474976710656) :
    ((entryId ms counter).toNat : Int) = ms * 65536 + (counter % 65536 : Nat) := by
  unfold entryId
  rw [UInt64.toNat_ofNat']
  omega

namespace Paced

theorem toNat_id (h : Paced log rs) (counter : Nat) {r : Recording} (hr : r ∈ rs) :
    ((r.entry counter).id.toNat : Int) = r.idMillis * 65536 + (counter % 65536 : Nat) := by
  obtain ⟨hlow, hhigh⟩ := h.range r hr
  exact toNat_entryId hlow (Int.lt_of_le_of_lt (h.within r hr) hhigh)

theorem toInt_timestamp (h : Paced log rs) (counter : Nat) {r : Recording} (hr : r ∈ rs) :
    (r.entry counter).timestamp.toInt = r.millis := by
  obtain ⟨hlow, hhigh⟩ := h.range r hr
  have hwithin := h.within r hr
  show (Int64.ofInt r.millis).toInt = r.millis
  exact Int64.toInt_ofInt_of_le (by omega) (by omega)

/-- The readings of the clock for two events. -/
theorem readings (h : Paced log rs) (hi : i < rs.length) (hj : j < rs.length) (hij : i < j) :
    rs[i].idMillis ≤ rs[i].millis ∧ rs[i].millis ≤ rs[j].idMillis ∧
      rs[j].idMillis ≤ rs[j].millis :=
  ⟨h.within _ (List.getElem_mem hi), List.pairwise_iff_getElem.mp h.forward i j hi hj hij,
    h.within _ (List.getElem_mem hj)⟩

/-- From one of two events of a millisecond to the other there are fewer than
65536. -/
theorem lt_of_idMillis_eq (h : Paced log rs) (hi : i < rs.length) (hj : j < rs.length)
    (hij : i < j) (hsame : rs[i].idMillis = rs[j].idMillis) : j < i + 65536 := by
  let between := (rs.drop i).take (j - i)
  have hall : ∀ r ∈ between, r.idMillis = rs[j].idMillis := by
    intro r hr
    obtain ⟨k, hk, rfl⟩ := List.mem_take_iff_getElem.mp hr
    rw [List.getElem_drop]
    cases k with
    | zero => exact hsame
    | succ k =>
        have hk' : i + (k + 1) < j := by omega
        have hlater := h.readings hi (hk'.trans hj) (by omega)
        have hearlier := h.readings (hk'.trans hj) hj hk'
        omega
  have hcount : between.countP (fun r => r.idMillis = rs[j].idMillis) = between.length :=
    List.countP_eq_length.mpr fun r hr => decide_eq_true (hall r hr)
  have hsub : between.Sublist rs := (List.take_sublist _ _).trans (List.drop_sublist _ _)
  have hle := hsub.countP_le (p := fun r => r.idMillis = rs[j].idMillis)
  have hfew := h.few rs[j].idMillis
  have hlength : between.length = j - i := by
    rw [List.length_take, List.length_drop]
    omega
  omega

/-- The ids of two events differ. -/
theorem id_ne (h : Paced log rs) (hi : i < rs.length) (hj : j < rs.length) (hij : i < j) :
    (rs[i].entry (counter + i)).id ≠ (rs[j].entry (counter + j)).id := by
  intro hsame
  have hid := h.toNat_id (counter + i) (List.getElem_mem hi)
  have hid' := h.toNat_id (counter + j) (List.getElem_mem hj)
  rw [hsame] at hid
  have hms : rs[i].idMillis = rs[j].idMillis := by omega
  have hfew := h.lt_of_idMillis_eq hi hj hij hms
  omega

/-- The later of two events is listed first, unless the low bits of the counter
start again between them in one millisecond. -/
theorem isNewer_iff (h : Paced log rs) (hi : i < rs.length) (hj : j < rs.length) (hij : i < j) :
    IsNewer (rs[j].entry (counter + j)) (rs[i].entry (counter + i)) ↔
      (rs[i].idMillis = rs[j].millis →
        (counter + i) / 65536 = (counter + j) / 65536) := by
  have hid := h.toNat_id (counter + i) (List.getElem_mem hi)
  have hid' := h.toNat_id (counter + j) (List.getElem_mem hj)
  have hreadings := h.readings hi hj hij
  have hfew := h.lt_of_idMillis_eq hi hj hij
  unfold IsNewer
  rw [← Int64.toInt_inj, h.toInt_timestamp _ (List.getElem_mem hj),
    h.toInt_timestamp _ (List.getElem_mem hi)]
  omega

end Paced

/-! ### Recording all events -/

theorem length_entriesFrom : (entriesFrom counter rs).length = rs.length :=
  List.length_mapIdx

theorem getElem_entriesFrom (hi : i < rs.length) (hi' : i < (entriesFrom counter rs).length) :
    (entriesFrom counter rs)[i] = rs[i].entry (counter + i) :=
  List.getElem_mapIdx

/-- No two events get the same id. -/
theorem Paced.nodup_ids (h : Paced log rs) (counter : Nat) :
    ((entriesFrom counter rs).map (·.id)).Nodup := by
  rw [List.Nodup, List.pairwise_map, List.pairwise_iff_getElem]
  intro i j hi hj hij
  have hi' : i < rs.length := length_entriesFrom ▸ hi
  have hj' : j < rs.length := length_entriesFrom ▸ hj
  rw [getElem_entriesFrom hi', getElem_entriesFrom hj']
  exact h.id_ne hi' hj' hij

/-- What was in the log is listed below. -/
theorem Paced.isNewer_of_mem (h : Paced log rs) {e e' : LogEntry} (he : e ∈ log.entries)
    (he' : e' ∈ entriesFrom counter rs) : IsNewer e' e ∧ e.id ≠ e'.id := by
  obtain ⟨i, hi, rfl⟩ := List.mem_iff_getElem.mp he'
  have hi' : i < rs.length := length_entriesFrom ▸ hi
  have hr := List.getElem_mem hi'
  rw [getElem_entriesFrom hi']
  obtain ⟨hearlier, hlower⟩ := h.earlier e he _ hr
  constructor
  · left
    rw [h.toInt_timestamp _ hr]
    exact Int.lt_of_lt_of_le hearlier (h.within _ hr)
  · intro hsame
    have hid := h.toNat_id (counter + i) hr
    rw [← hsame] at hid
    omega

/-- With the new ids all ids still differ. -/
theorem Paced.nodup_all (h : Paced log rs) (hlog : log.Sound) (counter : Nat) :
    ((log.entries ++ entriesFrom counter rs).map (·.id)).Nodup := by
  rw [List.map_append, List.nodup_append]
  refine ⟨hlog.ids, h.nodup_ids counter, ?_⟩
  intro id hid id' hid'
  obtain ⟨e, he, rfl⟩ := List.mem_map.mp hid
  obtain ⟨e', he', rfl⟩ := List.mem_map.mp hid'
  exact (h.isNewer_of_mem he he').2

/-- Events are recorded one after the other as long as their ids are new. -/
theorem recordAll_eq (hlog : log.catalog = openedCatalog)
    (hids : ((log.entries ++ entriesFrom counter rs).map (·.id)).Nodup) :
    recordAll counter rs log =
      .ok { log with entries := log.entries ++ entriesFrom counter rs } := by
  induction rs generalizing counter log with
  | nil =>
      show Except.ok log = .ok { log with entries := log.entries ++ [] }
      rw [List.append_nil]
  | cons r rs ih =>
      rw [entriesFrom_cons, List.append_cons] at hids ⊢
      have hfirst : ((log.entries ++ [r.entry counter]).map (·.id)).Nodup :=
        hids.sublist ((List.sublist_append_left _ _).map _)
      rw [List.map_append, List.map_singleton, ← List.concat_eq_append, List.nodup_concat]
        at hfirst
      have hnew : ∀ e ∈ log.entries, e.id ≠ (r.entry counter).id :=
        fun e he hsame => hfirst.1 (hsame ▸ List.mem_map_of_mem he)
      have hrecorded : log.record r.source (r.stamp counter) r.event =
          .ok { log with entries := log.entries ++ [r.entry counter] } :=
        insert_ok hlog hnew
      unfold recordAll
      rw [hrecorded]
      exact ih hlog hids

/-! ### The list of all entries -/

/-- Listed from the last one down the entries are in order, exactly if the
counter keeps counting. -/
theorem Paced.pairwise_isNewer_iff (h : Paced log rs) :
    (entriesFrom counter rs).reverse.Pairwise IsNewer ↔ KeepsCounting counter rs := by
  rw [List.pairwise_reverse, List.pairwise_iff_getElem]
  constructor
  · intro hnewer i hi j hj hij
    have hpair := hnewer i j (length_entriesFrom.symm ▸ hi) (length_entriesFrom.symm ▸ hj) hij
    rw [getElem_entriesFrom hi, getElem_entriesFrom hj] at hpair
    exact (h.isNewer_iff hi hj hij).mp hpair
  · intro hkeeps i j hi hj hij
    have hi' : i < rs.length := length_entriesFrom ▸ hi
    have hj' : j < rs.length := length_entriesFrom ▸ hj
    rw [getElem_entriesFrom hi', getElem_entriesFrom hj']
    exact (h.isNewer_iff hi' hj' hij).mpr (hkeeps i hi' j hj' hij)

/-- **The order of the events that a process records.**  All of them are
recorded, under ids that differ.  Without a limit they are listed from the last
one down, and below them what was there before, exactly if the low bits of the
counter do not start again between two of them that share a millisecond. -/
theorem record_order (hlog : log.Sound) (hpaced : Paced log rs) (counter : Nat) :
    ((entriesFrom counter rs).map (·.id)).Nodup ∧
      ∃ log', recordAll counter rs log = .ok log' ∧
        log'.entries = log.entries ++ entriesFrom counter rs ∧
        ∀ before, NewestFirst log.entries before →
          ∀ limit : UInt64, limit.toNat < 9223372036854775808 → log'.count ≤ limit.toNat →
            (log'.recent limit = .ok ((entriesFrom counter rs).reverse ++ before) ↔
              KeepsCounting counter rs) := by
  have hids := hpaced.nodup_all hlog counter
  refine ⟨hpaced.nodup_ids counter, _, recordAll_eq hlog.catalog hids, rfl, ?_⟩
  intro before hbefore limit haccepted hlimit
  have hperm : ((entriesFrom counter rs).reverse ++ before).Perm
      (log.entries ++ entriesFrom counter rs) :=
    ((List.reverse_perm _).append hbefore.perm).trans List.perm_append_comm
  rw [← hpaced.pairwise_isNewer_iff]
  constructor
  · intro hrecent
    have hall := NewestFirst.mergeSort hids
    rw [recent, hall.latest_eq hids haccepted,
      List.take_of_length_le (hall.perm.length_eq.trans_le hlimit)] at hrecent
    have hnewer := hall.newer
    rw [Except.ok.inj hrecent] at hnewer
    exact (List.pairwise_append.mp hnewer).1
  · intro hnewer
    have hall : NewestFirst (log.entries ++ entriesFrom counter rs)
        ((entriesFrom counter rs).reverse ++ before) := by
      refine ⟨hperm, List.pairwise_append.mpr ⟨hnewer, hbefore.newer, ?_⟩⟩
      intro e he e' he'
      exact (hpaced.isNewer_of_mem (hbefore.perm.mem_iff.mp he') (List.mem_reverse.mp he)).1
    rw [recent, hall.latest_eq hids haccepted,
      List.take_of_length_le (hperm.length_eq.trans_le hlimit)]

/-! ### Two events at once -/

/-- Two events that are recorded in the same millisecond. -/
def twoAtOnce : List Recording :=
  let source : LogSource := { entryPoint := .library, appVersion := "1.0.0" }
  [{ source, event := .new "first", idTime := ⟨1, 0⟩, time := ⟨1, 0⟩ },
    { source, event := .new "second", idTime := ⟨1, 0⟩, time := ⟨1, 500000⟩ }]

theorem paced_twoAtOnce : Paced opened twoAtOnce where
  range := by decide
  within := by decide
  forward := by decide
  few ms := Nat.lt_of_le_of_lt List.countP_le_length (by decide)
  earlier e he := by cases he

/-- While the counter keeps counting, the second is listed first. -/
theorem record_order_of_two :
    ∃ log', recordAll 7 twoAtOnce opened = .ok log' ∧
      log'.recent 2 = .ok (entriesFrom 7 twoAtOnce).reverse := by
  obtain ⟨-, log', hrecorded, hentries, hrecent⟩ := record_order sound_opened paced_twoAtOnce 7
  have hkeeps : KeepsCounting 7 twoAtOnce := by
    unfold KeepsCounting
    decide
  have hcount : log'.count ≤ (2 : UInt64).toNat := by
    unfold count
    rw [hentries]
    decide
  have hlisted := (hrecent [] ⟨.refl _, .nil⟩ 2 (by decide) hcount).mpr hkeeps
  rw [List.append_nil] at hlisted
  exact ⟨log', hrecorded, hlisted⟩

/-- When the low bits of the counter start again between the two, the first is
listed first.  And a limit that is above every number of entries may be
refused. -/
theorem record_order_lost :
    Paced opened twoAtOnce ∧
      ∃ log', recordAll 65535 twoAtOnce opened = .ok log' ∧
        log'.recent 2 = .ok (entriesFrom 65535 twoAtOnce) ∧
        entriesFrom 65535 twoAtOnce ≠ (entriesFrom 65535 twoAtOnce).reverse ∧
        log'.recent 9223372036854775808 = .error .badPage := by
  have hids := paced_twoAtOnce.nodup_all sound_opened 65535
  refine ⟨paced_twoAtOnce, _, recordAll_eq rfl hids, ?_, by decide, latest_refused (by decide)⟩
  have hlisted : NewestFirst (opened.entries ++ entriesFrom 65535 twoAtOnce)
      (entriesFrom 65535 twoAtOnce) := by
    refine ⟨.refl _, ?_⟩
    unfold IsNewer
    decide
  exact hlisted.latest_eq hids (by decide)

end DoubleEntry.EventLog
