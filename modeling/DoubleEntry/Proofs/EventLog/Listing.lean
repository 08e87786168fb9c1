/-
DoubleEntry/Proofs/EventLog/Listing.lean

What is read from an event log.  If no two entries share an id, there is one
list of all entries from the newest down (`NewestFirst`), and everything that
can be read agrees with it (`ReadsAgree`): the latest entries are its first
ones, the latest errors are the first of its entries that carry an error, and
the counts by kind add up to the number of these.

Leaving entries out and sorting may be exchanged, because there is only one
list to sort them into (`NewestFirst.unique`).
-/
import Mathlib.Algebra.BigOperators.Group.List.Lemmas
import Mathlib.Algebra.GroupWithZero.Nat
import Mathlib.Data.List.Sort
import Mathlib.Data.String.Basic
import DoubleEntry.EventLog.Log

namespace DoubleEntry.EventLog

variable {a b : LogEntry} {es all all' : List LogEntry} {limit : UInt64} {log : EventLog}

/-! ### The order of entries -/

/-- One entry is listed before another: its time is later, or the time is the
same and its id is higher. -/
def IsNewer (a b : LogEntry) : Prop :=
  b.timestamp.toInt < a.timestamp.toInt ∨ a.timestamp = b.timestamp ∧ b.id.toNat < a.id.toNat

theorem laterOrSame_iff :
    laterOrSame a b = true ↔
      b.timestamp.toInt < a.timestamp.toInt ∨
        a.timestamp = b.timestamp ∧ b.id.toNat ≤ a.id.toNat := by
  unfold laterOrSame
  rw [Bool.or_eq_true, Bool.and_eq_true, decide_eq_true_eq, decide_eq_true_eq, decide_eq_true_eq]

theorem laterOrSame_trans (a b c : LogEntry) (hab : laterOrSame a b = true)
    (hbc : laterOrSame b c = true) : laterOrSame a c = true := by
  rw [laterOrSame_iff, ← Int64.toInt_inj] at hab hbc ⊢
  omega

theorem laterOrSame_total (a b : LogEntry) : (laterOrSame a b || laterOrSame b a) = true := by
  rw [Bool.or_eq_true, laterOrSame_iff, laterOrSame_iff, ← Int64.toInt_inj, ← Int64.toInt_inj]
  omega

theorem isNewer_of_laterOrSame (h : laterOrSame a b = true) (hid : a.id ≠ b.id) : IsNewer a b := by
  rw [laterOrSame_iff] at h
  rw [ne_eq, ← UInt64.toNat_inj] at hid
  rcases h with hlater | ⟨hsame, hle⟩
  · exact .inl hlater
  · exact .inr ⟨hsame, by omega⟩

theorem IsNewer.asymm (h : IsNewer a b) : ¬ IsNewer b a := by
  unfold IsNewer at h ⊢
  rw [← Int64.toInt_inj] at h ⊢
  omega

/-! ### Entries from the newest down -/

/-- All of some entries, from the newest down. -/
structure NewestFirst (es all : List LogEntry) : Prop where
  perm : all.Perm es
  newer : all.Pairwise IsNewer

namespace NewestFirst

theorem mergeSort (hids : (es.map (·.id)).Nodup) : NewestFirst es (es.mergeSort laterOrSame) where
  perm := es.mergeSort_perm laterOrSame
  newer := by
    have hperm := es.mergeSort_perm laterOrSame
    have hsorted : (es.mergeSort laterOrSame).Pairwise fun a b => laterOrSame a b = true :=
      List.pairwise_mergeSort laterOrSame_trans laterOrSame_total es
    have hdistinct : ((es.mergeSort laterOrSame).map (·.id)).Nodup :=
      (hperm.map (·.id)).nodup_iff.mpr hids
    exact (hsorted.and (List.pairwise_map.mp hdistinct)).imp fun h =>
      isNewer_of_laterOrSame h.1 h.2

theorem unique (h : NewestFirst es all) (h' : NewestFirst es all') : all = all' :=
  (h.perm.trans h'.perm.symm).eq_of_pairwise (fun _ _ _ _ hab hba => absurd hba hab.asymm)
    h.newer h'.newer

theorem filter (h : NewestFirst es all) (p : LogEntry → Bool) :
    NewestFirst (es.filter p) (all.filter p) where
  perm := h.perm.filter p
  newer := h.newer.filter p

/-- The latest entries are the first from the newest down. -/
theorem latest_eq (h : NewestFirst es all) (hids : (es.map (·.id)).Nodup)
    (hlimit : limit.toNat < 9223372036854775808) :
    latest limit es = .ok (all.take limit.toNat) := by
  rw [(mergeSort hids).unique h |>.symm]
  exact if_pos hlimit

end NewestFirst

theorem latest_refused (hlimit : ¬ limit.toNat < 9223372036854775808) :
    latest limit es = .error .badPage :=
  if_neg hlimit

/-! ### Counts -/

/-- One count is listed before another: it is larger, or they are the same and
its kind comes first. -/
def CountsBefore (a b : String × Nat) : Prop :=
  b.2 < a.2 ∨ a.2 = b.2 ∧ a.1 < b.1

theorem countBefore_iff {a b : String × Nat} :
    countBefore a b = true ↔ b.2 < a.2 ∨ a.2 = b.2 ∧ a.1 ≤ b.1 := by
  unfold countBefore
  rw [Bool.or_eq_true, Bool.and_eq_true, decide_eq_true_eq, decide_eq_true_eq, decide_eq_true_eq]

theorem countBefore_trans (a b c : String × Nat) (hab : countBefore a b = true)
    (hbc : countBefore b c = true) : countBefore a c = true := by
  rw [countBefore_iff] at hab hbc ⊢
  rcases hab with hab | ⟨hab, hle⟩
  · left
    omega
  · rcases hbc with hbc | ⟨hbc, hle'⟩
    · left
      omega
    · exact .inr ⟨hab.trans hbc, hle.trans hle'⟩

theorem countBefore_total (a b : String × Nat) : (countBefore a b || countBefore b a) = true := by
  rw [Bool.or_eq_true, countBefore_iff, countBefore_iff]
  rcases Nat.lt_trichotomy a.2 b.2 with hlt | heq | hgt
  · exact .inr (.inl hlt)
  · rcases le_total a.1 b.1 with hle | hle
    · exact .inl (.inr ⟨heq, hle⟩)
    · exact .inr (.inr ⟨heq.symm, hle⟩)
  · exact .inl (.inl hgt)

theorem nodup_eraseDups (kinds : List String) : kinds.eraseDups.Nodup := by
  induction kinds using List.reverseRecOn with
  | nil => exact .nil
  | append_singleton kinds kind ih =>
      rw [List.eraseDups_append]
      by_cases hkind : kind ∈ kinds
      · have hnothing : [kind].removeAll kinds = [] := by simp [List.removeAll, hkind]
        rw [hnothing, List.eraseDups_nil, List.append_nil]
        exact ih
      · have hkept : [kind].removeAll kinds = [kind] := by simp [List.removeAll, hkind]
        have halone : [kind].eraseDups = [kind] := rfl
        rw [hkept, halone, ← List.concat_eq_append, List.nodup_concat]
        exact ⟨fun hmem => hkind (List.mem_eraseDups.mp hmem), ih⟩

/-- The counts of some kinds: each kind that there is once, under the number of
times that it is there, the largest number first. -/
structure Counts (kinds : List String) (counts : List (String × Nat)) : Prop where
  once : (counts.map (·.1)).Nodup
  ordered : counts.Pairwise CountsBefore
  counted : ∀ k n, (k, n) ∈ counts ↔ 0 < n ∧ n = kinds.count k
  total : (counts.map (·.2)).sum = kinds.length

/-- Each kind is counted once. -/
theorem errorCounts_counts (log : EventLog) :
    Counts (log.withErrors.map countedKind) log.errorCounts := by
  unfold errorCounts
  generalize log.withErrors.map countedKind = kinds
  have hperm := List.mergeSort_perm (kinds.eraseDups.map fun k => (k, kinds.count k)) countBefore
  have honce : (((kinds.eraseDups.map fun k => (k, kinds.count k)).mergeSort countBefore).map
      (·.1)).Nodup := by
    rw [(hperm.map (·.1)).nodup_iff, List.map_map]
    have hfirst : kinds.eraseDups.map ((fun x : String × Nat => x.1) ∘ fun k => (k, kinds.count k)) =
        kinds.eraseDups :=
      List.map_id _
    rw [hfirst]
    exact nodup_eraseDups kinds
  refine ⟨honce, ?_, ?_, ?_⟩
  · have hsorted := List.pairwise_mergeSort countBefore_trans countBefore_total
      (kinds.eraseDups.map fun k => (k, kinds.count k))
    refine (hsorted.and (List.pairwise_map.mp honce)).imp ?_
    rintro a b ⟨hbefore, hne⟩
    rcases countBefore_iff.mp hbefore with hmore | ⟨hsame, hle⟩
    · exact .inl hmore
    · exact .inr ⟨hsame, lt_of_le_of_ne hle hne⟩
  · intro k n
    rw [hperm.mem_iff, List.mem_map]
    constructor
    · rintro ⟨k', hk', heq⟩
      cases heq
      exact ⟨List.count_pos_iff.mpr (List.mem_eraseDups.mp hk'), rfl⟩
    · rintro ⟨hpos, rfl⟩
      exact ⟨k, List.mem_eraseDups.mpr (List.count_pos_iff.mp hpos), rfl⟩
  · have hdistinct : kinds.eraseDups.Perm kinds.dedup := by
      rw [List.perm_ext_iff_of_nodup (nodup_eraseDups kinds) kinds.nodup_dedup]
      intro k
      rw [List.mem_eraseDups, List.mem_dedup]
    rw [(hperm.map (·.2)).sum_eq, List.map_map]
    exact ((hdistinct.map kinds.count).sum_eq).trans (List.sum_map_count_dedup_eq_length kinds)

/-! ### What is read -/

/-- What is read from a log agrees with a list of its entries from the newest
down. -/
structure ReadsAgree (log : EventLog) (all : List LogEntry) : Prop where
  listed : NewestFirst log.entries all
  recent : ∀ limit : UInt64, limit.toNat < 9223372036854775808 →
    log.recent limit = .ok (all.take limit.toNat)
  recentErrors : ∀ limit : UInt64, limit.toNat < 9223372036854775808 →
    log.recentErrors limit = .ok ((all.filter (·.errorMessage.isSome)).take limit.toNat)
  count : log.count = all.length
  errorCounts :
    Counts ((all.filter (·.errorMessage.isSome)).map countedKind) log.errorCounts

/-- The order of the kinds does not matter for their counts. -/
theorem Counts.perm {kinds kinds' : List String} {counts : List (String × Nat)}
    (h : Counts kinds counts) (hkinds : kinds.Perm kinds') : Counts kinds' counts where
  once := h.once
  ordered := h.ordered
  counted k n := by
    rw [← hkinds.count_eq k]
    exact h.counted k n
  total := h.total.trans hkinds.length_eq

/-- All that is read agrees, if no two entries share an id. -/
theorem NewestFirst.readsAgree (h : NewestFirst log.entries all)
    (hids : (log.entries.map (·.id)).Nodup) : ReadsAgree log all where
  listed := h
  recent _ hlimit := h.latest_eq hids hlimit
  recentErrors _ hlimit :=
    (h.filter _).latest_eq (hids.sublist (List.filter_sublist.map _)) hlimit
  count := h.perm.length_eq.symm
  errorCounts :=
    log.errorCounts_counts.perm ((h.filter (·.errorMessage.isSome)).perm.map countedKind).symm

end DoubleEntry.EventLog
