/-
DoubleEntry/Proofs/Store/Tables.lean

Lists of rows as tables.  Rows that differ in their keys are each found under
their own (`find?_key`).  A statement that changes a row puts another one in
place of every row with its key; what that does to the list of rows is said
here once for all tables.  Rows are read one by one, and those of a page all
together or not at all (`mem_of_mapM`, `exists_of_mapM_error`); under one key
one record is read (`eq_of_read_of_key`).
-/
import Mathlib.Data.List.Nodup

namespace DoubleEntry

variable {ρ : Type} {rs : List ρ}

/-! ### Keys -/

section Keys

variable {κ : Type} [DecidableEq κ] {key : ρ → κ}

/-- Among rows with different keys, each is found under its own. -/
theorem find?_key {r : ρ} (h : (rs.map key).Nodup) (hr : r ∈ rs) :
    rs.find? (fun x => key x = key r) = some r := by
  cases hfound : rs.find? fun x => key x = key r with
  | none =>
      have hnot := List.find?_eq_none.mp hfound r hr
      exact absurd (decide_eq_true rfl) hnot
  | some x =>
      have hkey := List.find?_some hfound
      rw [decide_eq_true_eq] at hkey
      rw [List.inj_on_of_nodup_map h (List.mem_of_find?_eq_some hfound) hr hkey]

theorem find?_key_eq_some_iff (h : (rs.map key).Nodup) {k : κ} {r : ρ} :
    rs.find? (fun x => key x = k) = some r ↔ r ∈ rs ∧ key r = k := by
  constructor
  · intro hfound
    have hkey := List.find?_some hfound
    exact ⟨List.mem_of_find?_eq_some hfound, of_decide_eq_true hkey⟩
  · rintro ⟨hr, rfl⟩
    exact find?_key h hr

/-- Nothing is found under a key that no row has. -/
theorem find?_key_eq_none_iff {k : κ} :
    rs.find? (fun x => key x = k) = none ↔ ∀ x ∈ rs, key x ≠ k := by
  simp only [List.find?_eq_none, decide_eq_true_eq, ne_eq]

end Keys

/-! ### Rows that replace others -/

section Replaced

variable {new : ρ} {p : ρ → Prop} [DecidablePred p]

/-- What is in a table in which a row has replaced others. -/
theorem mem_replaced_iff {x : ρ} :
    x ∈ rs.map (fun r => if p r then new else r) ↔
      (x ∈ rs ∧ ¬ p x) ∨ x = new ∧ ∃ r ∈ rs, p r := by
  rw [List.mem_map]
  constructor
  · rintro ⟨r, hr, rfl⟩
    by_cases hp : p r
    · rw [if_pos hp]
      exact .inr ⟨rfl, r, hr, hp⟩
    · rw [if_neg hp]
      exact .inl ⟨hr, hp⟩
  · rintro (⟨hx, hp⟩ | ⟨rfl, r, hr, hp⟩)
    · exact ⟨x, hx, if_neg hp⟩
    · exact ⟨r, hr, if_pos hp⟩

/-- What holds of all rows and of a new one holds of the rows in which it
replaces others. -/
theorem forall_mem_replaced {P : ρ → Prop} (hrs : ∀ x ∈ rs, P x) (hnew : P new) :
    ∀ x ∈ rs.map fun x => if p x then new else x, P x := by
  intro x hx
  rcases mem_replaced_iff.mp hx with ⟨hx, -⟩ | ⟨rfl, -⟩
  · exact hrs x hx
  · exact hnew

/-- Replacing rows by one that agrees with them changes nothing that they
agree in. -/
theorem map_replaced {β : Type} {f : ρ → β} (h : ∀ x ∈ rs, p x → f new = f x) :
    (rs.map fun x => if p x then new else x).map f = rs.map f := by
  rw [List.map_map]
  apply List.map_congr_left
  intro x hx
  show f (if p x then new else x) = f x
  split
  case isTrue hp => exact h x hx hp
  case isFalse => rfl

/-- Replacing the only row of a kind by what is made of it is the same as
making that of all rows of the kind. -/
theorem replaced_eq_map {r : ρ} (f : ρ → ρ) (honly : ∀ x ∈ rs, p x → x = r) :
    (rs.map fun x => if p x then f r else x) = rs.map fun x => if p x then f x else x := by
  apply List.map_congr_left
  intro x hx
  split
  case isTrue hp => rw [honly x hx hp]
  case isFalse => rfl

end Replaced

/-! ### Rows that are read -/

section Read

variable {α ε : Type} {read : ρ → Except ε α}

/-- The first row is read, and then the others. -/
theorem mapM_cons_eq_ok_iff {r : ρ} {as : List α} :
    (r :: rs).mapM read = .ok as ↔
      ∃ a as', read r = .ok a ∧ rs.mapM read = .ok as' ∧ as = a :: as' := by
  rw [List.mapM_cons]
  cases hr : read r with
  | error e =>
      constructor
      · intro h
        cases h
      · rintro ⟨a, as', h, -⟩
        cases h
  | ok a =>
      cases hrest : rs.mapM read with
      | error e =>
          constructor
          · intro h
            cases h
          · rintro ⟨a', as', -, h, -⟩
            cases h
      | ok as' =>
          constructor
          · intro h
            cases h
            exact ⟨a, as', rfl, rfl, rfl⟩
          · rintro ⟨_, _, h, h', rfl⟩
            cases h
            cases h'
            rfl

/-- What is read comes from the rows, and something is read from each. -/
theorem mem_of_mapM {as : List α} (h : rs.mapM read = .ok as) :
    (∀ a ∈ as, ∃ r ∈ rs, read r = .ok a) ∧ ∀ r ∈ rs, ∃ a ∈ as, read r = .ok a := by
  induction rs generalizing as with
  | nil =>
      cases h
      constructor <;> intro _ hmem <;> cases hmem
  | cons r rs ih =>
      obtain ⟨a, as', hr, hrest, rfl⟩ := mapM_cons_eq_ok_iff.mp h
      obtain ⟨hleft, hright⟩ := ih hrest
      constructor
      · intro a' ha'
        rcases List.mem_cons.mp ha' with rfl | ha'
        · exact ⟨r, List.mem_cons_self, hr⟩
        · obtain ⟨r', hr', hread⟩ := hleft a' ha'
          exact ⟨r', List.mem_cons_of_mem _ hr', hread⟩
      · intro r' hr'
        rcases List.mem_cons.mp hr' with rfl | hr'
        · exact ⟨a, List.mem_cons_self, hr⟩
        · obtain ⟨a', ha', hread⟩ := hright r' hr'
          exact ⟨a', List.mem_cons_of_mem _ ha', hread⟩

/-- Rows are not read because one of them is not. -/
theorem exists_of_mapM_error {e : ε} (h : rs.mapM read = .error e) :
    ∃ r ∈ rs, read r = .error e := by
  induction rs with
  | nil => cases h
  | cons r rs ih =>
      rw [List.mapM_cons] at h
      cases hr : read r with
      | error e' =>
          rw [hr] at h
          cases h
          exact ⟨r, List.mem_cons_self, hr⟩
      | ok a =>
          cases hrest : rs.mapM read with
          | error e' =>
              rw [hr, hrest] at h
              cases h
              obtain ⟨r', hmem, hread⟩ := ih hrest
              exact ⟨r', List.mem_cons_of_mem r hmem, hread⟩
          | ok as =>
              rw [hr, hrest] at h
              cases h

/-- As many records are read as there are rows. -/
theorem length_of_mapM {as : List α} (h : rs.mapM read = .ok as) : as.length = rs.length := by
  induction rs generalizing as with
  | nil =>
      cases h
      rfl
  | cons r rs ih =>
      obtain ⟨a, as', -, hrest, rfl⟩ := mapM_cons_eq_ok_iff.mp h
      rw [List.length_cons, List.length_cons, ih hrest]

/-- Rows are read if each of them is. -/
theorem exists_mapM_eq_ok (h : ∀ r ∈ rs, ∃ a, read r = .ok a) : ∃ as, rs.mapM read = .ok as := by
  cases hread : rs.mapM read with
  | ok as => exact ⟨as, rfl⟩
  | error e =>
      obtain ⟨r, hr, herror⟩ := exists_of_mapM_error hread
      obtain ⟨a, ha⟩ := h r hr
      rw [ha] at herror
      cases herror

/-- Where keys differ, the records that are read under one key are the same. -/
theorem eq_of_read_of_key {κ : Type} {key : ρ → κ} {keyOf : α → κ}
    (hkeys : (rs.map key).Nodup) (hread : ∀ {r a}, read r = .ok a → keyOf a = key r) {a b : α}
    (ha : ∃ r ∈ rs, read r = .ok a) (hb : ∃ r ∈ rs, read r = .ok b) (hsame : keyOf a = keyOf b) :
    a = b := by
  obtain ⟨r, hr, hra⟩ := ha
  obtain ⟨s, hs, hsb⟩ := hb
  rw [hread hra, hread hsb] at hsame
  obtain rfl := List.inj_on_of_nodup_map hkeys hr hs hsame
  rw [hra] at hsb
  exact Except.ok.inj hsb

/-- A record is read from some rows if it is read from one of them. -/
theorem mem_iff_of_mapM {as : List α} (h : rs.mapM read = .ok as) {a : α} :
    a ∈ as ↔ ∃ r ∈ rs, read r = .ok a := by
  obtain ⟨hleft, hright⟩ := mem_of_mapM h
  refine ⟨hleft a, ?_⟩
  rintro ⟨r, hr, hread⟩
  obtain ⟨a', ha', hread'⟩ := hright r hr
  rw [hread] at hread'
  cases hread'
  exact ha'

/-- What is read tells what its row tells. -/
theorem map_of_mapM {κ : Type} {f : ρ → κ} {g : α → κ} {as : List α}
    (h : rs.mapM read = .ok as) (hread : ∀ {r a}, read r = .ok a → g a = f r) :
    as.map g = rs.map f := by
  induction rs generalizing as with
  | nil =>
      cases h
      rfl
  | cons r rs ih =>
      obtain ⟨a, as', hr, hrest, rfl⟩ := mapM_cons_eq_ok_iff.mp h
      rw [List.map_cons, List.map_cons, hread hr, ih hrest]

theorem mapM_drop {as : List α} (h : rs.mapM read = .ok as) (n : Nat) :
    (rs.drop n).mapM read = .ok (as.drop n) := by
  induction n generalizing rs as with
  | zero => exact h
  | succ n ih =>
      cases rs with
      | nil =>
          cases h
          rfl
      | cons r rs =>
          obtain ⟨a, as', -, hrest, rfl⟩ := mapM_cons_eq_ok_iff.mp h
          exact ih hrest

theorem mapM_take {as : List α} (h : rs.mapM read = .ok as) (n : Nat) :
    (rs.take n).mapM read = .ok (as.take n) := by
  induction n generalizing rs as with
  | zero => rfl
  | succ n ih =>
      cases rs with
      | nil =>
          cases h
          rfl
      | cons r rs =>
          obtain ⟨a, as', hr, hrest, rfl⟩ := mapM_cons_eq_ok_iff.mp h
          exact mapM_cons_eq_ok_iff.mpr ⟨a, _, hr, ih hrest, rfl⟩

end Read

end DoubleEntry
