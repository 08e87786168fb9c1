/-
DoubleEntry/Proofs/Json/Fields.lean

The fields of an object.  Reading the members of an object puts one after the
other under its key, so that a key has in the end the value given last
(`field?_membersToJson?`), and no key stands twice.
-/
import Mathlib.Data.List.Nodup
import DoubleEntry.Json.Record

namespace DoubleEntry.Json

/-! ### Looking up a key -/

section Lookup

variable {κ α β : Type} [BEq κ] [LawfulBEq κ] {key other : κ} {a : α} {l : List (κ × α)}

theorem lookup_cons_of_ne (h : other ≠ key) : ((key, a) :: l).lookup other = l.lookup other := by
  rw [List.lookup_cons, beq_eq_false_iff_ne.mpr h]

theorem mem_of_lookup (h : l.lookup key = some a) : (key, a) ∈ l := by
  obtain ⟨before, behind, rfl, -⟩ := List.lookup_eq_some_iff.mp h
  simp

theorem lookup_of_mem (hkeys : (l.map Prod.fst).Nodup) (h : (key, a) ∈ l) :
    l.lookup key = some a := by
  induction l with
  | nil => cases h
  | cons m l ih =>
      obtain ⟨k, b⟩ := m
      rw [List.map_cons, List.nodup_cons] at hkeys
      rcases List.mem_cons.mp h with heq | hmem
      · cases heq
        exact List.lookup_cons_self
      · have hkey : key ∈ l.map Prod.fst := List.mem_map.mpr ⟨_, hmem, rfl⟩
        have hne : key ≠ k := fun heq => hkeys.1 (heq ▸ hkey)
        rw [lookup_cons_of_ne hne]
        exact ih hkeys.2 hmem

theorem lookup_eq_none_iff_notMem : l.lookup key = none ↔ key ∉ l.map Prod.fst := by
  rw [List.lookup_eq_none_iff]
  simp only [bne_iff_ne, List.mem_map, not_exists, not_and]
  exact ⟨fun h p hp heq => h p hp heq.symm, fun h p hp heq => h p hp heq.symm⟩

theorem lookup_map (f : α → β) (l : List (κ × α)) (key : κ) :
    (l.map fun m => (m.1, f m.2)).lookup key = (l.lookup key).map f := by
  induction l with
  | nil => rfl
  | cons m l ih =>
      obtain ⟨k, a⟩ := m
      by_cases h : key = k
      · simp [h]
      · simp only [List.map_cons, lookup_cons_of_ne h, ih]

/-- The members with other keys do not count. -/
theorem lookup_filter_eq [DecidableEq κ] (key : κ) (l : List (κ × α)) :
    (l.filter fun m => m.1 = key).lookup key = l.lookup key := by
  induction l with
  | nil => rfl
  | cons m l ih =>
      obtain ⟨k, a⟩ := m
      by_cases h : key = k
      · simp [h]
      · simp [Ne.symm h, lookup_cons_of_ne h, ih]

theorem lookup_filter_ne [DecidableEq κ] (h : other ≠ key) (l : List (κ × α)) :
    (l.filter fun m => m.1 ≠ key).lookup other = l.lookup other := by
  induction l with
  | nil => rfl
  | cons m l ih =>
      obtain ⟨k, a⟩ := m
      by_cases hk : k = key
      · have hne : other ≠ k := hk ▸ h
        rw [List.filter_cons_of_neg (by simp [hk]), ih, lookup_cons_of_ne hne]
      · rw [List.filter_cons_of_pos (by simp [hk])]
        by_cases hother : other = k
        · simp [hother]
        · rw [lookup_cons_of_ne hother, lookup_cons_of_ne hother, ih]

end Lookup

/-! ### Setting a key -/

section Put

variable {key : String} {value : Json} {fields : List (String × Json)}

theorem put_of_notMem (h : key ∉ fields.map Prod.fst) :
    put key value fields = fields ++ [(key, value)] := by
  induction fields with
  | nil => rfl
  | cons m fields ih =>
      obtain ⟨k, v⟩ := m
      simp only [List.map_cons, List.mem_cons, not_or] at h
      rw [put, if_neg (Ne.symm h.1), ih h.2, List.cons_append]

theorem keys_put_of_mem (h : key ∈ fields.map Prod.fst) :
    (put key value fields).map Prod.fst = fields.map Prod.fst := by
  induction fields with
  | nil => cases h
  | cons m fields ih =>
      obtain ⟨k, v⟩ := m
      by_cases hk : k = key
      · simp [put, hk]
      · have hmem : key ∈ fields.map Prod.fst := by
          simpa [Ne.symm hk] using h
        simp only [put, if_neg hk, List.map_cons, ih hmem]

/-- Setting a key puts no key in twice. -/
theorem nodup_keys_put (h : (fields.map Prod.fst).Nodup) :
    ((put key value fields).map Prod.fst).Nodup := by
  by_cases hmem : key ∈ fields.map Prod.fst
  · rwa [keys_put_of_mem hmem]
  · rw [put_of_notMem hmem, List.map_append, List.map_singleton, ← List.concat_eq_append]
    exact h.concat hmem

/-- The fields are those there were and the one set. -/
theorem mem_put {m : String × Json} (h : m ∈ put key value fields) :
    m ∈ fields ∨ m = (key, value) := by
  induction fields with
  | nil => exact .inr (List.mem_singleton.mp h)
  | cons m' fields ih =>
      obtain ⟨k, v⟩ := m'
      by_cases hk : k = key
      · simp only [put, if_pos hk, List.mem_cons] at h
        rcases h with rfl | h
        · exact .inr (by rw [hk])
        · exact .inl (List.mem_cons_of_mem _ h)
      · simp only [put, if_neg hk, List.mem_cons] at h
        rcases h with rfl | h
        · exact .inl List.mem_cons_self
        · exact (ih h).imp_left (List.mem_cons_of_mem _)

end Put

/-! ### Members whose keys are text -/

/-- Members as they are written. -/
def named (ms : List (String × Written)) : List (Option String × Written) :=
  ms.map fun m => (some m.1, m.2)

theorem namedMembers?_named (ms : List (String × Written)) :
    namedMembers? (named ms) = some ms := by
  induction ms with
  | nil => rfl
  | cons m ms ih =>
      simp only [namedMembers?, named] at ih
      simp [namedMembers?, named, ih]

theorem eq_named_of_namedMembers? {members : List (Option String × Written)}
    {ms : List (String × Written)} (h : namedMembers? members = some ms) : members = named ms := by
  induction members generalizing ms with
  | nil =>
      cases h
      rfl
  | cons m members ih =>
      obtain ⟨key, w⟩ := m
      simp only [namedMembers?, List.mapM_cons, Option.bind_eq_bind, Option.bind_eq_some_iff,
        Option.map_eq_some_iff, Option.pure_def, Option.some.injEq] at h
      obtain ⟨-, ⟨k, rfl, rfl⟩, rest, hrest, rfl⟩ := h
      rw [ih hrest]
      rfl

/-! ### Reading members -/

section Members

variable {depth : Nat} {ms : List (String × Written)} {before fields : List (String × Json)}

/-- The members of an object are read one after the other. -/
theorem membersToJson?_cons {m : String × Written} :
    Written.membersToJson? depth before (named (m :: ms)) = some fields ↔
      ∃ j, m.2.toJson? depth = some j ∧
        Written.membersToJson? depth (put m.1 j before) (named ms) = some fields := by
  simp [named, Written.membersToJson?, Option.bind_eq_some_iff]

/-- They are read if each value is. -/
theorem exists_membersToJson? (h : ∀ m ∈ ms, ∃ j, m.2.toJson? depth = some j)
    (before : List (String × Json)) :
    ∃ fields, Written.membersToJson? depth before (named ms) = some fields := by
  induction ms generalizing before with
  | nil => exact ⟨before, rfl⟩
  | cons m ms ih =>
      obtain ⟨⟨j, hj⟩, hms⟩ := List.forall_mem_cons.mp h
      obtain ⟨fields, hfields⟩ := ih hms (put m.1 j before)
      exact ⟨fields, membersToJson?_cons.mpr ⟨j, hj, hfields⟩⟩

theorem toJson?_of_mem {m : String × Written} (hm : m ∈ ms)
    (h : Written.membersToJson? depth before (named ms) = some fields) :
    ∃ j, m.2.toJson? depth = some j := by
  induction ms generalizing before with
  | nil => cases hm
  | cons m' ms ih =>
      obtain ⟨j, hj, hrest⟩ := membersToJson?_cons.mp h
      rcases List.mem_cons.mp hm with rfl | hm
      · exact ⟨j, hj⟩
      · exact ih hm hrest

/-- **The last value of a repeated key counts**, and a key that is not given
keeps the value it had. -/
theorem field?_membersToJson? (key : String)
    (h : Written.membersToJson? depth before (named ms) = some fields) :
    field? fields key =
      ((ms.reverse.lookup key).bind fun w => w.toJson? depth).or (field? before key) := by
  induction ms generalizing before with
  | nil =>
      cases h
      rfl
  | cons m ms ih =>
      obtain ⟨j, hj, hrest⟩ := membersToJson?_cons.mp h
      have hlast : (m :: ms).reverse.lookup key = (ms.reverse.lookup key).or ([m].lookup key) := by
        rw [List.reverse_cons, List.lookup_append]
      rw [ih hrest, hlast]
      rcases hlater : ms.reverse.lookup key with - | w
      · -- not given again, so that this member is the last
        by_cases hkey : key = m.1
        · subst hkey
          have hone : [m].lookup m.1 = some m.2 := List.lookup_cons_self
          simp [hone, field?_put_self, hj]
        · have hone : [m].lookup key = none := lookup_cons_of_ne hkey
          simp [hone, field?_put_of_ne hkey]
      · -- given again, with a value that is read
        have hmem : (key, w) ∈ ms := List.mem_reverse.mp (mem_of_lookup hlater)
        obtain ⟨jw, hw⟩ := toJson?_of_mem hmem hrest
        simp [hw]

theorem nodup_keys_membersToJson? {members : List (Option String × Written)}
    (h : Written.membersToJson? depth before members = some fields)
    (hbefore : (before.map Prod.fst).Nodup) : (fields.map Prod.fst).Nodup := by
  induction members generalizing before with
  | nil =>
      cases h
      exact hbefore
  | cons m members ih =>
      simp only [Written.membersToJson?, Option.bind_eq_bind, Option.bind_eq_some_iff] at h
      obtain ⟨k, -, j, -, hrest⟩ := h
      exact ih hrest (nodup_keys_put hbefore)

end Members

end DoubleEntry.Json
