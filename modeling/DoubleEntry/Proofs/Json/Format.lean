/-
DoubleEntry/Proofs/Json/Format.lean

Formats of records.  A format lists the fields of a record.  It says which
written values hold a record (`Format.Writes`): objects that give the fields
in any order among others, a field that is absent as null or not at all, and
arrays of the fields in their order.  It also says which are malformed
(`Format.Malformed`): a field given twice, a field missing, an array of
another length, here or within a field.

`Format.Describes` ties a format to an encoder and a decoder.  From it follow
the round trip through text (`Describes.decode_render`), the reading of every
text that holds a record (`Describes.decode_of_writes`) and the refusal of
every malformed one (`Describes.decode_of_malformed`).
-/
import DoubleEntry.Json.Decode
import DoubleEntry.Proofs.Json.Meaning
import DoubleEntry.Proofs.Time.RoundTrip

namespace DoubleEntry.Json

/-! ### What an object gives -/

/-- The values that an object gives under a key, one for each time. -/
def given (key : String) (members : List (Option String × Written)) : List Written :=
  members.filterMap fun m => if m.1 = some key then some m.2 else none

theorem given_named_cons (key : String) (m : String × Written) (ms : List (String × Written)) :
    given key (named (m :: ms)) =
      if m.1 = key then m.2 :: given key (named ms) else given key (named ms) := by
  by_cases h : m.1 = key
  · simp [given, named, h]
  · simp [given, named, h]

theorem length_given (key : String) (ms : List (String × Written)) :
    (given key (named ms)).length = timesGiven key ms := by
  induction ms with
  | nil => rfl
  | cons m ms ih =>
      rw [given_named_cons]
      by_cases h : m.1 = key
      · simp [timesGiven, h, ih]
      · simp [timesGiven, h, ih]

theorem head?_given (key : String) (ms : List (String × Written)) :
    (given key (named ms)).head? = ms.lookup key := by
  induction ms with
  | nil => rfl
  | cons m ms ih =>
      obtain ⟨k, w⟩ := m
      rw [given_named_cons]
      by_cases h : k = key
      · subst h
        simp
      · rw [if_neg h, ih, lookup_cons_of_ne (Ne.symm h)]

/-- The fields of an object whose keys are text are what it gives under their
names, unless it gives one of them twice. -/
theorem fields?_object (names : List String) (ms : List (String × Written)) :
    (Written.object (named ms)).fields? names =
      if ∀ n ∈ names, (given n (named ms)).length ≤ 1 then
        some (names.map fun n => (given n (named ms)).head?)
      else none := by
  simp only [Written.fields?, namedMembers?_named, Option.bind_some, List.all_eq_true,
    decide_eq_true_eq, length_given, head?_given]

/-- Keys that are all text name the members. -/
theorem exists_named {members : List (Option String × Written)}
    (h : ∀ m ∈ members, m.1.isSome) : ∃ ms, members = named ms := by
  induction members with
  | nil => exact ⟨[], rfl⟩
  | cons m members ih =>
      obtain ⟨ms, rfl⟩ := ih fun m' hm => h m' (List.mem_cons_of_mem m hm)
      obtain ⟨key, w⟩ := m
      obtain ⟨k, rfl⟩ := Option.isSome_iff_exists.mp (h (key, w) List.mem_cons_self)
      exact ⟨(k, w) :: ms, rfl⟩

/-! ### Fields and formats -/

/-- One field of the records of a type. -/
structure Field (V : Type) where
  name : String
  isRequired : Bool
  /-- The field of a record may be written so, or left out. -/
  Holds : V → Option Written → Prop
  /-- No record has such a field. -/
  Malformed : Written → Prop

/-- The fields of the records of a type, in their order. -/
abbrev Format (V : Type) :=
  List (Field V)

variable {U V : Type}

namespace Format

/-- A written value holds a record. -/
def Writes (F : Format V) (v : V) : Written → Prop
  | .object members =>
      (∀ m ∈ members, m.1.isSome) ∧
        ∀ f ∈ F, ∃ o : Option Written, given f.name members = o.toList ∧ f.Holds v o
  | .array items => List.Forall₂ (fun f w => f.Holds v (some w)) F items
  | _ => False

/-- A written value holds no record: it is no container, it is an array of
another length, or one of its fields is given twice, missing or malformed. -/
def Malformed (F : Format V) : Written → Prop
  | .object members =>
      ∃ f ∈ F, 2 ≤ (given f.name members).length ∨
        (f.isRequired = true ∧ given f.name members = []) ∨
          ∃ w ∈ given f.name members, f.Malformed w
  | .array items => items.length ≠ F.length ∨ ∃ p ∈ F.zip items, p.1.Malformed p.2
  | _ => True

/-- The names of the fields. -/
def names (F : Format V) : List String :=
  F.map Field.name

end Format

namespace Field

/-- A field with one value, written in one way. -/
def plain (name : String) (get : V → Json) : Field V where
  name
  isRequired := true
  Holds v o := o = some (get v).toWritten
  Malformed _ := False

/-- A field that may be absent: it is null then, or left out. -/
def option (name : String) (get : V → Option Json) : Field V where
  name
  isRequired := false
  Holds v o :=
    match get v with
    | some j => o = some j.toWritten
    | none => o = none ∨ o = some .null
  Malformed _ := False

/-- A field with a record in it. -/
def record (name : String) (get : V → U) (F : Format U) : Field V where
  name
  isRequired := true
  Holds v o := ∃ w, o = some w ∧ F.Writes (get v) w
  Malformed := F.Malformed

@[simp]
theorem name_plain (name : String) (get : V → Json) : (plain name get).name = name :=
  rfl

@[simp]
theorem name_option (name : String) (get : V → Option Json) : (option name get).name = name :=
  rfl

@[simp]
theorem name_record (name : String) (get : V → U) (F : Format U) :
    (record name get F).name = name :=
  rfl

@[simp]
theorem holds_plain {name : String} {get : V → Json} {v : V} {o : Option Written} :
    (plain name get).Holds v o ↔ o = some (get v).toWritten :=
  Iff.rfl

@[simp]
theorem holds_option {name : String} {get : V → Option Json} {v : V} {o : Option Written} :
    (option name get).Holds v o ↔
      o = (get v).map toWritten ∨ (get v = none ∧ o = some .null) := by
  show (match get v with
    | some j => o = some j.toWritten
    | none => o = none ∨ o = some .null) ↔ _
  cases get v <;> simp

@[simp]
theorem holds_record {name : String} {get : V → U} {F : Format U} {v : V} {o : Option Written} :
    (record name get F).Holds v o ↔ ∃ w, o = some w ∧ F.Writes (get v) w :=
  Iff.rfl

/-- What is found for a field is no reason to refuse the record. -/
def Admits (f : Field V) (o : Option Written) : Prop :=
  (f.isRequired = true → o ≠ none) ∧ ∀ w, o = some w → ¬ f.Malformed w

variable {α : Type} {name : String} {read? : Written → Option α} {o : Option Written} {a : α}

theorem admits_plain (get : V → Json) (h : required read? o = some a) :
    (plain name get).Admits o := by
  obtain ⟨w, rfl, -⟩ := Option.bind_eq_some_iff.mp h
  exact ⟨fun _ => Option.some_ne_none w, fun _ _ => id⟩

theorem admits_option (get : V → Option Json) (o : Option Written) :
    (option name get).Admits o :=
  ⟨fun h => Bool.noConfusion h, fun _ _ => id⟩

theorem admits_record {F : Format U} (get : V → U)
    (hread : ∀ {w a}, read? w = some a → ¬ F.Malformed w) (h : required read? o = some a) :
    (record name get F).Admits o := by
  obtain ⟨w, rfl, hw⟩ := Option.bind_eq_some_iff.mp h
  refine ⟨fun _ => Option.some_ne_none w, fun w' hw' => ?_⟩
  obtain rfl := Option.some.inj hw'
  exact hread hw

end Field

/-! ### What a reader finds -/

namespace Format

variable {F : Format V} {v : V} {w : Written} {os : List (Option Written)}

/-- The fields of a value that holds a record are found, each as it is
written. -/
theorem Writes.exists_fields? (h : F.Writes v w) :
    ∃ os, w.fields? F.names = some os ∧ List.Forall₂ (fun f o => f.Holds v o) F os := by
  cases w with
  | object members =>
      obtain ⟨hkeys, hfields⟩ := h
      obtain ⟨ms, rfl⟩ := exists_named hkeys
      refine ⟨F.names.map fun n => (given n (named ms)).head?, ?_, ?_⟩
      · rw [fields?_object, if_pos]
        intro n hn
        obtain ⟨f, hf, rfl⟩ := List.mem_map.mp hn
        obtain ⟨o, ho, -⟩ := hfields f hf
        rw [ho]
        cases o <;> simp
      · rw [names, List.map_map, List.forall₂_map_right_iff, List.forall₂_same]
        intro f hf
        obtain ⟨o, ho, hholds⟩ := hfields f hf
        show f.Holds v (given f.name (named ms)).head?
        rw [ho]
        cases o <;> exact hholds
  | array items =>
      have hlength : F.length = items.length := List.Forall₂.length_eq h
      refine ⟨items.map some, ?_, ?_⟩
      · simp [Written.fields?, names, hlength]
      · rw [List.forall₂_map_right_iff]
        exact h
  | null | bool _ | numeral _ | string _ => exact h.elim

/-- A value is not malformed where every field is found as it may be. -/
theorem not_malformed (h : w.fields? F.names = some os) (hall : List.Forall₂ Field.Admits F os) :
    ¬ F.Malformed w := by
  cases w with
  | object members =>
      obtain ⟨ms, hms, hos⟩ := Option.bind_eq_some_iff.mp h
      obtain rfl := eq_named_of_namedMembers? hms
      rw [fields?_object] at h
      split at h
      case isFalse => cases h
      case isTrue honce =>
        obtain rfl := Option.some.inj h
        rw [names, List.map_map, List.forall₂_map_right_iff, List.forall₂_same] at hall
        rintro ⟨f, hf, htwice | ⟨hrequired, hnone⟩ | ⟨w, hw, hbad⟩⟩
        · have := honce f.name (List.mem_map_of_mem hf)
          omega
        · refine (hall f hf).1 hrequired ?_
          show (given f.name (named ms)).head? = none
          rw [hnone]
          rfl
        · -- the value that is malformed is the only one that is given
          have hlength := honce f.name (List.mem_map_of_mem hf)
          refine (hall f hf).2 w ?_ hbad
          show (given f.name (named ms)).head? = some w
          match given f.name (named ms), hw, hlength with
          | [_], hw, _ => exact congrArg some (List.mem_singleton.mp hw).symm
  | array items =>
      simp only [Written.fields?] at h
      split at h
      case isFalse => cases h
      case isTrue hlength =>
        obtain rfl := Option.some.inj h
        rw [List.forall₂_map_right_iff] at hall
        rintro (hother | ⟨⟨f, w⟩, hp, hbad⟩)
        · exact hother (hlength.trans (List.length_map _))
        · exact ((List.forall₂_iff_zip.mp hall).2 hp).2 w rfl hbad
  | null | bool _ | numeral _ | string _ => cases h

/-- An object writes a record if it has no key twice and a value for every
field. -/
theorem writes_object {fields : List (String × Json)} (hkeys : (fields.map Prod.fst).Nodup)
    (h : ∀ f ∈ F, f.Holds v ((fields.lookup f.name).map toWritten)) :
    F.Writes v (Json.object fields).toWritten := by
  have hgiven : ∀ (fields : List (String × Json)) (n : String), (fields.map Prod.fst).Nodup →
      given n (fieldsToWritten fields) = ((fields.lookup n).map toWritten).toList := by
    intro fields n
    induction fields with
    | nil => exact fun _ => rfl
    | cons m fields ih =>
        obtain ⟨key, j⟩ := m
        intro hnodup
        obtain ⟨hkey, hrest⟩ := List.nodup_cons.mp hnodup
        rw [fieldsToWritten_eq_named] at ih ⊢
        rw [List.map_cons, given_named_cons, ih hrest]
        by_cases hn : key = n
        · subst hn
          simp [lookup_eq_none_iff_notMem.mpr hkey]
        · simp [hn, lookup_cons_of_ne (Ne.symm hn)]
  refine ⟨?_, fun f hf => ⟨_, hgiven fields f.name hkeys, h f hf⟩⟩
  intro m hm
  rw [fieldsToWritten_eq_named] at hm
  obtain ⟨m', -, rfl⟩ := List.mem_map.mp hm
  rfl

/-! ### Formats and codecs -/

/-- A format says what an encoder writes and what a decoder reads, for the
records whose instants are regular. -/
structure Describes (F : Format V) (toJson : V → Json) (ofWritten? : Written → Option V)
    (instants : V → List Instant) : Prop where
  writes : ∀ v, F.Writes v (toJson v).toWritten
  integers : ∀ v, (toJson v).EveryNumber Number.IsInteger
  reads : ∀ {v w}, (∀ t ∈ instants v, t.IsRegular) → F.Writes v w → ofWritten? w = some v
  refuses : ∀ {v w}, ofWritten? w = some v → ¬ F.Malformed w

namespace Describes

variable {toJson : V → Json} {ofWritten? : Written → Option V} {instants : V → List Instant}
  {s : String}

/-- A text that holds a record is read as the record. -/
theorem decode_of_writes (h : F.Describes toJson ofWritten? instants)
    (hv : ∀ t ∈ instants v, t.IsRegular) (hs : Written.read? s = some w) (hw : F.Writes v w) :
    decode ofWritten? s = .ok v := by
  rw [decode, hs, Option.bind_some, h.reads hv hw]

/-- **A record is read back from its text**, whatever the layout. -/
theorem decode_render (h : F.Describes toJson ofWritten? instants)
    (hv : ∀ t ∈ instants v, t.IsRegular) (l : Layout) :
    decode ofWritten? (String.ofList (render l 0 (toJson v))) = .ok v := by
  have hlegible : (toJson v).EveryNumber Number.IsLegible :=
    EveryNumber.imp Number.IsInteger.isLegible _ (h.integers v)
  exact h.decode_of_writes hv (read?_render l hlegible) (h.writes v)

/-- **A malformed text is refused.** -/
theorem decode_of_malformed (h : F.Describes toJson ofWritten? instants)
    (hs : Written.read? s = some w) (hw : F.Malformed w) :
    ∃ e, decode ofWritten? s = .error e := by
  rcases hread : ofWritten? w with - | v
  · exact ⟨_, by rw [decode, hs, Option.bind_some, hread]⟩
  · exact absurd hw (h.refuses hread)

end Describes

end Format

end DoubleEntry.Json
