/-
DoubleEntry/Proofs/Settings/File.lean

Settings and their JSON.  Settings that are read are those of the file, and
they hold the keys they do not manage with its values
(`SettingsFile.holds_of_ofWritten?`).  Settings that are written are read
back, but for the doubles among those values (`SettingsFile.parse?_render`).
-/
import DoubleEntry.Proofs.Json.Meaning
import DoubleEntry.Settings.File

namespace DoubleEntry

open DoubleEntry.Json

/-! ### One key and the others -/

section SplitKey

variable {key other : String} {ms : List (String × Written)} {given : Option Written}

theorem splitKey_of_notMem (h : key ∉ ms.map Prod.fst) : splitKey key ms = ([], ms) := by
  have hne : ∀ m ∈ ms, m.1 ≠ key := fun m hm heq => h (List.mem_map.mpr ⟨m, hm, heq⟩)
  have hnone : (ms.filter fun m => m.1 = key) = [] :=
    List.filter_eq_nil_iff.mpr fun m hm => by simpa using hne m hm
  have hall : (ms.filter fun m => m.1 ≠ key) = ms :=
    List.filter_eq_self.mpr fun m hm => by simpa using hne m hm
  simp only [splitKey, hnone, hall, List.map_nil]

theorem splitKey_cons_self (key : String) (w : Written) (ms : List (String × Written)) :
    splitKey key ((key, w) :: ms) = (w :: (splitKey key ms).1, (splitKey key ms).2) := by
  simp [splitKey]

/-- A key in front of members that do not have it. -/
theorem splitKey_toList_append (given : Option Written) (h : key ∉ ms.map Prod.fst) :
    splitKey key ((given.map fun w => (key, w)).toList ++ ms) = (given.toList, ms) := by
  cases given with
  | none => exact splitKey_of_notMem h
  | some w =>
      show splitKey key ((key, w) :: ms) = _
      rw [splitKey_cons_self, splitKey_of_notMem h]
      rfl

theorem single?_toList (given : Option Written) : single? given.toList = some given := by
  cases given <;> rfl

theorem eq_toList_of_single? {ws : List Written} (h : single? ws = some given) :
    ws = given.toList := by
  match ws, h with
  | [], rfl | [_], rfl => rfl

/-- A key that is given at most once is given last where it is given. -/
theorem lookup_of_single? (h : single? (splitKey key ms).1 = some given) :
    ms.reverse.lookup key = given := by
  -- the members that have the key are none, or one with the value
  have hmembers : (ms.filter fun m => m.1 = key) = (given.map fun w => (key, w)).toList := by
    have hvalues : (ms.filter fun m => m.1 = key).map (·.2) = given.toList := eq_toList_of_single? h
    have hself : ∀ m ∈ ms.filter fun m => m.1 = key, (key, m.2) = id m := by
      intro m hm
      have hkey : m.1 = key := by simpa using (List.mem_filter.mp hm).2
      rw [← hkey]
      rfl
    rw [Option.toList_map, ← hvalues, List.map_map]
    exact ((List.map_congr_left hself).trans (List.map_id _)).symm
  rw [← lookup_filter_eq, List.filter_reverse, hmembers]
  cases given with
  | none => rfl
  | some w => exact List.lookup_cons_self

theorem lookup_splitKey (h : other ≠ key) :
    (splitKey key ms).2.reverse.lookup other = ms.reverse.lookup other := by
  rw [splitKey, ← List.filter_reverse]
  exact lookup_filter_ne h ms.reverse

theorem lookup_splitKey_self : (splitKey key ms).2.reverse.lookup key = none := by
  rw [lookup_eq_none_iff_notMem]
  intro hmem
  obtain ⟨m, hm, rfl⟩ := List.mem_map.mp hmem
  simp [splitKey] at hm

variable {depth : Nat} {rest fields : List (String × Json)}

/-- The value of a key is the value meant that is given last. -/
theorem field?_otherFields? (h : otherFields? depth ms = some fields) (key : String) :
    field? fields key = (ms.reverse.lookup key).bind fun w => w.toJson? depth := by
  rw [field?_membersToJson? key h]
  exact Option.or_none

theorem field?_otherFields?_splitKey (h : otherFields? depth (splitKey key ms).2 = some fields) :
    field? fields key = none := by
  rw [field?_otherFields? h, lookup_splitKey_self, Option.bind_none]

/-- Fields that are read are sound. -/
theorem nodup_fit_of_otherFields? (h : otherFields? depth ms = some fields) :
    (fields.map Prod.fst).Nodup ∧ FieldsFit depth fields :=
  ⟨nodup_keys_membersToJson? h List.nodup_nil, fieldsFit_of_membersToJson? depth _ h trivial⟩

/-- They are the fields of the object that the members are of. -/
theorem toJson?_object (h : otherFields? depth ms = some fields) :
    (Written.object (named ms)).toJson? (depth + 1) = some (.object fields) := by
  show (Written.membersToJson? depth [] (named ms)).map Json.object = _
  rw [show Written.membersToJson? depth [] (named ms) = some fields from h]
  rfl

/-- Where one key is read by itself, the others are as if all had been read
together. -/
theorem otherFields?_of_splitKey (hgiven : single? (splitKey key ms).1 = some given)
    (hvalue : ∀ w, given = some w → ∃ j, w.toJson? depth = some j)
    (hrest : otherFields? depth (splitKey key ms).2 = some rest) :
    ∃ fields, otherFields? depth ms = some fields ∧
      field? fields key = (given.bind fun w => w.toJson? depth) ∧
      ∀ other, other ≠ key → field? fields other = field? rest other := by
  have hall : ∀ m ∈ ms, ∃ j, m.2.toJson? depth = some j := by
    intro m hm
    by_cases hkey : m.1 = key
    · have hmem : m.2 ∈ (splitKey key ms).1 :=
        List.mem_map_of_mem (List.mem_filter.mpr ⟨hm, by simpa using hkey⟩)
      rw [eq_toList_of_single? hgiven] at hmem
      exact hvalue m.2 (Option.mem_toList.mp hmem)
    · have hmem : m ∈ (splitKey key ms).2 := List.mem_filter.mpr ⟨hm, by simpa using hkey⟩
      exact toJson?_of_mem hmem hrest
  obtain ⟨fields, hfields⟩ := exists_membersToJson? hall []
  refine ⟨fields, hfields, ?_, fun other hne => ?_⟩
  · rw [field?_otherFields? hfields, lookup_of_single? hgiven]
  · rw [field?_otherFields? hfields, field?_otherFields? hrest, lookup_splitKey hne]

end SplitKey

/-! ### Settings that can be written -/

namespace LedgerSettings

/-- The keys of the settings of the ledger that are managed. -/
def managedKeys : List String :=
  ["dbFile", "verifyEmailTtlMinutes", "defaultPageSize"]

/-- No key is there twice, and the nesting is bounded. -/
structure Sound (s : LedgerSettings) : Prop where
  keys : (s.other.map Prod.fst).Nodup
  unmanaged : ∀ key ∈ managedKeys, key ∉ s.other.map Prod.fst
  fits : FieldsFit (maxDepth - 2) s.other

theorem Sound.default : ({} : LedgerSettings).Sound :=
  ⟨List.nodup_nil, fun _ _ => List.not_mem_nil, trivial⟩

end LedgerSettings

namespace SettingsFile

/-- No key is there twice, and the nesting is bounded. -/
structure Sound (s : SettingsFile) : Prop where
  ledger : s.ledger.Sound
  keys : (s.other.map Prod.fst).Nodup
  unmanaged : "ledger" ∉ s.other.map Prod.fst
  fits : FieldsFit (maxDepth - 1) s.other

/-- Every number among the values that are kept is such a number. -/
structure EveryNumber (p : Number → Prop) (s : SettingsFile) : Prop where
  ledger : EveryNumberOfFields p s.ledger.other
  other : EveryNumberOfFields p s.other

/-- The settings that are read from the text of settings. -/
def reread (s : SettingsFile) : SettingsFile :=
  { ledger := { s.ledger with other := rereadFields s.ledger.other }
    other := rereadFields s.other }

end SettingsFile

/-! ### What is read -/

/-- A value that is not null. -/
def Json.nonNull? : Json → Option Json
  | .null => none
  | j => some j

/-- The fields of the settings of the ledger in the fields of a settings file;
there are none if the file does not give them. -/
def ledgerFields? (fields : List (String × Json)) : Option (List (String × Json)) :=
  match field? fields "ledger" with
  | none => some []
  | some (.object ledger) => some ledger
  | some _ => none

/-- The settings of the ledger are those among these fields; null stands for a
setting that is not there. -/
structure LedgerSettings.ManagedIn (s : LedgerSettings) (fields : List (String × Json)) :
    Prop where
  dbFile : (field? fields "dbFile").bind Json.nonNull? = s.dbFile.map Json.string
  minutes : (field? fields "verifyEmailTtlMinutes").bind Json.nonNull? =
    s.verifyEmailTtlMinutes.map Json.ofInt64
  pageSize : (field? fields "defaultPageSize").bind Json.nonNull? =
    s.defaultPageSize.map Json.ofInt64

/-- The settings hold the keys that they do not manage with the values of the
file. -/
structure SettingsFile.Holds (s : SettingsFile) (fields : List (String × Json)) : Prop where
  ledger : ∃ ledger, ledgerFields? fields = some ledger ∧
    ∀ key, key ∉ LedgerSettings.managedKeys → field? ledger key = field? s.ledger.other key
  other : ∀ key, key ≠ "ledger" → field? fields key = field? s.other key

section Fields

variable {w : Written} {given : Option Written} {depth : Nat}

/-- A string has the value that is read. -/
theorem toJson?_of_string? {s : String} (h : w.string? = some s) :
    w.toJson? depth = some (.string s) := by
  cases w with
  | string t =>
      obtain rfl : t = some s := h
      rfl
  | null | bool _ | numeral _ | array _ | object _ => cases h

/-- So does an integer. -/
theorem toJson?_of_int64? {n : Int64} (h : w.int64? = some n) :
    w.toJson? depth = some (.ofInt64 n) := by
  cases w with
  | numeral m =>
      obtain ⟨i, hi, hread⟩ := Option.bind_eq_some_iff.mp h
      obtain rfl := Text.toInt_of_toInt64? hread
      have hlow := n.le_toInt
      have hhigh := n.toInt_lt
      have hrange : -9223372036854775808 ≤ n.toInt ∧ n.toInt ≤ 18446744073709551615 := by omega
      simp [Written.toJson?, Numeral.number?, hi, hrange, Json.ofInt64, Json.int]
  | null | bool _ | string _ | array _ | object _ => cases h

theorem string_ne_null (s : String) : Json.string s ≠ .null := by
  intro h
  cases h

theorem ofInt64_ne_null (n : Int64) : Json.ofInt64 n ≠ .null := by
  intro h
  cases h

variable {α : Type} {read? : Written → Option α} {value : α → Json} {v : Option α}

/-- A field that may be left out is not there, or null, or has the value that
is read. -/
theorem eq_of_optional (h : optional read? given = some v) :
    ((given = none ∨ given = some .null) ∧ v = none) ∨
      ∃ w a, given = some w ∧ read? w = some a ∧ v = some a := by
  match given, h with
  | none, rfl => exact .inl ⟨.inl rfl, rfl⟩
  | some w, h =>
      rw [Json.optional.eq_def] at h
      split at h
      case h_1 hnone => cases hnone
      case h_2 hnull => exact .inl ⟨.inr hnull, (Option.some.inj h).symm⟩
      case h_3 hw =>
        obtain ⟨a, ha, rfl⟩ := Option.map_eq_some_iff.mp h
        exact .inr ⟨_, a, hw, ha, rfl⟩

/-- In any case it has a JSON value, if it is there. -/
theorem exists_toJson?_of_optional
    (hread : ∀ w a, read? w = some a → w.toJson? depth = some (value a))
    (h : optional read? given = some v) (w : Written) (hw : given = some w) :
    ∃ j, w.toJson? depth = some j := by
  subst hw
  rcases eq_of_optional h with ⟨hnull | hnull, -⟩ | ⟨w', a, hw', ha, -⟩
  · cases hnull
  · obtain rfl := Option.some.inj hnull
    exact ⟨.null, rfl⟩
  · obtain rfl := Option.some.inj hw'
    exact ⟨value a, hread w a ha⟩

/-- A value that is not null is the one that is read. -/
theorem nonNull?_of_optional
    (hread : ∀ w a, read? w = some a → w.toJson? depth = some (value a))
    (hne : ∀ a, value a ≠ .null) (h : optional read? given = some v) :
    (given.bind fun w => w.toJson? depth).bind Json.nonNull? = v.map value := by
  rcases eq_of_optional h with ⟨rfl | rfl, rfl⟩ | ⟨w, a, rfl, ha, rfl⟩
  · rfl
  · rfl
  · rw [Option.bind_some, hread w a ha, Option.bind_some, Option.map_some, Json.nonNull?.eq_def]
    split
    case h_1 hnull => exact absurd hnull (hne a)
    case h_2 => rfl

end Fields

theorem LedgerSettings.holds_of_ofWritten? {w : Written} {s : LedgerSettings}
    (h : LedgerSettings.ofWritten? w = some s) :
    s.Sound ∧ ∃ fields, w.toJson? (maxDepth - 1) = some (.object fields) ∧ s.ManagedIn fields ∧
      ∀ key, key ∉ managedKeys → field? fields key = field? s.other key := by
  cases w with
  | object members =>
      simp only [ofWritten?, Option.bind_eq_bind, Option.bind_eq_some_iff, Option.pure_def,
        Option.some.injEq] at h
      obtain ⟨ms, hms, givenFile, hgivenFile, dbFile, hdbFile, givenMinutes, hgivenMinutes, minutes,
        hminutes, givenSize, hgivenSize, pageSize, hpageSize, other, hother, rfl⟩ := h
      obtain rfl := eq_named_of_namedMembers? hms
      -- the managed keys go back one by one, the last first
      obtain ⟨fields₂, hfields₂, hvalue₂, hkept₂⟩ := otherFields?_of_splitKey hgivenSize
        (exists_toJson?_of_optional (fun _ _ => toJson?_of_int64?) hpageSize) hother
      obtain ⟨fields₁, hfields₁, hvalue₁, hkept₁⟩ := otherFields?_of_splitKey hgivenMinutes
        (exists_toJson?_of_optional (fun _ _ => toJson?_of_int64?) hminutes) hfields₂
      obtain ⟨fields, hfields, hvalue, hkept⟩ := otherFields?_of_splitKey hgivenFile
        (exists_toJson?_of_optional (fun _ _ => toJson?_of_string?) hdbFile) hfields₁
      obtain ⟨hkeys, hfits⟩ := nodup_fit_of_otherFields? hother
      refine ⟨⟨hkeys, fun key hkey => ?_, hfits⟩, fields, toJson?_object hfields, ⟨?_, ?_, ?_⟩,
        fun key hkey => ?_⟩
      case refine_1 =>
        apply lookup_eq_none_iff_notMem.mp
        show field? other key = none
        rw [field?_otherFields? hother]
        simp only [managedKeys, List.mem_cons, List.not_mem_nil, or_false] at hkey
        rcases hkey with rfl | rfl | rfl
        · simp [lookup_splitKey, lookup_splitKey_self]
        · simp [lookup_splitKey, lookup_splitKey_self]
        · simp [lookup_splitKey_self]
      case refine_2 =>
        rw [hvalue]
        exact nonNull?_of_optional (fun _ _ => toJson?_of_string?) string_ne_null hdbFile
      case refine_3 =>
        rw [hkept _ (by decide), hvalue₁]
        exact nonNull?_of_optional (fun _ _ => toJson?_of_int64?) ofInt64_ne_null hminutes
      case refine_4 =>
        rw [hkept _ (by decide), hkept₁ _ (by decide), hvalue₂]
        exact nonNull?_of_optional (fun _ _ => toJson?_of_int64?) ofInt64_ne_null hpageSize
      case refine_5 =>
        simp only [managedKeys, List.mem_cons, List.not_mem_nil, or_false, not_or] at hkey
        rw [hkept key hkey.1, hkept₁ key hkey.2.1, hkept₂ key hkey.2.2]
  | null | bool _ | numeral _ | string _ | array _ => cases h

/-- **Settings that are read** are sound.  They hold what the file has besides
them, and are themselves those of the file. -/
theorem SettingsFile.holds_of_ofWritten? {w : Written} {s : SettingsFile}
    (h : SettingsFile.ofWritten? w = some s) :
    s.Sound ∧ ∃ fields, w.toJson? maxDepth = some (.object fields) ∧ s.Holds fields ∧
      ∀ ledger, ledgerFields? fields = some ledger → s.ledger.ManagedIn ledger := by
  cases w with
  | object members =>
      simp only [ofWritten?, Option.bind_eq_bind, Option.bind_eq_some_iff, Option.pure_def] at h
      obtain ⟨ms, hms, given, hgiven, h⟩ := h
      obtain rfl := eq_named_of_namedMembers? hms
      have hsound : ∀ {ledger other}, ledger.Sound →
          otherFields? (maxDepth - 1) (splitKey "ledger" ms).2 = some other →
            SettingsFile.Sound { ledger, other } := by
        intro ledger other hledger hother
        obtain ⟨hkeys, hfits⟩ := nodup_fit_of_otherFields? hother
        have hunmanaged : field? other "ledger" = none := field?_otherFields?_splitKey hother
        exact ⟨hledger, hkeys, lookup_eq_none_iff_notMem.mp hunmanaged, hfits⟩
      cases given with
      | none =>
          obtain ⟨ledger, hledger, h⟩ := Option.bind_eq_some_iff.mp h
          obtain ⟨other, hother, hs⟩ := Option.bind_eq_some_iff.mp h
          obtain rfl := Option.some.inj hledger
          obtain rfl := Option.some.inj hs
          obtain ⟨fields, hfields, hnone, hkept⟩ := otherFields?_of_splitKey hgiven
            (fun w hw => by cases hw) hother
          have hempty : ledgerFields? fields = some [] := by
            rw [ledgerFields?, show field? fields "ledger" = none from hnone]
          refine ⟨hsound .default hother, fields, toJson?_object hfields,
            ⟨⟨[], hempty, fun _ _ => rfl⟩, hkept⟩, ?_⟩
          intro ledger hledger
          obtain rfl := Option.some.inj (hempty.symm.trans hledger)
          exact ⟨rfl, rfl, rfl⟩
      | some w =>
          obtain ⟨ledger, hledger, h⟩ := Option.bind_eq_some_iff.mp h
          obtain ⟨other, hother, hs⟩ := Option.bind_eq_some_iff.mp h
          obtain rfl := Option.some.inj hs
          obtain ⟨hledgerSound, old, hold, hmanaged, hkeptOld⟩ :=
            LedgerSettings.holds_of_ofWritten? hledger
          obtain ⟨fields, hfields, hvalue, hkept⟩ := otherFields?_of_splitKey hgiven
            (fun w' hw' => ⟨.object old, by rwa [← Option.some.inj hw']⟩) hother
          have hobject : ledgerFields? fields = some old := by
            rw [ledgerFields?, hvalue, Option.bind_some, hold]
          refine ⟨hsound hledgerSound hother, fields, toJson?_object hfields,
            ⟨⟨old, hobject, hkeptOld⟩, hkept⟩, ?_⟩
          intro ledger' hledger'
          obtain rfl := Option.some.inj (hobject.symm.trans hledger')
          exact hmanaged
  | null | bool _ | numeral _ | string _ | array _ => cases h

/-! ### What is written -/

/-- The fields that are kept are read as they are written. -/
theorem otherFields?_written {depth : Nat} {fields : List (String × Json)}
    (hkeys : (fields.map Prod.fst).Nodup) (hfits : FieldsFit depth fields)
    (hnumbers : EveryNumberOfFields Number.IsLegible fields) :
    otherFields? depth (fields.map fun m => (m.1, m.2.toWritten)) = some (rereadFields fields) := by
  have hread := membersToJson?_fieldsToWritten depth fields [] hkeys hnumbers hfits
  rwa [fieldsToWritten_eq_named] at hread

theorem keys_written (fields : List (String × Json)) :
    (fields.map fun m => (m.1, m.2.toWritten)).map Prod.fst = fields.map Prod.fst := by
  rw [List.map_map]
  rfl

theorem optional_string?_written (v : Option String) :
    optional Written.string? (v.map fun v => (Json.string v).toWritten) = some v := by
  cases v <;> rfl

theorem optional_int64?_written (v : Option Int64) :
    optional Written.int64? (v.map fun v => (Json.ofInt64 v).toWritten) = some v := by
  cases v with
  | none => rfl
  | some n =>
      show (Json.ofInt64 n).toWritten.int64?.map some = _
      rw [int64?_toWritten]
      rfl

namespace LedgerSettings

/-- Members in the order in which they are written. -/
def writtenMembers (dbFile minutes pageSize : Option Written) (others : List (String × Written)) :
    List (String × Written) :=
  (dbFile.map fun w => ("dbFile", w)).toList ++
    ((minutes.map fun w => ("verifyEmailTtlMinutes", w)).toList ++
      ((pageSize.map fun w => ("defaultPageSize", w)).toList ++ others))

theorem ofWritten?_writtenMembers {dbFile minutes pageSize : Option Written}
    {others : List (String × Written)} {s : LedgerSettings}
    (hkeys : ∀ key ∈ managedKeys, key ∉ others.map Prod.fst)
    (hdbFile : optional Written.string? dbFile = some s.dbFile)
    (hminutes : optional Written.int64? minutes = some s.verifyEmailTtlMinutes)
    (hpageSize : optional Written.int64? pageSize = some s.defaultPageSize)
    (hothers : otherFields? (maxDepth - 2) others = some s.other) :
    ofWritten? (.object (named (writtenMembers dbFile minutes pageSize others))) = some s := by
  simp only [managedKeys, List.forall_mem_cons] at hkeys
  obtain ⟨hfirst, hsecond, hthird, -⟩ := hkeys
  have hfirst : "dbFile" ∉ ((minutes.map fun w => ("verifyEmailTtlMinutes", w)).toList ++
      ((pageSize.map fun w => ("defaultPageSize", w)).toList ++ others)).map Prod.fst := by
    simpa using hfirst
  have hsecond : "verifyEmailTtlMinutes" ∉
      ((pageSize.map fun w => ("defaultPageSize", w)).toList ++ others).map Prod.fst := by
    simpa using hsecond
  rw [ofWritten?, namedMembers?_named, writtenMembers]
  simp [splitKey_toList_append _ hfirst, splitKey_toList_append _ hsecond,
    splitKey_toList_append _ hthird, single?_toList, hdbFile, hminutes, hpageSize, hothers]

theorem toWritten_toJson (s : LedgerSettings) :
    s.toJson.toWritten = .object (named (writtenMembers
      (s.dbFile.map fun v => (Json.string v).toWritten)
      (s.verifyEmailTtlMinutes.map fun v => (Json.ofInt64 v).toWritten)
      (s.defaultPageSize.map fun v => (Json.ofInt64 v).toWritten)
      (s.other.map fun m => (m.1, m.2.toWritten)))) := by
  rw [toJson, toWritten, fieldsToWritten_eq_named, writtenMembers]
  simp only [List.map_append, List.append_assoc, Option.toList_map, List.map_map]
  rfl

/-- The settings of the ledger are read back as they are written. -/
theorem ofWritten?_toWritten {s : LedgerSettings} (hs : s.Sound)
    (hnumbers : EveryNumberOfFields Number.IsLegible s.other) :
    ofWritten? s.toJson.toWritten = some { s with other := rereadFields s.other } := by
  rw [toWritten_toJson]
  apply ofWritten?_writtenMembers
  case hkeys =>
    intro key hkey
    rw [keys_written]
    exact hs.unmanaged key hkey
  case hdbFile => exact optional_string?_written s.dbFile
  case hminutes => exact optional_int64?_written s.verifyEmailTtlMinutes
  case hpageSize => exact optional_int64?_written s.defaultPageSize
  case hothers => exact otherFields?_written hs.keys hs.fits hnumbers

/-- What is written is a string, an integer or a field that is kept. -/
theorem cases_of_mem {s : LedgerSettings} {fields : List (String × Json)}
    (hfields : s.toJson = .object fields) {m : String × Json} (hm : m ∈ fields) :
    (∃ v, m.2 = .string v) ∨ (∃ n, m.2 = .ofInt64 n) ∨ m ∈ s.other := by
  obtain rfl := Json.object.inj hfields
  simp only [List.mem_append, Option.mem_toList, Option.map_eq_some_iff] at hm
  rcases hm with ((⟨v, -, rfl⟩ | ⟨n, -, rfl⟩) | ⟨n, -, rfl⟩) | hm
  · exact .inl ⟨v, rfl⟩
  · exact .inr (.inl ⟨n, rfl⟩)
  · exact .inr (.inl ⟨n, rfl⟩)
  · exact .inr (.inr hm)

theorem everyNumber_toJson {p : Number → Prop} {s : LedgerSettings}
    (hintegers : ∀ n, n.IsInteger → p n) (hnumbers : EveryNumberOfFields p s.other) :
    s.toJson.EveryNumber p := by
  apply everyNumberOfFields_iff.mpr
  intro m hm
  rcases cases_of_mem rfl hm with ⟨v, hv⟩ | ⟨n, hn⟩ | hkept
  · rw [hv]
    exact trivial
  · rw [hn]
    exact hintegers _ (isInteger_ofInt64 n)
  · exact everyNumberOfFields_iff.mp hnumbers m hkept

theorem fits_toJson {s : LedgerSettings} (hs : s.Sound) : s.toJson.Fits (maxDepth - 1) := by
  constructor
  case left =>
    have hunmanaged := hs.unmanaged
    simp only [managedKeys, List.forall_mem_cons] at hunmanaged
    obtain ⟨hdbFile, hminutes, hpageSize, -⟩ := hunmanaged
    simp only [List.map_append, List.append_assoc, Option.toList_map, List.map_map]
    cases s.dbFile <;> cases s.verifyEmailTtlMinutes <;> cases s.defaultPageSize <;>
      simp [hs.keys, hdbFile, hminutes, hpageSize]
  case right =>
    apply fieldsFit_iff.mpr
    intro m hm
    rcases cases_of_mem rfl hm with ⟨v, hv⟩ | ⟨n, hn⟩ | hkept
    · rw [hv]
      exact trivial
    · rw [hn]
      exact trivial
    · exact fieldsFit_iff.mp hs.fits m hkept

end LedgerSettings

namespace SettingsFile

variable {s : SettingsFile}

theorem ofWritten?_toWritten (hs : s.Sound) (hnumbers : s.EveryNumber Number.IsLegible) :
    ofWritten? s.toJson.toWritten = some s.reread := by
  have hkey : "ledger" ∉ (s.other.map fun m => (m.1, m.2.toWritten)).map Prod.fst := by
    rw [keys_written]
    exact hs.unmanaged
  have hwritten : s.toJson.toWritten = .object (named
      (("ledger", s.ledger.toJson.toWritten) :: s.other.map fun m => (m.1, m.2.toWritten))) := by
    rw [toJson, toWritten, fieldsToWritten_eq_named]
    rfl
  rw [hwritten, ofWritten?, namedMembers?_named]
  simp [splitKey_cons_self, splitKey_of_notMem hkey, single?,
    LedgerSettings.ofWritten?_toWritten hs.ledger hnumbers.ledger,
    otherFields?_written hs.keys hs.fits hnumbers.other, reread]

theorem everyNumber_toJson {p : Number → Prop} (hintegers : ∀ n, n.IsInteger → p n)
    (hnumbers : s.EveryNumber p) : s.toJson.EveryNumber p :=
  ⟨LedgerSettings.everyNumber_toJson hintegers hnumbers.ledger, hnumbers.other⟩

theorem fits_toJson (hs : s.Sound) : s.toJson.Fits maxDepth :=
  ⟨List.nodup_cons.mpr ⟨hs.unmanaged, hs.keys⟩, LedgerSettings.fits_toJson hs.ledger, hs.fits⟩

/-- **Settings that are written are read back**, but for the doubles among the
values that are kept. -/
theorem parse?_render (hs : s.Sound) (hnumbers : s.EveryNumber Number.IsLegible) :
    parse? s.render = some s.reread := by
  have hread : Written.read? s.render = some s.toJson.toWritten :=
    read?_render .indented (everyNumber_toJson Number.IsInteger.isLegible hnumbers)
  rw [parse?, hread]
  exact ofWritten?_toWritten hs hnumbers

/-- Their text is the text of the JSON value they stand for. -/
theorem value_render (hs : s.Sound) (hnumbers : s.EveryNumber Number.IsLegible) :
    Json.parse? s.render = some s.toJson.reread :=
  Json.parse?_render .indented (everyNumber_toJson Number.IsInteger.isLegible hnumbers)
    (fits_toJson hs)

/-- Without doubles they are read back as they are. -/
theorem reread_eq_self (hnumbers : s.EveryNumber Number.IsInteger) : s.reread = s := by
  rw [reread, rereadFields_eq_self _ hnumbers.ledger, rereadFields_eq_self _ hnumbers.other]

end SettingsFile

end DoubleEntry
