/-
DoubleEntry/Proofs/Json/Meaning.lean

What written JSON means.  A value that has been read lies within the bound on
nesting and has no key twice (`fits_of_toJson?`).  Such a value, written and
read again, is the value it was but for its doubles (`toJson?_toWritten`), and
where every number is an integer of 64 bits it is the same value
(`reread_eq_self`).
-/
import DoubleEntry.Proofs.Json.Fields
import DoubleEntry.Proofs.Json.ReadBack

namespace DoubleEntry.Json

/-! ### Values within bounds -/

mutual

/-- At most `depth` containers lie within one another, and no object has a
key twice. -/
def Fits (depth : Nat) : Json → Prop
  | .array items =>
      match depth with
      | 0 => False
      | d + 1 => ItemsFit d items
  | .object fields =>
      match depth with
      | 0 => False
      | d + 1 => (fields.map Prod.fst).Nodup ∧ FieldsFit d fields
  | _ => True

/-- `Fits` for each item of an array. -/
def ItemsFit (depth : Nat) : List Json → Prop
  | [] => True
  | item :: items => item.Fits depth ∧ ItemsFit depth items

/-- `Fits` for each field of an object. -/
def FieldsFit (depth : Nat) : List (String × Json) → Prop
  | [] => True
  | (_, value) :: fields => value.Fits depth ∧ FieldsFit depth fields

end

theorem fieldsFit_iff {depth : Nat} {fields : List (String × Json)} :
    FieldsFit depth fields ↔ ∀ m ∈ fields, m.2.Fits depth := by
  induction fields with
  | nil => simp [FieldsFit]
  | cons m fields ih => rw [FieldsFit, ih, List.forall_mem_cons]

mutual

/-- What fits a bound fits every larger one. -/
theorem Fits.mono {depth more : Nat} (h : depth ≤ more) : (j : Json) → j.Fits depth → j.Fits more
  | .null, _ | .bool _, _ | .number _, _ | .string _, _ => trivial
  | .array items, hfits => by
      obtain _ | d := depth
      · exact hfits.elim
      · obtain ⟨d', rfl⟩ := Nat.exists_eq_add_one.mpr (Nat.lt_of_lt_of_le d.succ_pos h)
        exact ItemsFit.mono (Nat.le_of_succ_le_succ h) items hfits
  | .object fields, hfits => by
      obtain _ | d := depth
      · exact hfits.elim
      · obtain ⟨d', rfl⟩ := Nat.exists_eq_add_one.mpr (Nat.lt_of_lt_of_le d.succ_pos h)
        exact ⟨hfits.1, FieldsFit.mono (Nat.le_of_succ_le_succ h) fields hfits.2⟩

/-- `Fits.mono` for the items of an array. -/
theorem ItemsFit.mono {depth more : Nat} (h : depth ≤ more) : (items : List Json) →
    ItemsFit depth items → ItemsFit more items
  | [], _ => trivial
  | item :: items, ⟨hitem, hitems⟩ => ⟨Fits.mono h item hitem, ItemsFit.mono h items hitems⟩

/-- `Fits.mono` for the fields of an object. -/
theorem FieldsFit.mono {depth more : Nat} (h : depth ≤ more) : (fields : List (String × Json)) →
    FieldsFit depth fields → FieldsFit more fields
  | [], _ => trivial
  | (_, value) :: fields, ⟨hvalue, hfields⟩ =>
      ⟨Fits.mono h value hvalue, FieldsFit.mono h fields hfields⟩

end

mutual

/-- **What has been read fits**, at the depth at which it was read. -/
theorem fits_of_toJson? (depth : Nat) : (w : Written) → {j : Json} →
    w.toJson? depth = some j → j.Fits depth
  | .null, _, h | .bool _, _, h => by
      cases h
      exact trivial
  | .numeral _, _, h | .string _, _, h => by
      obtain ⟨_, -, rfl⟩ := Option.map_eq_some_iff.mp h
      exact trivial
  | .array items, _, h => by
      cases depth with
      | zero => cases h
      | succ d =>
          obtain ⟨read, hread, rfl⟩ := Option.map_eq_some_iff.mp h
          exact itemsFit_of_itemsToJson? d items hread
  | .object members, _, h => by
      cases depth with
      | zero => cases h
      | succ d =>
          obtain ⟨read, hread, rfl⟩ := Option.map_eq_some_iff.mp h
          exact ⟨nodup_keys_membersToJson? hread List.nodup_nil,
            fieldsFit_of_membersToJson? d members hread trivial⟩

/-- `fits_of_toJson?` for the items of an array. -/
theorem itemsFit_of_itemsToJson? (depth : Nat) : (ws : List Written) → {items : List Json} →
    Written.itemsToJson? depth ws = some items → ItemsFit depth items
  | [], _, h => by
      cases h
      exact trivial
  | w :: ws, _, h => by
      simp only [Written.itemsToJson?, Option.bind_eq_bind, Option.bind_eq_some_iff,
        Option.pure_def, Option.some.injEq] at h
      obtain ⟨item, hitem, items, hitems, rfl⟩ := h
      exact ⟨fits_of_toJson? depth w hitem, itemsFit_of_itemsToJson? depth ws hitems⟩

/-- `fits_of_toJson?` for the members of an object, which join the fields read
before. -/
theorem fieldsFit_of_membersToJson? (depth : Nat) :
    (members : List (Option String × Written)) → {before fields : List (String × Json)} →
      Written.membersToJson? depth before members = some fields → FieldsFit depth before →
        FieldsFit depth fields
  | [], _, _, h, hbefore => by
      cases h
      exact hbefore
  | (key, w) :: members, before, _, h, hbefore => by
      simp only [Written.membersToJson?, Option.bind_eq_bind, Option.bind_eq_some_iff] at h
      obtain ⟨k, -, j, hj, hrest⟩ := h
      refine fieldsFit_of_membersToJson? depth members hrest (fieldsFit_iff.mpr ?_)
      intro m hm
      rcases mem_put hm with hm | rfl
      · exact fieldsFit_iff.mp hbefore m hm
      · exact fits_of_toJson? depth w hj

end

/-! ### Values that are read again -/

/-- The number that the numeral of a number stands for. -/
def Number.reread (n : Number) : Number :=
  n.numeral.number?.getD n

theorem Number.IsLegible.number? {n : Number} (h : n.IsLegible) :
    n.numeral.number? = some n.reread := by
  obtain ⟨numeral, m, hread, hm⟩ := h
  simp [Number.reread, Number.numeral, hread, hm]

mutual

/-- The value that the text of a value stands for. -/
def reread : Json → Json
  | .null => .null
  | .bool b => .bool b
  | .number n => .number n.reread
  | .string s => .string s
  | .array items => .array (rereadItems items)
  | .object fields => .object (rereadFields fields)

/-- `reread` for each item of an array. -/
def rereadItems : List Json → List Json
  | [] => []
  | item :: items => item.reread :: rereadItems items

/-- `reread` for each field of an object. -/
def rereadFields : List (String × Json) → List (String × Json)
  | [] => []
  | (key, value) :: fields => (key, value.reread) :: rereadFields fields

end

theorem rereadFields_eq_map (fields : List (String × Json)) :
    rereadFields fields = fields.map fun m => (m.1, m.2.reread) := by
  induction fields with
  | nil => rfl
  | cons m fields ih => rw [rereadFields, ih, List.map_cons]

theorem field?_rereadFields (fields : List (String × Json)) (key : String) :
    field? (rereadFields fields) key = (field? fields key).map reread := by
  rw [rereadFields_eq_map]
  exact lookup_map reread fields key

theorem fieldsToWritten_eq_named (fields : List (String × Json)) :
    fieldsToWritten fields = named (fields.map fun m => (m.1, m.2.toWritten)) := by
  induction fields with
  | nil => rfl
  | cons m fields ih =>
      rw [fieldsToWritten, ih]
      rfl

mutual

/-- **A value means, as it is written, the value that is read again.** -/
theorem toJson?_toWritten (depth : Nat) : (j : Json) →
    j.EveryNumber Number.IsLegible → j.Fits depth → j.toWritten.toJson? depth = some j.reread
  | .null, _, _ | .bool _, _, _ | .string _, _, _ => rfl
  | .number n, h, _ => by
      have hnumber : n.numeral.number? = some n.reread := Number.IsLegible.number? h
      simp [toWritten, Written.toJson?, hnumber, reread]
  | .array items, h, hfits => by
      cases depth with
      | zero => exact hfits.elim
      | succ d =>
          simp [toWritten, Written.toJson?, itemsToJson?_itemsToWritten d items h hfits, reread]
  | .object fields, h, hfits => by
      cases depth with
      | zero => exact hfits.elim
      | succ d =>
          obtain ⟨hkeys, hfields⟩ := hfits
          simp [toWritten, Written.toJson?, reread,
            membersToJson?_fieldsToWritten d fields [] hkeys h hfields]

/-- `toJson?_toWritten` for the items of an array. -/
theorem itemsToJson?_itemsToWritten (depth : Nat) : (items : List Json) →
    EveryNumberOfItems Number.IsLegible items → ItemsFit depth items →
      Written.itemsToJson? depth (itemsToWritten items) = some (rereadItems items)
  | [], _, _ => rfl
  | item :: items, ⟨hitem, hitems⟩, ⟨hfit, hfits⟩ => by
      simp [itemsToWritten, Written.itemsToJson?, toJson?_toWritten depth item hitem hfit,
        itemsToJson?_itemsToWritten depth items hitems hfits, rereadItems]

/-- `toJson?_toWritten` for the fields of an object, which come behind the
fields read before. -/
theorem membersToJson?_fieldsToWritten (depth : Nat) :
    (fields before : List (String × Json)) → ((before ++ fields).map Prod.fst).Nodup →
      EveryNumberOfFields Number.IsLegible fields → FieldsFit depth fields →
        Written.membersToJson? depth before (fieldsToWritten fields) =
          some (before ++ rereadFields fields)
  | [], before, _, _, _ => by
      rw [fieldsToWritten, rereadFields, List.append_nil]
      rfl
  | (key, value) :: fields, before, hkeys, ⟨hvalue, hnumbers⟩, ⟨hfit, hfits⟩ => by
      -- the key is new, so that the value goes behind the others
      have hput : put key value.reread before = before ++ [(key, value.reread)] := by
        refine put_of_notMem fun hmem => ?_
        rw [List.map_append, List.nodup_append] at hkeys
        exact hkeys.2.2 key hmem key List.mem_cons_self rfl
      have hkeys' : ((before ++ [(key, value.reread)] ++ fields).map Prod.fst).Nodup := by
        simpa using hkeys
      have hrest := membersToJson?_fieldsToWritten depth fields _ hkeys' hnumbers hfits
      simp [fieldsToWritten, Written.membersToJson?, toJson?_toWritten depth value hvalue hfit,
        hput, hrest, rereadFields]

end

/-! ### Numbers of a value -/

section Numbers

variable {p q : Number → Prop}

mutual

/-- Decides `EveryNumber`. -/
def decideEveryNumber [DecidablePred p] : (j : Json) → Decidable (j.EveryNumber p)
  | .null | .bool _ | .string _ => .isTrue trivial
  | .number n => inferInstanceAs (Decidable (p n))
  | .array items => decideEveryNumberOfItems items
  | .object fields => decideEveryNumberOfFields fields

/-- Decides `EveryNumber` for each item of an array. -/
def decideEveryNumberOfItems [DecidablePred p] :
    (items : List Json) → Decidable (EveryNumberOfItems p items)
  | [] => .isTrue trivial
  | item :: items =>
      have := decideEveryNumber item
      have := decideEveryNumberOfItems items
      inferInstanceAs (Decidable (item.EveryNumber p ∧ EveryNumberOfItems p items))

/-- Decides `EveryNumber` for each field of an object. -/
def decideEveryNumberOfFields [DecidablePred p] :
    (fields : List (String × Json)) → Decidable (EveryNumberOfFields p fields)
  | [] => .isTrue trivial
  | (_, value) :: fields =>
      have := decideEveryNumber value
      have := decideEveryNumberOfFields fields
      inferInstanceAs (Decidable (value.EveryNumber p ∧ EveryNumberOfFields p fields))

end

instance [DecidablePred p] (j : Json) : Decidable (j.EveryNumber p) :=
  decideEveryNumber j

theorem everyNumberOfFields_iff {fields : List (String × Json)} :
    EveryNumberOfFields p fields ↔ ∀ m ∈ fields, m.2.EveryNumber p := by
  induction fields with
  | nil => simp [EveryNumberOfFields]
  | cons m fields ih => rw [EveryNumberOfFields, ih, List.forall_mem_cons]

mutual

theorem EveryNumber.imp (h : ∀ n, p n → q n) : (j : Json) → j.EveryNumber p → j.EveryNumber q
  | .null, _ | .bool _, _ | .string _, _ => trivial
  | .number n, hn => h n hn
  | .array items, hitems => EveryNumberOfItems.imp h items hitems
  | .object fields, hfields => EveryNumberOfFields.imp h fields hfields

theorem EveryNumberOfItems.imp (h : ∀ n, p n → q n) : (items : List Json) →
    EveryNumberOfItems p items → EveryNumberOfItems q items
  | [], _ => trivial
  | item :: items, ⟨hitem, hitems⟩ =>
      ⟨EveryNumber.imp h item hitem, EveryNumberOfItems.imp h items hitems⟩

theorem EveryNumberOfFields.imp (h : ∀ n, p n → q n) : (fields : List (String × Json)) →
    EveryNumberOfFields p fields → EveryNumberOfFields q fields
  | [], _ => trivial
  | (_, value) :: fields, ⟨hvalue, hfields⟩ =>
      ⟨EveryNumber.imp h value hvalue, EveryNumberOfFields.imp h fields hfields⟩

end

/-- The number is an integer that fits a 64-bit word, signed or not. -/
def Number.IsInteger : Number → Prop
  | .int n => -9223372036854775808 ≤ n ∧ n ≤ 18446744073709551615
  | .double _ => False

instance : DecidablePred Number.IsInteger
  | .int n => inferInstanceAs (Decidable (-9223372036854775808 ≤ n ∧ n ≤ 18446744073709551615))
  | .double _ => .isFalse id

theorem Number.IsInteger.isLegible : (n : Number) → n.IsInteger → n.IsLegible
  | .int n, ⟨hlow, hhigh⟩ =>
      ⟨.ofInt n, .int n, Numeral.read?_intDigits n, Numeral.number?_ofInt hlow hhigh⟩

/-- Such an integer is read again as itself. -/
theorem Number.IsInteger.reread : (n : Number) → n.IsInteger → n.reread = n
  | .int n, ⟨hlow, hhigh⟩ => by
      have hread : Numeral.read? (Number.int n).chars = some (.ofInt n) := Numeral.read?_intDigits n
      simp [Number.reread, Number.numeral, hread, Numeral.number?_ofInt hlow hhigh]

mutual

/-- **A value whose numbers are integers is read again as itself.** -/
theorem reread_eq_self : (j : Json) → j.EveryNumber Number.IsInteger → j.reread = j
  | .null, _ | .bool _, _ | .string _, _ => rfl
  | .number n, h => congrArg Json.number (Number.IsInteger.reread n h)
  | .array items, h => congrArg Json.array (rereadItems_eq_self items h)
  | .object fields, h => congrArg Json.object (rereadFields_eq_self fields h)

theorem rereadItems_eq_self : (items : List Json) →
    EveryNumberOfItems Number.IsInteger items → rereadItems items = items
  | [], _ => rfl
  | item :: items, ⟨hitem, hitems⟩ => by
      rw [rereadItems, reread_eq_self item hitem, rereadItems_eq_self items hitems]

theorem rereadFields_eq_self : (fields : List (String × Json)) →
    EveryNumberOfFields Number.IsInteger fields → rereadFields fields = fields
  | [], _ => rfl
  | (key, value) :: fields, ⟨hvalue, hfields⟩ => by
      rw [rereadFields, reread_eq_self value hvalue, rereadFields_eq_self fields hfields]

end

end Numbers

/-! ### Integers of 64 bits -/

theorem isInteger_ofInt64 (n : Int64) : (Number.int n.toInt).IsInteger := by
  have hlow := n.le_toInt
  have hhigh := n.toInt_lt
  show -9223372036854775808 ≤ n.toInt ∧ n.toInt ≤ 18446744073709551615
  omega

theorem isInteger_ofUInt64 (n : UInt64) : (Number.int n.toNat).IsInteger := by
  have h := n.toNat_lt
  show -9223372036854775808 ≤ (n.toNat : Int) ∧ (n.toNat : Int) ≤ 18446744073709551615
  omega

theorem toWritten_int (n : Int) : (Json.int n).toWritten = .numeral (.ofInt n) := by
  have hread : Numeral.read? (Number.int n).chars = some (.ofInt n) := Numeral.read?_intDigits n
  show Written.numeral ((Numeral.read? (Number.int n).chars).getD (.ofInt 0)) = _
  rw [hread]
  rfl

/-- An integer is read back as it is written. -/
theorem int64?_toWritten (n : Int64) : (Json.ofInt64 n).toWritten.int64? = some n := by
  rw [Json.ofInt64, toWritten_int, Written.int64?, Numeral.int?_ofInt, Option.bind_some,
    Text.toInt64?_toInt]

theorem uint64?_toWritten (n : UInt64) : (Json.int n.toNat).toWritten.uint64? = some n := by
  have hvalue : Text.toUInt64? n.toNat = some n := by
    have := n.toNat_lt
    simp only [Text.toUInt64?, Int.toNat_natCast, UInt64.ofNat_toNat]
    exact if_pos (by omega)
  rw [toWritten_int, Written.uint64?, Numeral.int?_ofInt, Option.bind_some, hvalue]

/-! ### Texts -/

/-- A value is read back from its text in front of blanks. -/
theorem parse?_render_append (l : Layout) {j : Json} (hnumbers : j.EveryNumber Number.IsLegible)
    (hfits : j.Fits maxDepth) {blanks : List Char} (hblanks : ∀ c ∈ blanks, isSpace c = true) :
    parse? (String.ofList (render l 0 j ++ blanks)) = some j.reread := by
  rw [parse?, read?_render_append l hnumbers hblanks, Option.bind_some]
  exact toJson?_toWritten maxDepth j hnumbers hfits

/-- **A value is read back from its text**, but for its doubles, whatever the
layout. -/
theorem parse?_render (l : Layout) {j : Json} (hnumbers : j.EveryNumber Number.IsLegible)
    (hfits : j.Fits maxDepth) : parse? (String.ofList (render l 0 j)) = some j.reread := by
  have hread := parse?_render_append l hnumbers hfits fun c (hc : c ∈ []) => nomatch hc
  rwa [List.append_nil] at hread

end DoubleEntry.Json
