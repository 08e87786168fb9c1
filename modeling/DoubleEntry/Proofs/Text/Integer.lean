/-
DoubleEntry/Proofs/Text/Integer.lean

Decimal integers.  `Spells` says which texts stand for an integer: at least
one digit, with or without a sign in front.  Reading accepts these and no
others (`readInt?_eq_some_iff`), and a 64-bit integer is read exactly where
the integer that is spelled is one (`readInt64?_eq_some_iff`).  What is
written is read back (`readInt64?_int64Text`).
-/
import DoubleEntry.Proofs.Json.Numeral

namespace DoubleEntry.Text

/-! ### Texts that spell an integer -/

/-- Digits, and at least one of them. -/
def AreDigits (cs : List Char) : Prop :=
  cs ≠ [] ∧ ∀ c ∈ cs, c.isDigit = true

/-- The text stands for an integer in decimal. -/
inductive Spells : List Char → Int → Prop
  | unsigned {ds : List Char} (digits : AreDigits ds) : Spells ds (Nat.ofDigitChars 10 ds 0)
  | plus {ds : List Char} (digits : AreDigits ds) : Spells ('+' :: ds) (Nat.ofDigitChars 10 ds 0)
  | minus {ds : List Char} (digits : AreDigits ds) :
      Spells ('-' :: ds) (-(Nat.ofDigitChars 10 ds 0 : Int))

variable {cs : List Char} {acc n : Nat} {i : Int} {m : Int64}

/-! ### Digits -/

/-- Only digits are read, all of them. -/
theorem readDigitsAfter_eq_some_iff :
    readDigitsAfter acc cs = some n ↔
      (∀ c ∈ cs, c.isDigit = true) ∧ Nat.ofDigitChars 10 cs acc = n := by
  induction cs generalizing acc with
  | nil => simp [readDigitsAfter]
  | cons c cs ih =>
      by_cases hc : c.isDigit = true
      · rw [readDigitsAfter, digitValue?_of_isDigit hc, Option.bind_some, ih,
          Nat.ofDigitChars_cons, List.forall_mem_cons]
        simp [hc]
      · have hnone : digitValue? c = none := by
          rw [← Option.not_isSome_iff_eq_none]
          exact fun hsome => hc (Json.Numeral.isDigit_of_digitValue? hsome)
        simp [readDigitsAfter, hnone, hc]

theorem readNat?_eq_some_iff :
    readNat? cs = some n ↔ AreDigits cs ∧ Nat.ofDigitChars 10 cs 0 = n := by
  cases cs with
  | nil => simp [readNat?, AreDigits]
  | cons c cs =>
      rw [readNat?, readDigitsAfter_eq_some_iff, AreDigits]
      · simp
      · simp

/-- The same, where the number is taken for an integer. -/
theorem readNat?_cast_eq_some_iff :
    (do return (← readNat? cs : Nat) : Option Int) = some i ↔
      AreDigits cs ∧ (Nat.ofDigitChars 10 cs 0 : Int) = i := by
  simp only [Option.bind_eq_bind, Option.bind_eq_some_iff, readNat?_eq_some_iff, Option.pure_def,
    Option.some.injEq]
  constructor
  · rintro ⟨n, ⟨hdigits, rfl⟩, rfl⟩
    exact ⟨hdigits, rfl⟩
  · rintro ⟨hdigits, rfl⟩
    exact ⟨_, ⟨hdigits, rfl⟩, rfl⟩

/-! ### Signs -/

/-- A sign is no digit, so that without one the digits are read at once. -/
theorem readInt?_of_areDigits (h : AreDigits cs) :
    readInt? cs = some (Nat.ofDigitChars 10 cs 0 : Int) := by
  have hread := readNat?_cast_eq_some_iff.mpr ⟨h, rfl⟩
  unfold readInt?
  split
  · exact absurd (h.2 '-' List.mem_cons_self) (by decide)
  · exact absurd (h.2 '+' List.mem_cons_self) (by decide)
  · rw [hread]
    rfl

/-- **An integer is read from the texts that spell it**, and from no others. -/
theorem readInt?_eq_some_iff : readInt? cs = some i ↔ Spells cs i := by
  constructor
  · intro h
    unfold readInt? at h
    -- a sign in front of the digits, or none
    split at h
    all_goals
      obtain ⟨n, hn, rfl⟩ := Option.map_eq_some_iff.mp h
      obtain ⟨hdigits, rfl⟩ := readNat?_cast_eq_some_iff.mp hn
    · exact .minus hdigits
    · exact .plus hdigits
    · exact .unsigned hdigits
  · intro h
    cases h with
    | unsigned hdigits => exact readInt?_of_areDigits hdigits
    | plus hdigits =>
        rw [readInt?, readNat?_cast_eq_some_iff.mpr ⟨hdigits, rfl⟩]
        rfl
    | minus hdigits =>
        rw [readInt?, readNat?_cast_eq_some_iff.mpr ⟨hdigits, rfl⟩]
        rfl

/-! ### Words of 64 bits -/

/-- A 64-bit integer is read from the texts that spell its value. -/
theorem readInt64?_eq_some_iff : readInt64? cs = some m ↔ Spells cs m.toInt := by
  rw [readInt64?, Option.bind_eq_some_iff, ← readInt?_eq_some_iff]
  constructor
  · rintro ⟨i, hi, hm⟩
    rw [hi, toInt_of_toInt64? hm]
  · intro h
    exact ⟨m.toInt, h, toInt64?_toInt m⟩

/-- The text of an integer spells it. -/
theorem spells_intDigits (i : Int) : Spells (intDigits i) i := by
  have hdigits : ∀ n : Nat, AreDigits (natDigits n) := fun n =>
    ⟨natDigits_ne_nil n, fun _ => isDigit_of_mem_natDigits⟩
  have hvalue : ∀ n : Nat, Nat.ofDigitChars 10 (natDigits n) 0 = n := fun n =>
    Nat.ofDigitChars_ten_toDigits
  by_cases hi : i < 0
  · have hspells := Spells.minus (hdigits i.natAbs)
    rw [hvalue, show -(i.natAbs : Int) = i by omega] at hspells
    rwa [intDigits, if_pos hi]
  · have hspells := Spells.unsigned (hdigits i.toNat)
    rw [hvalue, show (i.toNat : Int) = i by omega] at hspells
    rwa [intDigits, if_neg hi]

/-- **What is written is read back.** -/
theorem readInt64?_int64Text (m : Int64) : readInt64? (int64Text m).toList = some m := by
  rw [readInt64?_eq_some_iff, int64Text, intText, String.toList_ofList]
  exact spells_intDigits m.toInt

end DoubleEntry.Text
