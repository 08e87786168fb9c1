/-
DoubleEntry/Proofs/Money/Amount.lean

Amounts print exactly.  `WritesAmount` says in which form an amount is
written: its units and its cents as numerals with a point between them, a minus
sign in front of both where it is negative, and the code of its currency behind
a blank.

Without the point the two numerals are one, that of all minor units
(`AmountParts.spells`).  So every text of this form is read back
(`WritesAmount.readAmount?`), and no two amounts print alike
(`amountText_inj`).
-/
import DoubleEntry.Money.Amount
import DoubleEntry.Proofs.Text.Integer
import DoubleEntry.Proofs.Text.Pattern

namespace DoubleEntry

open DoubleEntry.Text

variable {minor minor' : Int64} {currency currency' : Currency} {s : String}

/-! ### The form of an amount -/

/-- The numerals of an amount: its units without superfluous zeros in front,
and two digits for what is left, the cents. -/
structure AmountParts (minor : Int64) where
  units : List Char
  cents : List Char
  units_digits : AreDigits units
  units_value : Nat.ofDigitChars 10 units 0 = minor.toInt.natAbs / 100
  units_leading : units.length = 1 ∨ units.head? ≠ some '0'
  cents_digits : AreDigits cents
  cents_length : cents.length = 2
  cents_value : Nat.ofDigitChars 10 cents 0 = minor.toInt.natAbs % 100

/-- The sign of an amount: a minus sign where it is negative, and nothing
otherwise. -/
def amountSign (minor : Int64) : List Char :=
  if minor.toInt < 0 then ['-'] else []

/-- The text writes the amount. -/
def WritesAmount (minor : Int64) (currency : Currency) (s : String) : Prop :=
  ∃ parts : AmountParts minor, s.toList =
    amountSign minor ++ parts.units ++ '.' :: parts.cents ++ ' ' :: currency.code.toList

/-- The numerals that are printed. -/
def printedParts (minor : Int64) : AmountParts minor where
  units := natDigits (minor.toInt.natAbs / 100)
  cents := padDigits 2 (minor.toInt.natAbs % 100)
  units_digits := ⟨natDigits_ne_nil _, fun _ => isDigit_of_mem_natDigits⟩
  units_value := Nat.ofDigitChars_ten_toDigits
  units_leading := natDigits_leading _
  cents_digits := by
    obtain ⟨c, cs, heq, -⟩ := exists_padDigits_eq_cons 2 (minor.toInt.natAbs % 100)
    exact ⟨heq ▸ List.cons_ne_nil c cs, fun _ => isDigit_of_mem_padDigits⟩
  cents_length := length_padDigits (by decide) (Nat.mod_lt _ (by decide))
  cents_value := ofDigitChars_padDigits 2 _

/-- **What is printed has the form of an amount.** -/
theorem writesAmount_amountText (minor : Int64) (currency : Currency) :
    WritesAmount minor currency (amountText minor currency) := by
  refine ⟨printedParts minor, ?_⟩
  simp [amountText, decimalText, amountSign, printedParts]

/-! ### The numeral without the point -/

namespace AmountParts

variable (parts : AmountParts minor)

theorem areDigits_append : AreDigits (parts.units ++ parts.cents) :=
  ⟨List.append_ne_nil_of_left_ne_nil parts.units_digits.1 _,
    List.forall_mem_append.mpr ⟨parts.units_digits.2, parts.cents_digits.2⟩⟩

/-- Units and cents together count the minor units. -/
theorem value_append :
    Nat.ofDigitChars 10 (parts.units ++ parts.cents) 0 = minor.toInt.natAbs := by
  rw [Nat.ofDigitChars_append, Nat.ofDigitChars_eq_ofDigitChars_zero, parts.cents_length,
    parts.units_value, parts.cents_value]
  exact Nat.div_add_mod _ 100

/-- **Without the point the text spells the minor units.** -/
theorem spells : Spells (amountSign minor ++ (parts.units ++ parts.cents)) minor.toInt := by
  by_cases hneg : minor.toInt < 0
  · have hspells := Spells.minus parts.areDigits_append
    rw [value_append, show -(minor.toInt.natAbs : Int) = minor.toInt by omega] at hspells
    rwa [amountSign, if_pos hneg]
  · have hspells := Spells.unsigned parts.areDigits_append
    rw [value_append, show (minor.toInt.natAbs : Int) = minor.toInt by omega] at hspells
    rwa [amountSign, if_neg hneg]

end AmountParts

/-! ### Reading an amount -/

/-- Reads an amount: the point is dropped from what stands before the blank, so
that an integer is left, and behind the blank stands the code. -/
def readAmount? (s : String) : Option (Int64 × Currency) := do
  let (number, code) := s.toList.span (· ≠ ' ')
  let minor ← readInt64? (number.erase '.')
  let currency ← Currency.ofCode? (String.ofList (code.drop 1))
  return (minor, currency)

/-- A character that is no digit is not among digits, nor is it a sign. -/
theorem notMem_amountSign_append {digits : List Char} (h : AreDigits digits) {c : Char}
    (hdigit : c.isDigit = false) (hsign : c ≠ '-') : c ∉ amountSign minor ++ digits := by
  intro hmem
  rcases List.mem_append.mp hmem with hmem | hmem
  · unfold amountSign at hmem
    split at hmem
    · exact hsign (List.mem_singleton.mp hmem)
    · cases hmem
  · rw [h.2 c hmem] at hdigit
    cases hdigit

/-- **An amount is read back from every text that writes it.** -/
theorem WritesAmount.readAmount? (h : WritesAmount minor currency s) :
    DoubleEntry.readAmount? s = some (minor, currency) := by
  obtain ⟨parts, hs⟩ := h
  -- the first blank stands behind the cents
  have hblank : ' ' ∉ amountSign minor ++ parts.units ++ '.' :: parts.cents := by
    have hunits : ' ' ∉ amountSign minor ++ parts.units :=
      notMem_amountSign_append parts.units_digits (by decide) (by decide)
    have hcents : ' ' ∉ parts.cents := fun hmem =>
      absurd (parts.cents_digits.2 ' ' hmem) (by decide)
    rw [List.mem_append, List.mem_cons]
    rintro (hmem | hmem | hmem)
    · exact hunits hmem
    · exact absurd hmem (by decide)
    · exact hcents hmem
  obtain ⟨hnumber, hcode⟩ := takeWhile_ne_append_cons hblank currency.code.toList
  -- and the only point behind the units
  have hpoint : (amountSign minor ++ parts.units ++ '.' :: parts.cents).erase '.' =
      amountSign minor ++ (parts.units ++ parts.cents) := by
    have hunits : '.' ∉ amountSign minor ++ parts.units :=
      notMem_amountSign_append parts.units_digits (by decide) (by decide)
    rw [List.erase_append_right _ hunits, List.erase_cons_head, List.append_assoc]
  have hread : readInt64? (amountSign minor ++ (parts.units ++ parts.cents)) = some minor :=
    readInt64?_eq_some_iff.mpr parts.spells
  simp only [DoubleEntry.readAmount?, hs, List.span_eq_takeWhile_dropWhile, hnumber, hcode, hpoint,
    hread]
  simp [Currency.ofCode?_code]

/-- **No two amounts print alike.** -/
theorem amountText_inj :
    amountText minor currency = amountText minor' currency' ↔
      minor = minor' ∧ currency = currency' := by
  constructor
  · intro h
    have hread := (writesAmount_amountText minor currency).readAmount?
    rw [h, (writesAmount_amountText minor' currency').readAmount?] at hread
    obtain ⟨hminor, hcurrency⟩ := Prod.mk.inj (Option.some.inj hread)
    exact ⟨hminor.symm, hcurrency.symm⟩
  · rintro ⟨rfl, rfl⟩
    rfl

/-! ### Amounts with a sign -/

/-- Without colours only a plus sign is put in front, where there is no minus
sign. -/
theorem signedText_false (minor : Int64) (currency : Currency) :
    signedText false minor currency =
      (if 0 ≤ minor.toInt then "+" else "") ++ amountText minor currency := by
  unfold signedText
  by_cases hneg : minor.toInt < 0
  · rw [if_pos hneg, if_neg (by omega)]
    simp [styled]
  · rw [if_neg hneg, if_pos (by omega)]
    rfl

/-- **Amounts print exactly.**  The text of an amount is its sign, its units,
a point, two digits for its cents, a blank and the code of its currency; it is
read back as the amount, so that no other amount prints alike.  With its sign,
an amount that is not negative has a plus sign in front. -/
theorem amountText_exact (minor : Int64) (currency : Currency) :
    WritesAmount minor currency (amountText minor currency) ∧
    readAmount? (amountText minor currency) = some (minor, currency) ∧
    (∀ minor' currency', amountText minor currency = amountText minor' currency' ↔
      minor = minor' ∧ currency = currency') ∧
    signedText false minor currency =
      (if 0 ≤ minor.toInt then "+" else "") ++ amountText minor currency :=
  ⟨writesAmount_amountText minor currency, (writesAmount_amountText minor currency).readAmount?,
    fun _ _ => amountText_inj, signedText_false minor currency⟩

/-- The sign of an amount without units, and the amount that has no opposite. -/
example : amountText (-5) .eur = "-0.05 EUR" ∧
    amountText Int64.minValue .uah = "-92233720368547758.08 UAH" := by
  decide +kernel

end DoubleEntry
