/-
DoubleEntry/Proofs/Json/Numeral.lean

Numbers as words of JSON.  An integer is written as a numeral without point
and exponent and is read as that numeral (`Numeral.read?_intDigits`), which
stands for the integer again where it fits a 64-bit word
(`Numeral.number?_ofInt`).  Whatever is read as a numeral is one word to the
reader of JSON: it has none of the characters that set words apart, and it is
none of the literals (`wordValue?_of_read?`).
-/
import Mathlib.Data.List.TakeDrop
import Mathlib.Data.List.TakeWhile
import DoubleEntry.Json.Printer
import DoubleEntry.Json.Reader
import DoubleEntry.Proofs.Text.Numeral

namespace DoubleEntry.Text

/-! ### Digits of natural numbers -/

theorem isDigit_of_mem_natDigits {n : Nat} {c : Char} (h : c ∈ natDigits n) : c.isDigit = true :=
  Nat.isDigit_of_mem_toDigits (by decide) (by decide) h

theorem natDigits_ne_nil (n : Nat) : natDigits n ≠ [] := by
  simp [natDigits]

theorem readNat?_natDigits (n : Nat) : readNat? (natDigits n) = some n := by
  have h := readNat?_padDigits 0 n
  simpa [padDigits] using h

/-- The digits of a number start with a zero only where there is no other
digit. -/
theorem natDigits_leading (n : Nat) :
    (natDigits n).length = 1 ∨ (natDigits n).head? ≠ some '0' := by
  induction n using Nat.strong_induction_on with
  | _ n ih =>
      by_cases hn : n < 10
      · left
        simp [natDigits, Nat.toDigits_of_lt_base hn]
      · right
        have hsplit : natDigits n = natDigits (n / 10) ++ [Nat.digitChar (n % 10)] :=
          Nat.toDigits_of_base_le (by decide) (by omega)
        have hhead : (natDigits n).head? = (natDigits (n / 10)).head? := by
          rw [hsplit, List.head?_append_of_ne_nil _ (natDigits_ne_nil _)]
        rw [hhead]
        rcases ih (n / 10) (by omega) with hone | hne
        · -- a single digit, and not that of zero
          have hlt : n / 10 < 10 := by
            have h := (Nat.length_toDigits_le_iff (b := 10) (n := n / 10) (k := 1) (by decide)
              (by decide)).mp (Nat.le_of_eq hone)
            omega
          have hdigit : natDigits (n / 10) = [Nat.digitChar (n / 10)] := Nat.toDigits_of_lt_base hlt
          have hdigits : ∀ d < 10, 0 < d → [Nat.digitChar d].head? ≠ some '0' := by decide
          rw [hdigit]
          exact hdigits (n / 10) hlt (by omega)
        · exact hne

end DoubleEntry.Text

namespace DoubleEntry.Json

open DoubleEntry.Text

/-! ### Integers -/

/-- The numeral of an integer. -/
def Numeral.ofInt (n : Int) : Numeral :=
  { negative := n < 0, whole := natDigits n.natAbs, fraction := [], exponent := none }

theorem spanDigits_natDigits (n : Nat) : spanDigits (natDigits n) = (natDigits n, []) := by
  have hall : ∀ c ∈ natDigits n, (digitValue? c).isSome = true :=
    fun c hc => isSome_digitValue? (isDigit_of_mem_natDigits hc)
  rw [spanDigits, List.span_eq_takeWhile_dropWhile, List.takeWhile_eq_self_iff.mpr hall,
    List.dropWhile_eq_nil_iff.mpr hall]

namespace Numeral

/-- Reads a numeral behind its sign. -/
def readUnsigned? (negative : Bool) (cs : List Char) : Option Numeral := do
  let (whole, cs) := spanDigits cs
  guard (whole ≠ [] && (whole.length = 1 || whole.head? ≠ some '0'))
  let (fraction, cs) ← readFraction? cs
  let exponent ← readExponent? cs
  return { negative, whole, fraction, exponent }

theorem read?_minus (cs : List Char) : read? ('-' :: cs) = readUnsigned? true cs :=
  rfl

theorem read?_of_head {cs : List Char} (h : cs.head? ≠ some '-') :
    read? cs = readUnsigned? false cs := by
  unfold read?
  split
  rename_i heq
  split at heq
  · exact absurd rfl h
  · cases heq
    rfl

/-- The digits of a number are read as they stand. -/
theorem readUnsigned?_natDigits (negative : Bool) (n : Nat) :
    readUnsigned? negative (natDigits n) =
      some { negative, whole := natDigits n, fraction := [], exponent := none } := by
  have hlead := natDigits_leading n
  simp [readUnsigned?, spanDigits_natDigits, natDigits_ne_nil, hlead, readFraction?, readExponent?]

/-- **An integer is read as its numeral.** -/
theorem read?_intDigits (n : Int) : read? (intDigits n) = some (ofInt n) := by
  by_cases hn : n < 0
  · rw [intDigits, if_pos hn, read?_minus, readUnsigned?_natDigits]
    simp [ofInt, hn]
  · have hdigits : intDigits n = natDigits n.natAbs := by
      rw [intDigits, if_neg hn]
      congr 1
      omega
    have hhead : (natDigits n.natAbs).head? ≠ some '-' := by
      intro h
      have hmem := List.mem_of_mem_head? h
      exact absurd (isDigit_of_mem_natDigits hmem) (by decide)
    rw [hdigits, read?_of_head hhead, readUnsigned?_natDigits]
    simp [ofInt, hn]

/-- The numeral of an integer stands for it: there is no minus sign before a
zero. -/
theorem int?_ofInt (n : Int) : (ofInt n).int? = some n := by
  simp only [int?, ofInt, readNat?_natDigits]
  rcases hn : n.natAbs with - | m
  · have hzero : n = 0 := by omega
    simp [hzero]
  · by_cases hneg : n < 0
    · simp [hneg]
      omega
    · simp [hneg]
      omega

/-- The integer stays one where it fits a 64-bit word. -/
theorem number?_ofInt {n : Int} (hlow : -9223372036854775808 ≤ n)
    (hhigh : n ≤ 18446744073709551615) : (ofInt n).number? = some (.int n) := by
  simp [number?, int?_ofInt, hlow, hhigh]

/-! ### Words -/

theorem isWordChar_of_isDigit {c : Char} (h : c.isDigit = true) : isWordChar c = true := by
  simp [isWordChar, Char.isAlphanum, h]

theorem isDigit_of_digitValue? {c : Char} (h : (digitValue? c).isSome = true) :
    c.isDigit = true := by
  simp only [digitValue?] at h
  split at h
  case isTrue hc => simpa [Char.isDigit, Char.le_def] using hc
  case isFalse => cases h

/-- Splitting off digits takes the text apart. -/
theorem spanDigits_eq {cs ds rest : List Char} (h : spanDigits cs = (ds, rest)) :
    cs = ds ++ rest ∧ ∀ c ∈ ds, isWordChar c = true := by
  rw [spanDigits, List.span_eq_takeWhile_dropWhile, Prod.mk.injEq] at h
  obtain ⟨rfl, rfl⟩ := h
  refine ⟨List.takeWhile_append_dropWhile.symm, ?_⟩
  intro c hc
  have hdigit : (digitValue? c).isSome = true :=
    List.mem_takeWhile_imp (p := fun c => (digitValue? c).isSome) hc
  exact isWordChar_of_isDigit (isDigit_of_digitValue? hdigit)

theorem isWordChar_of_readExponent? {cs : List Char} {e : Option (Bool × List Char)}
    (h : readExponent? cs = some e) : ∀ c ∈ cs, isWordChar c = true := by
  cases cs with
  | nil => simp
  | cons mark rest =>
      simp only [readExponent?] at h
      split at h
      case isFalse => cases h
      case isTrue hmark =>
        have hletter : isWordChar mark = true := by
          simp only [Bool.or_eq_true, decide_eq_true_eq] at hmark
          rcases hmark with rfl | rfl <;> decide
        refine List.forall_mem_cons.mpr ⟨hletter, ?_⟩
        split at h
        case h_1 hspan =>
          obtain ⟨hdigits, hds⟩ := spanDigits_eq hspan
          rw [List.append_nil] at hdigits
          rw [← hdigits] at hds
          -- with or without a sign in front of the digits
          split at hds
          · exact List.forall_mem_cons.mpr ⟨by decide, hds⟩
          · exact List.forall_mem_cons.mpr ⟨by decide, hds⟩
          · exact hds
        case h_2 => cases h

theorem isWordChar_of_readFraction? {cs ds rest : List Char}
    (h : readFraction? cs = some (ds, rest)) (hrest : ∀ c ∈ rest, isWordChar c = true) :
    ∀ c ∈ cs, isWordChar c = true := by
  unfold readFraction? at h
  split at h
  · split at h
    case h_1 => cases h
    case h_2 hspan =>
      cases h
      obtain ⟨rfl, hds⟩ := spanDigits_eq hspan
      exact List.forall_mem_cons.mpr ⟨by decide, List.forall_mem_append.mpr ⟨hds, hrest⟩⟩
  · cases h
    exact hrest

/-- A numeral has none of the characters that set words apart. -/
theorem isWordChar_of_readUnsigned? {negative : Bool} {cs : List Char} {n : Numeral}
    (h : readUnsigned? negative cs = some n) : cs ≠ [] ∧ ∀ c ∈ cs, isWordChar c = true := by
  rcases hspan : spanDigits cs with ⟨whole, rest⟩
  obtain ⟨rfl, hwhole⟩ := spanDigits_eq hspan
  simp only [readUnsigned?, hspan, guard] at h
  split at h
  case isFalse => cases h
  case isTrue hlead =>
    simp only [Bool.and_eq_true, decide_eq_true_eq] at hlead
    simp only [Option.bind_eq_bind, Option.bind_eq_some_iff] at h
    obtain ⟨-, -, ⟨fraction, rest'⟩, hfraction, exponent, hexponent, -⟩ := h
    refine ⟨by simp [hlead.1], List.forall_mem_append.mpr ⟨hwhole, ?_⟩⟩
    exact isWordChar_of_readFraction? hfraction (isWordChar_of_readExponent? hexponent)

theorem isWordChar_of_read? {cs : List Char} {n : Numeral} (h : read? cs = some n) :
    cs ≠ [] ∧ ∀ c ∈ cs, isWordChar c = true := by
  by_cases hhead : cs.head? = some '-'
  · obtain ⟨rest, rfl⟩ := List.head?_eq_some_iff.mp hhead
    rw [read?_minus] at h
    exact ⟨by simp, List.forall_mem_cons.mpr ⟨by decide, (isWordChar_of_readUnsigned? h).2⟩⟩
  · rw [read?_of_head hhead] at h
    exact isWordChar_of_readUnsigned? h

end Numeral

/-- A numeral is none of the literals. -/
theorem wordValue?_of_read? {cs : List Char} {n : Numeral} (h : Numeral.read? cs = some n) :
    wordValue? cs = some (.numeral n) := by
  have hliteral : ∀ word ∈ [['n', 'u', 'l', 'l'], ['t', 'r', 'u', 'e'], ['f', 'a', 'l', 's', 'e']],
      Numeral.read? word = none := by decide
  have hne : ∀ word ∈ [['n', 'u', 'l', 'l'], ['t', 'r', 'u', 'e'], ['f', 'a', 'l', 's', 'e']],
      cs ≠ word := by
    rintro word hword rfl
    rw [hliteral cs hword] at h
    cases h
  simp at hne
  simp [wordValue?, hne, h]

end DoubleEntry.Json
