/-
DoubleEntry/Proofs/Text/Numeral.lean

Numerals of a fixed width read back: `readNat?_padDigits` and, for a numeral
in front of a longer text, `readDigits?_padDigits`.
-/
import Mathlib.Algebra.Order.Ring.Int
import Mathlib.Data.List.Permutation
import DoubleEntry.Time.Rfc3339

namespace DoubleEntry.Text

/-! ### Digits -/

theorem digitValue?_of_isDigit {c : Char} (h : c.isDigit = true) :
    digitValue? c = some (c.toNat - '0'.toNat) := by
  have hc : ('0' ≤ c && c ≤ '9') = true := by
    simpa [Char.isDigit, Char.le_def] using h
  unfold digitValue?
  rw [if_pos hc]

theorem isSome_digitValue? {c : Char} (h : c.isDigit = true) :
    (digitValue? c).isSome = true := by
  rw [digitValue?_of_isDigit h]
  rfl

/-- Reading digits multiplies up their values. -/
theorem readDigitsAfter_eq {cs : List Char} (h : ∀ c ∈ cs, c.isDigit = true) (acc : Nat) :
    readDigitsAfter acc cs = some (Nat.ofDigitChars 10 cs acc) := by
  induction cs generalizing acc with
  | nil => simp [readDigitsAfter]
  | cons c cs ih =>
      have hc := h c List.mem_cons_self
      have hcs : ∀ d ∈ cs, d.isDigit = true := fun d hd => h d (List.mem_cons_of_mem _ hd)
      rw [readDigitsAfter, digitValue?_of_isDigit hc, Option.bind_some, ih hcs,
        Nat.ofDigitChars_cons]

/-! ### Numerals of a fixed width -/

theorem isDigit_of_mem_padDigits {w n : Nat} {c : Char} (h : c ∈ padDigits w n) :
    c.isDigit = true := by
  rw [padDigits, List.mem_append, List.mem_replicate] at h
  rcases h with ⟨-, rfl⟩ | h
  · rfl
  · exact Nat.isDigit_of_mem_toDigits (by decide) (by decide) h

theorem length_padDigits {w n : Nat} (hw : 0 < w) (hn : n < 10 ^ w) :
    (padDigits w n).length = w := by
  have h : (natDigits n).length ≤ w := (Nat.length_toDigits_le_iff (by decide) hw).mpr hn
  rw [padDigits, List.length_append, List.length_replicate]
  omega

theorem ofDigitChars_padDigits (w n : Nat) : Nat.ofDigitChars 10 (padDigits w n) 0 = n := by
  rw [padDigits, Nat.ofDigitChars_append, Nat.ofDigitChars_replicate_zero, Nat.mul_zero]
  exact Nat.ofDigitChars_ten_toDigits

theorem readNat?_padDigits (w n : Nat) : readNat? (padDigits w n) = some n := by
  have hne : padDigits w n ≠ [] := by
    simp [padDigits, natDigits]
  have hread : readDigitsAfter 0 (padDigits w n) = some n := by
    rw [readDigitsAfter_eq fun c hc => isDigit_of_mem_padDigits hc, ofDigitChars_padDigits]
  rcases h : padDigits w n with - | ⟨c, cs⟩
  · exact absurd h hne
  · rw [h] at hread
    exact hread

theorem takeWhile_padDigits (w n : Nat) {rest : List Char}
    (h : rest.takeWhile (fun c => (digitValue? c).isSome) = []) :
    (padDigits w n ++ rest).takeWhile (fun c => (digitValue? c).isSome) = padDigits w n := by
  rw [List.takeWhile_append_of_pos fun c hc => isSome_digitValue? (isDigit_of_mem_padDigits hc),
    h, List.append_nil]

/-- A numeral that is as wide as may be is read off the front of a text,
whatever follows it. -/
theorem readDigits?_padDigits_of_le {least w n : Nat} (hleast : least ≤ w) (hw : 0 < w)
    (hn : n < 10 ^ w) (rest : List Char) :
    Instant.readDigits? least w (padDigits w n ++ rest) = some (n, rest) := by
  have hlen := length_padDigits hw hn
  have htake : (padDigits w n ++ rest).take w = padDigits w n := by
    rw [List.take_append_of_le_length (by omega), List.take_of_length_le (by omega)]
  have hwhile : (padDigits w n).takeWhile (fun c => (digitValue? c).isSome) = padDigits w n := by
    have h := @takeWhile_padDigits w n [] rfl
    rwa [List.append_nil] at h
  unfold Instant.readDigits?
  simp only [htake, hwhile, hlen, Nat.not_lt.mpr hleast, if_false, readNat?_padDigits,
    Option.map_some]
  rw [List.drop_append_of_le_length (by omega), List.drop_of_length_le (by omega),
    List.nil_append]

/-- A numeral of the width that is asked for is read off the front of a
text, whatever follows it. -/
theorem readDigits?_padDigits {w n : Nat} (hw : 0 < w) (hn : n < 10 ^ w) (rest : List Char) :
    Instant.readDigits? w w (padDigits w n ++ rest) = some (n, rest) :=
  readDigits?_padDigits_of_le (Nat.le_refl w) hw hn rest

/-! ### Blanks in front of a numeral -/

theorem isBlank_of_isDigit {c : Char} (h : c.isDigit = true) : isBlank c = false := by
  simp only [Char.isDigit, Bool.and_eq_true, decide_eq_true_eq, ge_iff_le,
    UInt32.le_iff_toNat_le] at h
  have hbounds : 48 ≤ c.toNat ∧ c.toNat ≤ 57 := h
  simp only [isBlank, Bool.or_eq_false_iff, Bool.and_eq_false_iff, decide_eq_false_iff_not,
    beq_eq_false_iff_ne]
  omega

/-- A numeral starts with a digit. -/
theorem exists_padDigits_eq_cons (w n : Nat) :
    ∃ c cs, padDigits w n = c :: cs ∧ c.isDigit = true := by
  rcases h : padDigits w n with - | ⟨c, cs⟩
  · simp [padDigits, natDigits] at h
  · exact ⟨c, cs, rfl, isDigit_of_mem_padDigits (h ▸ List.mem_cons_self)⟩

/-- There are no blanks in front of a numeral. -/
theorem trimStart_padDigits (w n : Nat) (rest : List Char) :
    trimStart (padDigits w n ++ rest) = padDigits w n ++ rest := by
  obtain ⟨c, cs, heq, hc⟩ := exists_padDigits_eq_cons w n
  rw [heq, List.cons_append, trimStart, List.dropWhile_cons, isBlank_of_isDigit hc]
  rfl

end DoubleEntry.Text
