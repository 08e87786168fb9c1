/-
DoubleEntry/Proofs/Text/Uppercase.lean

Uppercase forms.  A text that differs in the case of ASCII letters only has
the same uppercase form (`upperChars_map_toUpper`).  The uppercase form of a
character may be an ASCII letter although the character is none: this is so of
two characters (`upperChar_eq_singleton_iff`).  It may also have several
characters; where no two letters of a word come from one character, a text
with the uppercase form of the word has it letter by letter
(`upperChars_eq_iff`).
-/
import Mathlib
import DoubleEntry.Text.Blank
import DoubleEntry.Text.Uppercase

namespace DoubleEntry.Text

variable {c x : Char} {cs word : List Char}

/-! ### ASCII -/

theorem isLower_iff : c.isLower = true ↔ 97 ≤ c.toNat ∧ c.toNat ≤ 122 := by
  simp [Char.isLower, UInt32.le_iff_toNat_le]

theorem isUpper_iff : x.isUpper = true ↔ 65 ≤ x.toNat ∧ x.toNat ≤ 90 := by
  simp [Char.isUpper, UInt32.le_iff_toNat_le]

theorem toNat_toUpper (hc : c.isLower = true) : c.toUpper.toNat = c.toNat - 32 := by
  have hlower := isLower_iff.mp hc
  have hvalid : (c.toNat - 32).isValidChar := .inl (by omega)
  rw [Char.toUpper_eq_of_isLower hc, Char.toNat_ofNat, if_pos hvalid]

theorem toNat_toLower (hx : x.isUpper = true) : x.toLower.toNat = x.toNat + 32 := by
  have hupper := isUpper_iff.mp hx
  have hvalid : (x.toNat + 32).isValidChar := .inl (by omega)
  rw [Char.toLower_eq_of_isUpper hx, Char.toNat_ofNat, if_pos hvalid]

/-- A capital letter is the uppercase form of itself and of the small letter. -/
theorem toUpper_eq_iff (hx : x.isUpper = true) : c.toUpper = x ↔ c = x ∨ c = x.toLower := by
  have hupper := isUpper_iff.mp hx
  simp only [← Char.toNat_inj, toNat_toLower hx]
  by_cases hc : c.isLower = true
  · have hlower := isLower_iff.mp hc
    rw [toNat_toUpper hc]
    omega
  · have hother := mt isLower_iff.mpr hc
    rw [Char.toUpper_eq_of_not_isLower hc]
    omega

theorem upperChar_of_lt (h : c.toNat < 0x80) : upperChar c = [c.toUpper] :=
  if_pos h

/-- The case of an ASCII letter does not matter to its uppercase form. -/
theorem upperChar_toUpper (c : Char) : upperChar c.toUpper = upperChar c := by
  by_cases hc : c.isLower = true
  · have hlower := isLower_iff.mp hc
    have hupper := toNat_toUpper hc
    rw [upperChar_of_lt (by omega), upperChar_of_lt (by omega), Char.toUpper_toUpper_eq_toUpper]
  · rw [Char.toUpper_eq_of_not_isLower hc]

theorem upperChars_map_toUpper (cs : List Char) :
    upperChars (cs.map Char.toUpper) = upperChars cs := by
  simp only [upperChars, List.flatMap_map, upperChar_toUpper]

/-- No letter is blank. -/
theorem isBlank_toUpper (c : Char) : isBlank c.toUpper = isBlank c := by
  by_cases hc : c.isLower = true
  · have hlower := isLower_iff.mp hc
    have hupper := toNat_toUpper hc
    have hletter : ∀ x : Char, 65 ≤ x.toNat → x.toNat ≤ 122 → isBlank x = false := by
      intro x hlow hhigh
      simp only [isBlank, Bool.or_eq_false_iff, Bool.and_eq_false_iff, decide_eq_false_iff_not,
        beq_eq_false_iff_ne]
      omega
    rw [hletter c.toUpper (by omega) (by omega), hletter c (by omega) (by omega)]
  · rw [Char.toUpper_eq_of_not_isLower hc]

/-! ### Single letters -/

theorem two_le_length_of_mem_caseExpansions : ∀ p ∈ caseExpansions, 2 ≤ p.2.length := by
  decide

/-- The uppercase form is one character, or it is listed. -/
theorem upperChar_cases (c : Char) :
    (∃ x, upperChar c = [x]) ∨ ∃ p ∈ caseExpansions, upperChar c = p.2.map Char.ofNat := by
  unfold upperChar
  split
  · exact .inl ⟨_, rfl⟩
  · split
    case h_1 ns hns =>
      obtain ⟨before, after, hlist, -⟩ := List.lookup_eq_some_iff.mp hns
      exact .inr ⟨(c.toNat, ns), by rw [hlist]; simp, rfl⟩
    case h_2 =>
      split
      · exact .inl ⟨_, rfl⟩
      · exact .inl ⟨_, rfl⟩

/-- Behind these runs there is no ASCII letter, but for the long s and the
dotless i. -/
theorem shift_of_mem_caseRuns : ∀ r ∈ caseRuns, 0x5A < r.first + r.shift ∨
    (r.first = 0x17F ∧ r.last = 0x17F ∧ r.shift = -300) ∨
    (r.first = 0x131 ∧ r.last = 0x131 ∧ r.shift = -232) := by
  decide +kernel

/-- A code point that is none stands for the null character. -/
theorem eq_toNat_of_ofNat {n : Nat} (h : Char.ofNat n = x) (hx : x.toNat ≠ 0) : n = x.toNat := by
  have hcode := Char.toNat_ofNat n
  rw [h] at hcode
  split at hcode
  case isTrue => exact hcode.symm
  case isFalse => exact absurd hcode hx

/-- A character that is no ASCII character is in the uppercase form of none, but
for the long s and the dotless i. -/
theorem eq_of_upperChar_eq_singleton (hx : x.isUpper = true) (hc : ¬ c.toNat < 0x80)
    (h : upperChar c = [x]) : (x = 'S' ∧ c = '\u017F') ∨ (x = 'I' ∧ c = '\u0131') := by
  have hupper := isUpper_iff.mp hx
  rw [upperChar, if_neg hc] at h
  split at h
  case h_1 ns hns =>
    obtain ⟨before, after, hlist, -⟩ := List.lookup_eq_some_iff.mp hns
    have hlength := two_le_length_of_mem_caseExpansions (c.toNat, ns) (by rw [hlist]; simp)
    have hone := congrArg List.length h
    rw [List.length_map] at hone
    simp only [List.length_singleton] at hone hlength
    omega
  case h_2 =>
    split at h
    case h_2 =>
      obtain rfl : c = x := List.singleton_inj.mp h
      omega
    case h_1 r hr =>
      have hshifted := eq_toNat_of_ofNat (List.singleton_inj.mp h) (by omega)
      have hholds := List.find?_some hr
      simp only [CaseRun.holds, Bool.and_eq_true, decide_eq_true_eq] at hholds
      rcases shift_of_mem_caseRuns r (List.mem_of_find?_eq_some hr) with hfar | hlongS | hdotless
      · -- the run comes to characters behind the letters
        omega
      · refine .inl ⟨Char.toNat_inj.mp ?_, Char.toNat_inj.mp ?_⟩
        · show x.toNat = 0x53
          omega
        · show c.toNat = 0x17F
          omega
      · refine .inr ⟨Char.toNat_inj.mp ?_, Char.toNat_inj.mp ?_⟩
        · show x.toNat = 0x49
          omega
        · show c.toNat = 0x131
          omega

/-- **A capital letter is the uppercase form of the letter in either case**, and
of nothing else, but for the long s and the dotless i. -/
theorem upperChar_eq_singleton_iff (hx : x.isUpper = true) :
    upperChar c = [x] ↔
      c = x ∨ c = x.toLower ∨ (x = 'S' ∧ c = '\u017F') ∨ (x = 'I' ∧ c = '\u0131') := by
  have hupper := isUpper_iff.mp hx
  constructor
  · intro h
    by_cases hc : c.toNat < 0x80
    · rw [upperChar_of_lt hc, List.singleton_inj, toUpper_eq_iff hx] at h
      exact h.imp_right .inl
    · exact .inr (.inr (eq_of_upperChar_eq_singleton hx hc h))
  · have hletter : c = x ∨ c = x.toLower → upperChar c = [x] := by
      intro h
      have hlower := toNat_toLower hx
      have hc : c.toNat < 0x80 := by rcases h with rfl | rfl <;> omega
      rw [upperChar_of_lt hc, (toUpper_eq_iff hx).mpr h]
    rintro (h | h | ⟨rfl, rfl⟩ | ⟨rfl, rfl⟩)
    · exact hletter (.inl h)
    · exact hletter (.inr h)
    · decide
    · decide

/-! ### Words -/

/-- There is a character whose uppercase form begins with these two. -/
def BeginExpansion (x y : Char) : Prop :=
  ∃ p ∈ caseExpansions, (p.2.take 2).map Char.ofNat = [x, y]

instance {x y : Char} : Decidable (BeginExpansion x y) :=
  inferInstanceAs (Decidable (∃ p ∈ caseExpansions, _))

/-- **A word is spelled letter by letter** if no two of its letters come from
one character. -/
theorem upperChars_eq_iff (hword : word.IsChain fun x y => ¬ BeginExpansion x y) :
    upperChars cs = word ↔ List.Forall₂ (fun x c => upperChar c = [x]) word cs := by
  constructor
  · intro h
    induction cs generalizing word with
    | nil =>
        obtain rfl : [] = word := h
        exact .nil
    | cons c cs ih =>
        have hsplit : upperChar c ++ upperChars cs = word := h
        rcases upperChar_cases c with ⟨x, hx⟩ | ⟨⟨n, ns⟩, hmem, hns⟩
        · rw [hx] at hsplit
          subst hsplit
          exact .cons hx (ih hword.tail rfl)
        · -- the form has several characters, so it begins with two letters of the word
          match ns, two_le_length_of_mem_caseExpansions _ hmem, hns with
          | m :: k :: ns, _, hns =>
              rw [hns] at hsplit
              subst hsplit
              exact (hword.rel ⟨_, hmem, rfl⟩).elim
  · intro h
    induction h with
    | nil => rfl
    | cons hx _ ih =>
        show upperChar _ ++ upperChars _ = _
        rw [hx, ih hword.tail]
        rfl

end DoubleEntry.Text
