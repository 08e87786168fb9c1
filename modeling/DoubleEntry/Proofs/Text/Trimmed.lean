/-
DoubleEntry/Proofs/Text/Trimmed.lean

Texts without blanks at their ends.  Trimming makes every text one of them
(`isTrimmed_trim`), and leaves nothing of a text exactly if all of it is blank
(`trim_eq_empty_iff`).  So it does not matter to the rule that a text must not
be blank whether it is applied before trimming or behind it
(`allBlank_trim`).  More blanks around a text do not matter to what trimming
leaves (`trimChars_append`).
-/
import Mathlib.Data.List.DropRight
import DoubleEntry.Text.Blank

namespace DoubleEntry.Text

/-- The text neither begins nor ends with a blank. -/
structure IsTrimmed (s : String) : Prop where
  first : ∀ c, s.toList.head? = some c → isBlank c = false
  last : ∀ c, s.toList.getLast? = some c → isBlank c = false

/-! ### The ends -/

/-- Dropping stops at the first character that is not blank. -/
theorem isBlank_of_head?_trimStart {cs : List Char} {c : Char}
    (h : (trimStart cs).head? = some c) : isBlank c = false := by
  have hstop := List.head?_dropWhile_not isBlank cs
  rw [show (cs.dropWhile isBlank).head? = some c from h] at hstop
  exact hstop

theorem isBlank_of_getLast?_trimEnd {cs : List Char} {c : Char}
    (h : (trimEnd cs).getLast? = some c) : isBlank c = false := by
  rw [trimEnd, List.getLast?_reverse] at h
  exact isBlank_of_head?_trimStart h

/-- What is left at the back begins as before, if it is anything at all. -/
theorem head?_trimEnd {cs : List Char} {c : Char} (h : (trimEnd cs).head? = some c) :
    cs.head? = some c := by
  have hleft : trimEnd cs <+: cs := List.rdropWhile_prefix isBlank cs
  obtain ⟨dropped, hcs⟩ := hleft
  obtain ⟨rest, hrest⟩ := List.head?_eq_some_iff.mp h
  rw [← hcs, hrest]
  rfl

/-- **Trimming leaves no blank at either end.** -/
theorem isTrimmed_trim (s : String) : IsTrimmed (trim s) where
  first c h := by
    rw [trim, String.toList_ofList] at h
    exact isBlank_of_head?_trimStart (head?_trimEnd h)
  last c h := by
    rw [trim, String.toList_ofList] at h
    exact isBlank_of_getLast?_trimEnd h

/-! ### Blank texts -/

theorem trimChars_eq_nil_iff {cs : List Char} :
    trimChars cs = [] ↔ ∀ c ∈ cs, isBlank c = true := by
  constructor
  · intro h
    have hstart : ∀ c ∈ trimStart cs, isBlank c = true :=
      (List.rdropWhile_eq_nil_iff (p := isBlank)).mp h
    -- what is left at the front would begin with a character that is not blank
    have hnone : trimStart cs = [] := by
      cases hcs : trimStart cs with
      | nil => rfl
      | cons c rest =>
          have hhead : (trimStart cs).head? = some c := by rw [hcs]; rfl
          have hblank := hstart c (by rw [hcs]; exact List.mem_cons_self)
          rw [isBlank_of_head?_trimStart hhead] at hblank
          cases hblank
    exact List.dropWhile_eq_nil_iff.mp hnone
  · intro h
    have hnone : trimStart cs = [] := List.dropWhile_eq_nil_iff.mpr h
    rw [trimChars, hnone]
    rfl

theorem allBlank_iff {s : String} : allBlank s = true ↔ ∀ c ∈ s.toList, isBlank c = true :=
  List.all_eq_true

theorem allBlank_eq_false_iff {s : String} :
    allBlank s = false ↔ ∃ c ∈ s.toList, isBlank c = false := by
  rw [← Bool.not_eq_true, allBlank_iff]
  simp

/-- Nothing is left of a text that is blank, and of no other. -/
theorem trim_eq_empty_iff {s : String} : trim s = "" ↔ allBlank s = true := by
  rw [trim, String.ofList_eq_empty_iff, trimChars_eq_nil_iff, allBlank_iff]

/-- A text is blank before it is trimmed if it is so behind it. -/
theorem allBlank_trim (s : String) : allBlank (trim s) = allBlank s := by
  rw [Bool.eq_iff_iff, ← trim_eq_empty_iff (s := s)]
  constructor
  · intro h
    by_contra hne
    -- the first character of what is left is not blank
    obtain ⟨c, rest, hcs⟩ := List.exists_cons_of_ne_nil (mt String.toList_eq_nil_iff.mp hne)
    have hblank := allBlank_iff.mp h c (by rw [hcs]; exact List.mem_cons_self)
    rw [(isTrimmed_trim s).first c (by rw [hcs]; rfl)] at hblank
    cases hblank
  · intro h
    rw [h]
    rfl

/-! ### Trimming and other changes -/

section Changes

variable {cs before after : List Char}

/-- Blanks behind a text are dropped with those that end it. -/
theorem trimEnd_append (h : ∀ c ∈ after, isBlank c = true) :
    trimEnd (cs ++ after) = trimEnd cs := by
  have hreverse : ∀ c ∈ after.reverse, isBlank c = true := by
    intro c hc
    exact h c (List.mem_reverse.mp hc)
  rw [trimEnd, List.reverse_append, List.dropWhile_append_of_pos hreverse]
  rfl

/-- **Blanks around a text** do not matter to what trimming leaves. -/
theorem trimChars_append (hbefore : ∀ c ∈ before, isBlank c = true)
    (hafter : ∀ c ∈ after, isBlank c = true) :
    trimChars (before ++ cs ++ after) = trimChars cs := by
  have hstart : trimStart (before ++ cs ++ after) = trimStart (cs ++ after) := by
    rw [List.append_assoc, trimStart, List.dropWhile_append_of_pos hbefore]
    rfl
  rw [trimChars, trimChars, hstart, trimStart, List.dropWhile_append]
  split
  case isTrue hnone =>
    -- the text is blank, and so are both sides
    have hcs : trimStart cs = [] := List.isEmpty_iff.mp hnone
    rw [hcs, List.dropWhile_eq_nil_iff.mpr hafter]
  case isFalse => exact trimEnd_append hafter

/-- A change of characters that keeps blanks and others apart can be made
before trimming or behind it. -/
theorem trimChars_map {f : Char → Char} (hf : ∀ c, isBlank (f c) = isBlank c) (cs : List Char) :
    trimChars (cs.map f) = (trimChars cs).map f := by
  have hblank : isBlank ∘ f = isBlank := funext hf
  have hstart : ∀ cs : List Char, trimStart (cs.map f) = (trimStart cs).map f := by
    intro cs
    rw [trimStart, List.dropWhile_map, hblank]
    rfl
  have hend : ∀ cs : List Char, trimEnd (cs.map f) = (trimEnd cs).map f := by
    intro cs
    rw [trimEnd, ← List.map_reverse, List.dropWhile_map, hblank, ← List.map_reverse]
    rfl
  rw [trimChars, hstart, hend]
  rfl

end Changes

end DoubleEntry.Text
