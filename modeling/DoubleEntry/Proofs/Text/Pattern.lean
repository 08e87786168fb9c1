/-
DoubleEntry/Proofs/Text/Pattern.lean

Patterns for texts: classes of characters, sequences, and repetitions whose
number is bounded.  A pattern stands for a language (`Pattern.language`), and
a text matches it as a whole, from its first character to its last.

A repeated class is told by the length and the characters of a text
(`mem_language_repeated_oneOf`), so that nothing has to be known of how often
it was repeated where.  A check that looks for one character instead finds
where it stands (`takeWhile_ne_append_cons`, `mem_dropLast_drop_one_iff`).
-/
import Mathlib.Computability.Language

namespace DoubleEntry.Text

/-- A pattern for texts. -/
inductive Pattern where
  /-- One character of a class. -/
  | oneOf (accepts : Char → Bool)
  | followedBy (first second : Pattern)
  /-- So many times at least, and at most so many times if there is a bound. -/
  | repeated (pattern : Pattern) (least : Nat) (most : Option Nat)

namespace Pattern

/-- The texts that a pattern is for. -/
def language : Pattern → Language Char
  | oneOf accepts => {cs | ∃ c, accepts c = true ∧ cs = [c]}
  | followedBy first second => first.language * second.language
  | repeated pattern least most =>
      {cs | ∃ n, least ≤ n ∧ (∀ bound ∈ most, n ≤ bound) ∧ cs ∈ pattern.language ^ n}

/-- The whole text is one that the pattern is for. -/
def Matches (pattern : Pattern) (s : String) : Prop :=
  s.toList ∈ pattern.language

variable {accepts : Char → Bool} {cs : List Char}

theorem mem_language_oneOf : cs ∈ (oneOf accepts).language ↔ ∃ c, accepts c = true ∧ cs = [c] :=
  Iff.rfl

theorem mem_language_followedBy {first second : Pattern} :
    cs ∈ (followedBy first second).language ↔
      ∃ before ∈ first.language, ∃ after ∈ second.language, before ++ after = cs :=
  Language.mem_mul

/-- A class repeated so many times is a text of that length. -/
theorem mem_language_oneOf_pow {n : Nat} :
    cs ∈ (oneOf accepts).language ^ n ↔ cs.length = n ∧ ∀ c ∈ cs, accepts c = true := by
  induction n generalizing cs with
  | zero =>
      rw [pow_zero, Language.mem_one, List.length_eq_zero_iff]
      constructor
      · rintro rfl
        exact ⟨rfl, nofun⟩
      · exact And.left
  | succ n ih =>
      rw [pow_succ', Language.mem_mul]
      constructor
      · rintro ⟨_, ⟨c, hc, rfl⟩, rest, hrest, rfl⟩
        obtain ⟨hlength, hall⟩ := ih.mp hrest
        exact ⟨congrArg Nat.succ hlength, List.forall_mem_cons.mpr ⟨hc, hall⟩⟩
      · rintro ⟨hlength, hall⟩
        obtain ⟨c, rest, rfl⟩ := List.exists_cons_of_length_eq_add_one hlength
        obtain ⟨hc, hrest⟩ := List.forall_mem_cons.mp hall
        exact ⟨[c], ⟨c, hc, rfl⟩, rest, ih.mpr ⟨Nat.succ.inj hlength, hrest⟩, rfl⟩

theorem mem_language_repeated_oneOf {least : Nat} {most : Option Nat} :
    cs ∈ (repeated (oneOf accepts) least most).language ↔
      least ≤ cs.length ∧ (∀ bound ∈ most, cs.length ≤ bound) ∧ ∀ c ∈ cs, accepts c = true := by
  constructor
  · rintro ⟨n, hleast, hmost, hmem⟩
    obtain ⟨rfl, hall⟩ := mem_language_oneOf_pow.mp hmem
    exact ⟨hleast, hmost, hall⟩
  · rintro ⟨hleast, hmost, hall⟩
    exact ⟨cs.length, hleast, hmost, mem_language_oneOf_pow.mpr ⟨rfl, hall⟩⟩

end Pattern

/-! ### Places in a text -/

section Places

variable {α : Type} {x : α} {before l : List α}

/-- A text is taken apart at the first place where a character stands. -/
theorem takeWhile_ne_append_cons [DecidableEq α] (hx : x ∉ before) (after : List α) :
    (before ++ x :: after).takeWhile (fun y => decide (y ≠ x)) = before ∧
      (before ++ x :: after).dropWhile (fun y => decide (y ≠ x)) = x :: after := by
  have hbefore : ∀ y ∈ before, decide (y ≠ x) = true := by
    intro y hy
    rw [decide_eq_true_eq]
    rintro rfl
    exact hx hy
  rw [List.takeWhile_append_of_pos hbefore, List.dropWhile_append_of_pos hbefore,
    List.takeWhile_cons_of_neg (by simp), List.dropWhile_cons_of_neg (by simp), List.append_nil]
  exact ⟨rfl, rfl⟩

/-- What stands neither first nor last has something on both sides. -/
theorem mem_dropLast_drop_one_iff :
    x ∈ (l.drop 1).dropLast ↔ ∃ left right, l = left ++ x :: right ∧ left ≠ [] ∧ right ≠ [] := by
  constructor
  · intro h
    obtain ⟨left, right, hsplit⟩ := List.append_of_mem h
    cases l with
    | nil => cases h
    | cons y rest =>
        have hrest : rest ≠ [] := by
          rintro rfl
          cases h
        -- the first and the last, which were taken away, go back to either side
        refine ⟨y :: left, right ++ [rest.getLast hrest], ?_, by simp, by simp⟩
        have hlast := List.dropLast_concat_getLast hrest
        rw [show rest.dropLast = left ++ x :: right from hsplit] at hlast
        exact (congrArg (y :: ·) hlast.symm).trans (by simp)
  · rintro ⟨left, right, rfl, hleft, hright⟩
    obtain ⟨y, left, rfl⟩ := List.exists_cons_of_ne_nil hleft
    rw [List.cons_append, List.drop_one, List.tail_cons,
      List.dropLast_append_of_ne_nil (by simp), List.dropLast_cons_of_ne_nil hright]
    simp

end Places

end DoubleEntry.Text
