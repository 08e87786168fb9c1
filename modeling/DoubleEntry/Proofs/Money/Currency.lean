/-
DoubleEntry/Proofs/Money/Currency.lean

Which texts are read as a currency.  Trimming and uppercasing lead to the code
of a currency from the texts that write it letter by letter, in either case
and with blanks around, and also with a long s for the S (`Currency.IsWritten`);
no character leads to two letters of a code at once.  `Currency.parse_outcome`
says what becomes of every text.
-/
import DoubleEntry.Money.Currency
import DoubleEntry.Proofs.Text.Trimmed
import DoubleEntry.Proofs.Text.Uppercase

namespace DoubleEntry

open DoubleEntry.Text

namespace Currency

variable {s s' : String} {c : Currency} {x ch : Char}

/-- The character is the letter in one of its cases, or a long s for an S. -/
inductive IsLetter (x : Char) : Char → Prop
  | capital : IsLetter x x
  | small : IsLetter x x.toLower
  | longS (isS : x = 'S') : IsLetter x '\u017F'

/-- The text is the code of the currency, letter by letter, blanks around it
apart. -/
def IsWritten (c : Currency) (s : String) : Prop :=
  List.Forall₂ IsLetter c.code.toList (trimChars s.toList)

/-! ### Letters -/

/-- The letters of codes are capital, and no I is among them. -/
theorem isUpper_of_mem_code : ∀ x ∈ c.code.toList, x.isUpper = true ∧ x ≠ 'I' := by
  have hall : (c.code.toList.all fun x => x.isUpper && x != 'I') = true := by cases c <;> rfl
  intro x hx
  simpa using List.all_eq_true.mp hall x hx

/-- No two letters of a code come from one character. -/
theorem isChain_code : c.code.toList.IsChain fun x y => ¬ BeginExpansion x y := by
  cases c <;> decide +kernel

theorem upperChar_eq_singleton_iff_isLetter (hx : x.isUpper = true) (hI : x ≠ 'I') :
    upperChar ch = [x] ↔ IsLetter x ch := by
  rw [upperChar_eq_singleton_iff hx]
  constructor
  · rintro (rfl | rfl | ⟨hS, rfl⟩ | ⟨hx, -⟩)
    · exact .capital
    · exact .small
    · exact .longS hS
    · exact absurd hx hI
  · intro h
    cases h with
    | capital => exact .inl rfl
    | small => exact .inr (.inl rfl)
    | longS hS => exact .inr (.inr (.inl ⟨hS, rfl⟩))

/-! ### Codes -/

theorem ofCode?_eq_some_iff : ofCode? s = some c ↔ s = c.code := by
  constructor
  · intro h
    have hcode := List.find?_some h
    exact (of_decide_eq_true hcode).symm
  · rintro rfl
    exact ofCode?_code c

/-- The letters of a code are the uppercase forms of the characters of a text
if these are the letters in writing. -/
theorem forall₂_upperChar_iff {cs : List Char} :
    List.Forall₂ (fun x ch => upperChar ch = [x]) c.code.toList cs ↔
      List.Forall₂ IsLetter c.code.toList cs := by
  constructor
  · intro h
    have hletters := (List.forall₂_and_left _ _).mpr ⟨isUpper_of_mem_code, h⟩
    exact hletters.imp fun x ch ⟨⟨hx, hI⟩, hch⟩ =>
      (upperChar_eq_singleton_iff_isLetter hx hI).mp hch
  · intro h
    have hletters := (List.forall₂_and_left _ _).mpr ⟨isUpper_of_mem_code, h⟩
    exact hletters.imp fun x ch ⟨⟨hx, hI⟩, hch⟩ =>
      (upperChar_eq_singleton_iff_isLetter hx hI).mpr hch

/-- **A text comes to the code** of a currency if it is the code in writing. -/
theorem normalize_eq_code_iff : normalize s = c.code ↔ c.IsWritten s := by
  rw [normalize, ← String.toList_inj, String.toList_ofList, upperChars_eq_iff isChain_code,
    forall₂_upperChar_iff, IsWritten]

theorem parse_eq_ok_iff : parse s = .ok c ↔ c.IsWritten s := by
  rw [← normalize_eq_code_iff, ← ofCode?_eq_some_iff, parse]
  cases ofCode? (normalize s) <;> simp

/-! ### Changes that do not matter -/

/-- The text with the case of some of its ASCII letters changed. -/
def SameButCase (s s' : String) : Prop :=
  List.Forall₂ (fun ch ch' => ch' = ch ∨ ch' = ch.toUpper ∨ ch' = ch.toLower) s.toList s'.toList

theorem normalize_append {before after : String} (hbefore : allBlank before = true)
    (hafter : allBlank after = true) : normalize (before ++ s ++ after) = normalize s := by
  rw [normalize, String.toList_append, String.toList_append,
    trimChars_append (allBlank_iff.mp hbefore) (allBlank_iff.mp hafter), normalize]

theorem map_toUpper_of_sameButCase (h : SameButCase s s') :
    s'.toList.map Char.toUpper = s.toList.map Char.toUpper := by
  unfold SameButCase at h
  generalize s.toList = cs at h
  generalize s'.toList = cs' at h
  induction h with
  | nil => rfl
  | cons hch _ ih =>
      rw [List.map_cons, List.map_cons, ih]
      rcases hch with rfl | rfl | rfl
      · rfl
      · rw [Char.toUpper_toUpper_eq_toUpper]
      · rw [Char.toUpper_toLower_eq_toUpper]

theorem normalize_of_sameButCase (h : SameButCase s s') : normalize s' = normalize s := by
  -- uppercasing does not see the case, nor does trimming, as no letter is blank
  have hchars : ∀ s : String,
      upperChars (trimChars s.toList) = upperChars (trimChars (s.toList.map Char.toUpper)) := by
    intro s
    rw [trimChars_map isBlank_toUpper, upperChars_map_toUpper]
  rw [normalize, normalize, hchars, map_toUpper_of_sameButCase h, ← hchars]

/-! ### Reading -/

/-- What is read depends only on the text in its normal form. -/
theorem parse_congr (h : normalize s' = normalize s) : parse s' = parse s := by
  rw [parse, parse, h]

theorem parse_of_not_isWritten (h : ∀ c : Currency, ¬ c.IsWritten s) :
    parse s = .error (.constraint (.unsupportedCurrency (normalize s))) := by
  have hnone : ofCode? (normalize s) = none := by
    rw [Option.eq_none_iff_forall_ne_some]
    exact fun c hc => h c (normalize_eq_code_iff.mp (ofCode?_eq_some_iff.mp hc))
  rw [parse, hnone]

/-- **Which texts are read as a currency.**  A text is read as the currency that
it writes, the code of each currency among them, and every other text is
refused with a message that quotes it without the blanks around it and in
upper case.  Blanks around a text and the case of its ASCII letters do not
matter, neither to what is read nor to what is refused. -/
theorem parse_outcome :
    (∀ s c, parse s = .ok c ↔ c.IsWritten s) ∧
    (∀ c, parse c.code = .ok c) ∧
    (∀ s before after, allBlank before = true → allBlank after = true →
      parse (before ++ s ++ after) = parse s) ∧
    (∀ s s', SameButCase s s' → parse s' = parse s) ∧
    ∀ s, (∀ c : Currency, ¬ c.IsWritten s) → ∃ v, parse s = .error (.constraint v) ∧
      (Error.constraint v).message = "Constraint violation: unsupported currency: " ++
        quote (String.ofList (upperChars (trimChars s.toList))) := by
  refine ⟨fun _ _ => parse_eq_ok_iff, parse_code, ?blanks, ?case, ?refused⟩
  case blanks =>
    exact fun _ _ _ hbefore hafter => parse_congr (normalize_append hbefore hafter)
  case case => exact fun _ _ h => parse_congr (normalize_of_sameButCase h)
  case refused =>
    intro s h
    refine ⟨_, parse_of_not_isWritten h, ?_⟩
    show "Constraint violation: " ++ ("unsupported currency: " ++ quote (normalize s)) = _
    rw [← String.append_assoc]
    rfl

/-- A long s, blanks and small letters are read in a code, and a currency that
there is not is refused in capital letters. -/
theorem parse_outcome_of_long_s :
    IsWritten .usd " u\u017FD\t" ∧ parse ("\n" ++ " u\u017FD\t" ++ " ") = .ok .usd ∧
      parse " U\u017Fd\t" = .ok .usd ∧
      ∃ v, parse "g\"p " = .error (.constraint v) ∧ (Error.constraint v).message =
        "Constraint violation: unsupported currency: \"G\\\"P\"" := by
  obtain ⟨hok, -, hblank, hcase, herror⟩ := parse_outcome
  have hread : parse " u\u017FD\t" = .ok .usd := by decide +kernel
  have hsame : SameButCase " u\u017FD\t" " U\u017Fd\t" := by
    unfold SameButCase
    decide +kernel
  have hnone : ∀ c : Currency, ¬ c.IsWritten "g\"p " := by
    intro c hc
    have hrefused : (parse "g\"p ").isOk = false := by decide +kernel
    rw [(hok _ c).mpr hc] at hrefused
    cases hrefused
  obtain ⟨v, hv, hmessage⟩ := herror _ hnone
  refine ⟨(hok _ _).mp hread, (hblank _ "\n" " " (by decide) (by decide)).trans hread,
    (hcase _ _ hsame).trans hread, v, hv, hmessage.trans ?_⟩
  decide +kernel

end Currency

end DoubleEntry
