/-
DoubleEntry/Proofs/Record/Registration.lean

What a user may register with.  The rules for usernames and email addresses
are patterns (`usernamePattern`, `emailPattern`).  A text may match the one for
email addresses in several ways, as any point inside the domain may be the one
that the pattern asks for; it matches in some way exactly if it has the form
`IsEmailForm`, and that is what is checked (`isEmail_iff`).
`User.validateNew_outcome` says of all texts which are accepted, and for what
the others are refused.
-/
import DoubleEntry.Proofs.Outcome
import DoubleEntry.Proofs.Text.Pattern
import DoubleEntry.Proofs.Text.Trimmed
import DoubleEntry.Record.Rules

namespace DoubleEntry

open DoubleEntry.Text

variable {s : String}

/-! ### Usernames -/

/-- 3 to 100 small letters, digits and underscores. -/
structure IsUsernameForm (s : String) : Prop where
  least : 3 ≤ s.toList.length
  most : s.toList.length ≤ 100
  chars : ∀ c ∈ s.toList, ('a' ≤ c ∧ c ≤ 'z') ∨ ('0' ≤ c ∧ c ≤ '9') ∨ c = '_'

theorem isUsernameChar_iff {c : Char} :
    isUsernameChar c = true ↔ ('a' ≤ c ∧ c ≤ 'z') ∨ ('0' ≤ c ∧ c ≤ '9') ∨ c = '_' := by
  simp [isUsernameChar, or_assoc]

theorem isUsername_iff : isUsername s = true ↔ IsUsernameForm s := by
  simp only [isUsername, Bool.and_eq_true, decide_eq_true_eq, List.all_eq_true,
    isUsernameChar_iff]
  exact ⟨fun h => ⟨h.1.1, h.1.2, h.2⟩, fun h => ⟨⟨h.least, h.most⟩, h.chars⟩⟩

/-- The pattern `^[a-z0-9_]{3,100}$`. -/
def usernamePattern : Pattern :=
  .repeated (.oneOf isUsernameChar) 3 (some 100)

theorem matches_usernamePattern_iff : usernamePattern.Matches s ↔ IsUsernameForm s := by
  simp only [Pattern.Matches, usernamePattern, Pattern.mem_language_repeated_oneOf,
    Option.mem_some_iff, forall_eq', isUsernameChar_iff]
  exact ⟨fun h => ⟨h.1, h.2.1, h.2.2⟩, fun h => ⟨h.least, h.most, h.chars⟩⟩

/-! ### Email addresses -/

/-- No blanks, one `@` with something before it, and behind it a point with
something on either side. -/
structure IsEmailForm (s : String) : Prop where
  unspaced : ∀ c ∈ s.toList, isBlank c = false
  single : s.toList.count '@' = 1
  parts : ∃ name domain, s.toList = name ++ '@' :: domain ∧ name ≠ [] ∧
    ∃ left right, domain = left ++ '.' :: right ∧ left ≠ [] ∧ right ≠ []

/-- A character that is neither an `@` nor blank. -/
def isEmailChar (c : Char) : Bool :=
  c ≠ '@' && !isBlank c

/-- The pattern `^[^@\s]+@[^@\s]+\.[^@\s]+$`. -/
def emailPattern : Pattern :=
  let part : Pattern := .repeated (.oneOf isEmailChar) 1 none
  .followedBy part <| .followedBy (.oneOf (· = '@')) <|
    .followedBy part <| .followedBy (.oneOf (· = '.')) part

/-- One part of an email address. -/
structure IsEmailPart (cs : List Char) : Prop where
  ne_nil : cs ≠ []
  unspaced : ∀ c ∈ cs, isBlank c = false
  single : '@' ∉ cs

theorem mem_language_part_iff {cs : List Char} :
    cs ∈ (Pattern.repeated (.oneOf isEmailChar) 1 none).language ↔ IsEmailPart cs := by
  rw [Pattern.mem_language_repeated_oneOf]
  constructor
  · rintro ⟨hlength, -, hchars⟩
    simp only [isEmailChar, Bool.and_eq_true, decide_eq_true_eq, Bool.not_eq_true'] at hchars
    exact ⟨List.ne_nil_of_length_pos hlength, fun c hc => (hchars c hc).2,
      fun hat => (hchars '@' hat).1 rfl⟩
  · rintro ⟨hne, hunspaced, hsingle⟩
    refine ⟨List.length_pos_of_ne_nil hne, nofun, fun c hc => ?_⟩
    have hat : c ≠ '@' := fun heq => hsingle (heq ▸ hc)
    simp [isEmailChar, hat, hunspaced c hc]

/-- A match is a way to take the text apart. -/
theorem matches_emailPattern_iff_parts :
    emailPattern.Matches s ↔ ∃ name left right,
      s.toList = name ++ '@' :: (left ++ '.' :: right) ∧
      IsEmailPart name ∧ IsEmailPart left ∧ IsEmailPart right := by
  simp only [Pattern.Matches, emailPattern, Pattern.mem_language_followedBy,
    mem_language_part_iff, Pattern.mem_language_oneOf, decide_eq_true_eq]
  constructor
  · rintro ⟨name, hname, _, ⟨_, ⟨_, rfl, rfl⟩, _, ⟨left, hleft, _, ⟨_, ⟨_, rfl, rfl⟩, right,
      hright, rfl⟩, rfl⟩, rfl⟩, hs⟩
    exact ⟨name, left, right, hs.symm, hname, hleft, hright⟩
  · rintro ⟨name, left, right, hs, hname, hleft, hright⟩
    exact ⟨name, hname, _, ⟨_, ⟨_, rfl, rfl⟩, _, ⟨left, hleft, _, ⟨_, ⟨_, rfl, rfl⟩, right,
      hright, rfl⟩, rfl⟩, rfl⟩, hs.symm⟩

/-- It does not matter which point the pattern takes. -/
theorem matches_emailPattern_iff : emailPattern.Matches s ↔ IsEmailForm s := by
  rw [matches_emailPattern_iff_parts]
  constructor
  · -- a match: its parts have no `@` and no blanks, and neither has what joins them
    rintro ⟨name, left, right, hs, hname, hleft, hright⟩
    refine ⟨?_, ?_, name, _, hs, hname.ne_nil, left, right, rfl, hleft.ne_nil, hright.ne_nil⟩
    · have hat : isBlank '@' = false := by decide
      have hpoint : isBlank '.' = false := by decide
      simp only [hs, List.forall_mem_append, List.forall_mem_cons]
      exact ⟨hname.unspaced, hat, hleft.unspaced, hpoint, hright.unspaced⟩
    · simp [hs, List.count_eq_zero.mpr hname.single, List.count_eq_zero.mpr hleft.single,
        List.count_eq_zero.mpr hright.single]
  · -- the form: as the `@` is single, none is left for the parts, whichever point is taken
    rintro ⟨hunspaced, hsingle, name, _, hs, hname, left, right, rfl, hleft, hright⟩
    simp only [hs, List.forall_mem_append, List.forall_mem_cons] at hunspaced
    obtain ⟨hnameUnspaced, -, hleftUnspaced, -, hrightUnspaced⟩ := hunspaced
    rw [hs] at hsingle
    simp only [List.count_append, List.count_cons_self] at hsingle
    rw [List.count_cons_of_ne (by decide)] at hsingle
    refine ⟨name, left, right, hs, ⟨hname, hnameUnspaced, ?_⟩, ⟨hleft, hleftUnspaced, ?_⟩,
      hright, hrightUnspaced, ?_⟩
    all_goals
      apply List.count_eq_zero.mp
      omega

/-- The text is taken apart at its first `@`. -/
theorem isEmail_of_parts {name domain : List Char} (hs : s.toList = name ++ '@' :: domain)
    (hname : '@' ∉ name) :
    isEmail s = true ↔ name ≠ [] ∧ (∀ c ∈ s.toList, isBlank c = false) ∧ '@' ∉ domain ∧
      ∃ left right, domain = left ++ '.' :: right ∧ left ≠ [] ∧ right ≠ [] := by
  obtain ⟨htake, hdrop⟩ := takeWhile_ne_append_cons hname domain
  rw [← hs] at htake hdrop
  simp only [isEmail, htake, hdrop, List.drop_succ_cons, List.drop_zero, Bool.and_eq_true,
    Bool.not_eq_true', List.isEmpty_eq_false_iff, List.any_eq_false, List.contains_eq_mem,
    decide_eq_true_eq, decide_eq_false_iff_not, mem_dropLast_drop_one_iff, and_assoc,
    Bool.not_eq_true]

/-- **What is checked is the form of an email address.** -/
theorem isEmail_iff : isEmail s = true ↔ IsEmailForm s := by
  constructor
  · intro h
    by_cases hat : '@' ∈ s.toList
    · obtain ⟨name, domain, hs, hname⟩ := List.eq_append_cons_of_mem hat
      obtain ⟨hne, hunspaced, hdomain, hpoint⟩ := (isEmail_of_parts hs hname).mp h
      refine ⟨hunspaced, ?_, name, domain, hs, hne, hpoint⟩
      simp [hs, List.count_eq_zero.mpr hname, List.count_eq_zero.mpr hdomain]
    · -- without an `@` nothing is left that could hold a point
      have hnone : s.toList.dropWhile (fun c => decide (c ≠ '@')) = [] := by
        rw [List.dropWhile_eq_nil_iff]
        intro c hc
        rw [decide_eq_true_eq]
        rintro rfl
        exact hat hc
      simp only [isEmail, hnone] at h
      simp at h
  · rintro ⟨hunspaced, hsingle, name, domain, hs, hne, hpoint⟩
    rw [hs, List.count_append, List.count_cons_self] at hsingle
    have hname : '@' ∉ name := List.count_eq_zero.mp (by omega)
    have hdomain : '@' ∉ domain := List.count_eq_zero.mp (by omega)
    exact (isEmail_of_parts hs hname).mpr ⟨hne, hunspaced, hdomain, hpoint⟩

/-- Points may follow one another and stand at both ends of the domain, if one
stands inside it. -/
example : isEmail "a@.b..c." = true ∧ isEmail "a@.b." = false := by decide

/-! ### Registering -/

namespace User

variable {username fullName email : String}

/-- What a user may register with. -/
structure IsRegistrable (username fullName email : String) : Prop where
  username : IsUsernameForm username
  fullName : ∃ c ∈ fullName.toList, isBlank c = false
  email : IsEmailForm email

/-- The rule that is broken first, in the order of the arguments. -/
inductive FirstBroken (username fullName email : String) : Violation → Prop
  | username (malformed : ¬ IsUsernameForm username) :
      FirstBroken username fullName email .malformedUsername
  | fullName (named : IsUsernameForm username)
      (blank : ∀ c ∈ fullName.toList, isBlank c = true) :
      FirstBroken username fullName email .blankFullName
  | email (named : IsUsernameForm username) (known : ∃ c ∈ fullName.toList, isBlank c = false)
      (malformed : ¬ IsEmailForm email) :
      FirstBroken username fullName email (.malformedEmail email)

theorem validateNew_of_isRegistrable (h : IsRegistrable username fullName email) :
    validateNew username fullName email = .ok () := by
  rw [validateNew, isUsername_iff.mpr h.username, allBlank_eq_false_iff.mpr h.fullName,
    isEmail_iff.mpr h.email]
  rfl

theorem validateNew_of_firstBroken {v : Violation} (h : FirstBroken username fullName email v) :
    validateNew username fullName email = .error (.constraint v) := by
  cases h with
  | username hmalformed =>
      rw [validateNew, Bool.eq_false_iff.mpr (mt isUsername_iff.mp hmalformed)]
      rfl
  | fullName hname hblank =>
      rw [validateNew, isUsername_iff.mpr hname, allBlank_iff.mpr hblank]
      rfl
  | email hname hknown hmalformed =>
      rw [validateNew, isUsername_iff.mpr hname, allBlank_eq_false_iff.mpr hknown,
        Bool.eq_false_iff.mpr (mt isEmail_iff.mp hmalformed)]
      rfl

/-- Each of the rules is kept or broken. -/
theorem validateNew_endsAs (username fullName email : String) :
    EndsAs (validateNew username fullName email) (fun _ => IsRegistrable username fullName email)
      (fun e => ∃ v, e = .constraint v ∧ FirstBroken username fullName email v) where
  accepted _ := validateNew_of_isRegistrable
  refused := by
    rintro _ ⟨v, rfl, hbroken⟩
    exact validateNew_of_firstBroken hbroken
  total := by
    by_cases hname : IsUsernameForm username
    · cases hblank : allBlank fullName with
      | true => exact .inr ⟨_, _, rfl, .fullName hname (allBlank_iff.mp hblank)⟩
      | false =>
          have hknown := allBlank_eq_false_iff.mp hblank
          by_cases hemail : IsEmailForm email
          · exact .inl ⟨(), hname, hknown, hemail⟩
          · exact .inr ⟨_, _, rfl, .email hname hknown hemail⟩
    · exact .inr ⟨_, _, rfl, .username hname⟩

/-- **What a user may register with**: a name and an address that match the
patterns, told directly, and a full name that is not blank.  Anything else is
refused for the first rule that it breaks. -/
theorem validateNew_outcome (username fullName email : String) :
    (validateNew username fullName email = .ok () ↔ IsRegistrable username fullName email) ∧
    (∀ e, validateNew username fullName email = .error e ↔
      ∃ v, e = .constraint v ∧ FirstBroken username fullName email v) ∧
    (usernamePattern.Matches username ↔ IsUsernameForm username) ∧
    (emailPattern.Matches email ↔ IsEmailForm email) := by
  have hends := validateNew_endsAs username fullName email
  exact ⟨hends.eq_ok_iff (), hends.eq_error_iff, matches_usernamePattern_iff,
    matches_emailPattern_iff⟩

end User

end DoubleEntry
