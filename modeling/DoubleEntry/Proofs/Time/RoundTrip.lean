/-
DoubleEntry/Proofs/Time/RoundTrip.lean

Instants read back from their stored text.  The text of an instant has four
digits for the year only in the years 0 to 9999, and no second 60 outside a
leap second; `IsRegular` names the instants of that kind, and
`read?_storedText` says that reading gives each of them back to the
nanosecond, as `readLoosely?_text` says for their text in UTC.
-/
import DoubleEntry.Proofs.Text.Numeral
import DoubleEntry.Proofs.Time.Calendar

namespace DoubleEntry.Instant

open DoubleEntry.Text

/-- An instant of the years 0 to 9999 that is not within a leap second. -/
structure IsRegular (t : Instant) : Prop where
  year_nonneg : 0 ≤ t.date.year
  year_le : t.date.year ≤ 9999
  nanos_lt : t.nanos < 1000000000

variable {t : Instant}

instance : Decidable t.IsRegular :=
  decidable_of_iff (0 ≤ t.date.year ∧ t.date.year ≤ 9999 ∧ t.nanos < 1000000000)
    ⟨fun ⟨h₀, h₁, h₂⟩ => ⟨h₀, h₁, h₂⟩, fun ⟨h₀, h₁, h₂⟩ => ⟨h₀, h₁, h₂⟩⟩

/-! ### Parts of an instant -/

theorem month_day_bounds (t : Instant) :
    (1 ≤ t.date.month ∧ t.date.month ≤ 12) ∧ 1 ≤ t.date.day ∧ t.date.day ≤ 31 := by
  have h := Date.isValid_ofNumber (t.seconds / 86400)
  have hdays : Date.daysInMonth t.date.year t.date.month ≤ 31 := by
    unfold Date.daysInMonth
    split
    · split <;> omega
    · split <;> omega
  simp only [Date.isValid, Bool.and_eq_true, decide_eq_true_eq] at h
  exact ⟨⟨h.1.1.1, h.1.1.2⟩, h.1.2, Nat.le_trans h.2 hdays⟩

theorem secondOfDay_lt (t : Instant) : t.secondOfDay < 86400 := by
  unfold secondOfDay
  omega

theorem hour_lt (t : Instant) : t.hour < 24 := by
  have h := t.secondOfDay_lt
  unfold hour
  omega

theorem minute_lt (t : Instant) : t.minute < 60 := by
  unfold minute
  omega

theorem second_eq (h : t.nanos < 1000000000) : t.second = t.secondOfDay % 60 := by
  unfold second
  omega

theorem fraction_eq (h : t.nanos < 1000000000) : t.fraction = t.nanos :=
  Nat.mod_eq_of_lt h

/-- An instant is made of its day and its time of day. -/
theorem seconds_eq (h : t.nanos < 1000000000) :
    t.date.number * 86400 + t.hour * 3600 + t.minute * 60 + t.second = t.seconds := by
  have hday : t.date.number = t.seconds / 86400 := Date.number_ofNumber _
  rw [hday, second_eq h]
  unfold hour minute secondOfDay
  omega

theorem IsRegular.inRange (h : t.IsRegular) : t.inRange = true := by
  obtain ⟨⟨hm₀, hm₁⟩, hd₀, hd₁⟩ := t.month_day_bounds
  have hy₀ := h.year_nonneg
  have hy₁ := h.year_le
  -- rough bounds will do: the range of instants is far wider
  have hnumber : -719900 ≤ t.date.number ∧ t.date.number ≤ 2933000 := by
    unfold Date.number
    by_cases hm : t.date.month ≤ 2
    · simp only [hm, if_true]
      omega
    · simp only [hm, if_false]
      omega
  have hday : t.date.number = t.seconds / 86400 := Date.number_ofNumber _
  unfold Instant.inRange
  rw [Bool.and_eq_true, decide_eq_true_eq, decide_eq_true_eq]
  unfold firstSecond lastSecond
  omega

/-! ### Reading the parts back -/

/-- The zone of stored texts. -/
def zoneChars : List Char :=
  ['+', '0', '0', ':', '0', '0']

theorem readZone?_zoneChars : readZone? (readChar? ':') zoneChars = some (0, []) := by
  decide

theorem takeWhile_zoneChars :
    zoneChars.takeWhile (fun c => (digitValue? c).isSome) = [] := by
  decide

/-- Digits after the point, in whole steps of nanoseconds. -/
theorem readFraction?_point {w n : Nat} {zone : List Char} (hw : 0 < w) (hw9 : w ≤ 9)
    (hn : n < 10 ^ w) (hzone : zone.takeWhile (fun c => (digitValue? c).isSome) = []) :
    readFraction? ('.' :: (padDigits w n ++ zone)) = some (n * 10 ^ (9 - w), zone) := by
  have hlen := length_padDigits hw hn
  have htake : (padDigits w n).take 9 = padDigits w n := List.take_of_length_le (by omega)
  simp only [readFraction?, takeWhile_padDigits w n hzone, htake,
    readNat?_padDigits, hlen]
  rw [List.drop_append_of_le_length (by omega), List.drop_of_length_le (by omega),
    List.nil_append]
  rfl

/-- However many digits a fraction is written with, it is read back. -/
theorem readFraction?_fractionChars {n : Nat} {zone : List Char} (hn : n < 1000000000)
    (hzone : zone.takeWhile (fun c => (digitValue? c).isSome) = [])
    (hwhole : readFraction? zone = some (0, zone)) :
    readFraction? (fractionChars n ++ zone) = some (n, zone) := by
  unfold fractionChars
  split
  case isTrue h0 =>
    subst h0
    exact hwhole
  case isFalse h0 =>
    split
    case isTrue h6 =>
      rw [List.cons_append, readFraction?_point (by decide) (by decide) (by omega) hzone]
      simp only [Option.some.injEq, Prod.mk.injEq, and_true]
      omega
    case isFalse h6 =>
      split
      case isTrue h3 =>
        rw [List.cons_append, readFraction?_point (by decide) (by decide) (by omega) hzone]
        simp only [Option.some.injEq, Prod.mk.injEq, and_true]
        omega
      case isFalse h3 =>
        rw [List.cons_append, readFraction?_point (by decide) (by decide) (by omega) hzone]
        simp only [Option.some.injEq, Prod.mk.injEq, and_true]
        omega

/-- The parts of a regular instant make it up again. -/
theorem IsRegular.ofParts?_eq (h : t.IsRegular) :
    ofParts? t.date t.hour t.minute t.second t.fraction 0 = some t := by
  have hn := h.nanos_lt
  have hsecond : t.second < 60 := by
    rw [second_eq hn]
    omega
  have hne : ¬ t.second = 60 := by omega
  have hvalid : t.date.isValid = true := Date.isValid_ofNumber _
  have hy₀ := h.year_nonneg
  have hy₁ := h.year_le
  have hhour := t.hour_lt
  have hminute := t.minute_lt
  have hrange := h.inRange
  have heq : (⟨t.date.number * 86400 + t.hour * 3600 + t.minute * 60 + t.second - 0,
      t.fraction⟩ : Instant) = t := by
    rw [seconds_eq hn, fraction_eq hn, Int.sub_zero]
  unfold ofParts?
  simp only [hne, if_false, heq]
  rw [if_pos]
  simp only [Bool.and_eq_true, decide_eq_true_eq]
  refine ⟨⟨⟨⟨⟨⟨hvalid, by omega⟩, by omega⟩, hhour⟩, hminute⟩, by omega⟩, hrange⟩

/-! ### Years in seconds -/

/-- The year of an instant is told by its seconds. -/
theorem year_lt_iff (t : Instant) (y : Int) :
    t.date.year < y ↔ t.seconds < 86400 * Date.number ⟨y, 1, 1⟩ := by
  show (Date.ofNumber (t.seconds / 86400)).year < y ↔ _
  rw [Date.year_ofNumber_lt_iff]
  omega

/-- The seconds of the years 0 to 9999. -/
theorem isRegular_iff :
    t.IsRegular ↔
      -62167219200 ≤ t.seconds ∧ t.seconds ≤ 253402300799 ∧ t.nanos < 1000000000 := by
  have hfirst : t.date.year < 0 ↔ t.seconds < -62167219200 := t.year_lt_iff 0
  have hlast : t.date.year < 10000 ↔ t.seconds < 253402300800 := t.year_lt_iff 10000
  constructor
  · rintro ⟨h₀, h₁, hnanos⟩
    exact ⟨by omega, by omega, hnanos⟩
  · rintro ⟨h₀, h₁, hnanos⟩
    exact ⟨by omega, by omega, hnanos⟩

/-! ### The round trip -/

/-- What has been read is handed on. -/
theorem bind_of_eq_some {α β : Type} {o : Option α} {a : α} (h : o = some a)
    (f : α → Option β) : (o >>= f) = f a := by
  rw [h]
  rfl

theorem readChar?_self (c : Char) (rest : List Char) : readChar? c (c :: rest) = some rest :=
  if_pos rfl

/-- Stored texts have a letter between the day and the time. -/
theorem readSeparator?_day (rest : List Char) : readSeparator? ('T' :: rest) = some rest :=
  rfl

theorem IsRegular.second_lt (h : t.IsRegular) : t.second < 60 := by
  rw [second_eq h.nanos_lt]
  omega

theorem IsRegular.fraction_lt (h : t.IsRegular) : t.fraction < 1000000000 := by
  rw [fraction_eq h.nanos_lt]
  exact h.nanos_lt

theorem IsRegular.year_lt (h : t.IsRegular) : t.date.year.toNat < 10000 := by
  have := h.year_le
  omega

/-- The date that is read for the date of a regular instant. -/
theorem IsRegular.date_eq (h : t.IsRegular) :
    (⟨(t.date.year.toNat : Nat), t.date.month, t.date.day⟩ : Date) = t.date := by
  rw [Int.toNat_of_nonneg h.year_nonneg]

/-- A regular instant is written as numerals of a fixed width, a fraction and
a zone. -/
theorem IsRegular.localChars_append (h : t.IsRegular) (zone : List Char) :
    t.localChars ++ zone = padDigits 4 t.date.year.toNat ++ '-' ::
      (padDigits 2 t.date.month ++ '-' :: (padDigits 2 t.date.day ++ 'T' ::
        (padDigits 2 t.hour ++ ':' :: (padDigits 2 t.minute ++ ':' ::
          (padDigits 2 t.second ++ (fractionChars t.fraction ++ zone)))))) := by
  have hyear : yearChars t.date.year = padDigits 4 t.date.year.toNat :=
    if_pos ⟨h.year_nonneg, h.year_le⟩
  simp only [localChars, dateChars, timeChars, hyear, List.append_assoc, List.cons_append]

/-- **A regular instant is read back from its stored text.** -/
theorem read?_storedText (h : t.IsRegular) : read? t.storedText = some t := by
  obtain ⟨⟨-, hmonth⟩, -, hday⟩ := t.month_day_bounds
  have hhour := t.hour_lt
  have hminute := t.minute_lt
  have hsecond := h.second_lt
  unfold read?
  rw [storedText, String.toList_ofList, h.localChars_append]
  -- year, month, day, hour, minute and second, one numeral after the other
  refine (bind_of_eq_some (readDigits?_padDigits (by decide) h.year_lt _) _).trans ?_
  refine (bind_of_eq_some (readChar?_self '-' _) _).trans ?_
  refine (bind_of_eq_some (readDigits?_padDigits (by decide) (by omega) _) _).trans ?_
  refine (bind_of_eq_some (readChar?_self '-' _) _).trans ?_
  refine (bind_of_eq_some (readDigits?_padDigits (by decide) (by omega) _) _).trans ?_
  refine (bind_of_eq_some (readSeparator?_day _) _).trans ?_
  refine (bind_of_eq_some (readDigits?_padDigits (by decide) (by omega) _) _).trans ?_
  refine (bind_of_eq_some (readChar?_self ':' _) _).trans ?_
  refine (bind_of_eq_some (readDigits?_padDigits (by decide) (by omega) _) _).trans ?_
  refine (bind_of_eq_some (readChar?_self ':' _) _).trans ?_
  refine (bind_of_eq_some (readDigits?_padDigits (by decide) (by omega) _) _).trans ?_
  refine (bind_of_eq_some
    (readFraction?_fractionChars h.fraction_lt takeWhile_zoneChars rfl) _).trans ?_
  refine (bind_of_eq_some readZone?_zoneChars _).trans ?_
  show ofParts? ⟨(t.date.year.toNat : Nat), t.date.month, t.date.day⟩ _ _ _ _ _ = _
  rw [h.date_eq, h.ofParts?_eq]

/-! ### Reading with more freedom -/

theorem readShort?_padDigits {n : Nat} (hn : n < 100) (rest : List Char) :
    readShort? (padDigits 2 n ++ rest) = some (n, rest) := by
  rw [readShort?, trimStart_padDigits]
  exact readDigits?_padDigits_of_le (by decide) (by decide) (by omega) rest

/-- A year of four digits needs no sign. -/
theorem readYear?_padDigits {n : Nat} (hn : n < 10000) (rest : List Char) :
    readYear? (padDigits 4 n ++ rest) = some ((n : Int), rest) := by
  have hdigits : readDigits? 1 4 (padDigits 4 n ++ rest) = some (n, rest) :=
    readDigits?_padDigits_of_le (by decide) (by decide) (by omega) rest
  obtain ⟨c, cs, heq, hc⟩ := exists_padDigits_eq_cons 4 n
  rw [readYear?, trimStart_padDigits]
  rw [heq] at hdigits ⊢
  split
  case h_1 hsign =>
    obtain ⟨rfl, -⟩ := List.cons.inj hsign
    cases hc
  case h_2 hsign =>
    obtain ⟨rfl, -⟩ := List.cons.inj hsign
    cases hc
  case h_3 =>
    rw [hdigits]
    rfl

/-- **A regular instant is read back from its text**, also where blanks and
single digits are allowed. -/
theorem readLoosely?_text (h : t.IsRegular) : readLoosely? t.text = some t := by
  obtain ⟨⟨-, hmonth⟩, -, hday⟩ := t.month_day_bounds
  have hhour := t.hour_lt
  have hminute := t.minute_lt
  have hsecond := h.second_lt
  have hdash (rest : List Char) : readMark? '-' ('-' :: rest) = some rest := rfl
  have hcolon (rest : List Char) : readMark? ':' (':' :: rest) = some rest := rfl
  unfold readLoosely?
  rw [text, String.toList_ofList, h.localChars_append]
  refine (bind_of_eq_some (readYear?_padDigits h.year_lt _) _).trans ?_
  refine (bind_of_eq_some (hdash _) _).trans ?_
  refine (bind_of_eq_some (readShort?_padDigits (by omega) _) _).trans ?_
  refine (bind_of_eq_some (hdash _) _).trans ?_
  refine (bind_of_eq_some (readShort?_padDigits (by omega) _) _).trans ?_
  refine (bind_of_eq_some (readSeparator?_day _) _).trans ?_
  refine (bind_of_eq_some (readShort?_padDigits (by omega) _) _).trans ?_
  refine (bind_of_eq_some (hcolon _) _).trans ?_
  refine (bind_of_eq_some (readShort?_padDigits (by omega) _) _).trans ?_
  refine (bind_of_eq_some (hcolon _) _).trans ?_
  refine (bind_of_eq_some (readShort?_padDigits (by omega) _) _).trans ?_
  refine (bind_of_eq_some (readFraction?_fractionChars h.fraction_lt rfl rfl) _).trans ?_
  show ofParts? ⟨(t.date.year.toNat : Nat), t.date.month, t.date.day⟩ _ _ _ _ _ = _
  rw [h.date_eq, h.ofParts?_eq]

/-! ### Years with a sign -/

/-- The year of the instant is written with a sign. -/
def HasSignedYear (t : Instant) : Prop :=
  t.date.year < 0 ∨ 9999 < t.date.year

instance : Decidable t.HasSignedYear :=
  inferInstanceAs (Decidable (t.date.year < 0 ∨ 9999 < t.date.year))

/-- After the years of four digits come those with a sign. -/
theorem hasSignedYear_of_lt (h : 253402300799 < t.seconds) : t.HasSignedYear := by
  have hlast : t.date.year < 10000 ↔ t.seconds < 253402300800 := t.year_lt_iff 10000
  right
  omega

/-- Outside a leap second an instant is regular unless its year has a sign. -/
theorem isRegular_or_hasSignedYear (h : t.nanos < 1000000000) :
    t.IsRegular ∨ t.HasSignedYear := by
  by_cases hyear : 0 ≤ t.date.year ∧ t.date.year ≤ 9999
  · exact Or.inl ⟨hyear.1, hyear.2, h⟩
  · right
    unfold HasSignedYear
    omega

/-- **A year with a sign is not read back**: the format wants four digits. -/
theorem read?_storedText_of_hasSignedYear (h : t.HasSignedYear) : read? t.storedText = none := by
  have hsign : ∃ sign rest, t.storedText.toList = sign :: rest ∧ digitValue? sign = none := by
    have hyear : yearChars t.date.year =
        (if t.date.year < 0 then '-' else '+') :: padDigits 4 t.date.year.natAbs := by
      have hnot : ¬ (0 ≤ t.date.year ∧ t.date.year ≤ 9999) := by
        unfold HasSignedYear at h
        omega
      exact if_neg hnot
    refine ⟨if t.date.year < 0 then '-' else '+', t.storedText.toList.tail, ?_, ?_⟩
    · simp only [storedText, localChars, dateChars, hyear, String.toList_ofList, List.cons_append,
        List.tail_cons]
    · split <;> decide
  obtain ⟨sign, rest, htext, hnodigit⟩ := hsign
  -- no digit stands where the year should be
  have hdigits : readDigits? 4 4 (sign :: rest) = none := by
    unfold readDigits?
    simp [List.take_succ_cons, hnodigit]
  unfold read?
  rw [htext, hdigits]
  rfl

/-- Time that is added outside a leap second does not lead into one. -/
theorem later_nanos_lt (h : t.nanos < 1000000000) (d : Duration) :
    (t.later d).nanos < 1000000000 := by
  unfold later
  simp only [h, if_true, ofNanos]
  omega

/-- Outside a leap second time is added to the nanosecond. -/
theorem toNanos_later (h : t.nanos < 1000000000) (d : Duration) :
    (t.later d).toNanos = t.toNanos + d.nanos := by
  unfold later
  simp only [h, if_true, ofNanos, toNanos]
  omega

/-- Whole seconds change only the seconds of an instant. -/
theorem later_ofSeconds (h : t.nanos < 1000000000) (s : Int) :
    t.later ⟨s * 1000000000⟩ = { t with seconds := t.seconds + s } := by
  simp only [later, h, if_true, ofNanos, toNanos, mk.injEq]
  omega

end DoubleEntry.Instant
