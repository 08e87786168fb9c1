/-
DoubleEntry/Proofs/Time/Calendar.lean

Days and their numbers.  `Date.ofNumber` takes the number of a day apart in
cycles of 400, 100, 4 and 1 years counted from March; `ofNumber_cycles` says
what it finds.  From there on a day is a year and a day of that year, which
`Date.ofYearDay` names.

Main results: every number is that of a day of the calendar
(`isValid_ofNumber`), and the day has that number (`number_ofNumber`).  The
years follow one another as the numbers do (`year_ofNumber_lt_iff`).
-/
import DoubleEntry.Time.Calendar

namespace DoubleEntry.Date

/-! ### Days of a year counted from March -/

/-- The day of a year, where the year starts in March and its first day has
number 0. -/
def ofYearDay (year day : Int) : Date :=
  let m := (5 * day + 2) / 153
  { year := if m < 10 then year else year + 1
    month := (if m < 10 then m + 3 else m - 9).toNat
    day := (day - (153 * m + 2) / 5 + 1).toNat }

/-- The month, counted from March, of a day of the year. -/
theorem month_bounds {d : Int} (h₀ : 0 ≤ d) (h₁ : d ≤ 365) :
    0 ≤ (5 * d + 2) / 153 ∧ (5 * d + 2) / 153 ≤ 11 := by
  omega

theorem number_ofYearDay (y : Int) {d : Int} (h₀ : 0 ≤ d) (h₁ : d ≤ 365) :
    (ofYearDay y d).number = 365 * y + y / 4 - y / 100 + y / 400 + d - 719468 := by
  obtain ⟨hm₀, hm₁⟩ := month_bounds h₀ h₁
  have hday : 0 ≤ d - (153 * ((5 * d + 2) / 153) + 2) / 5 := by omega
  unfold ofYearDay number
  generalize (5 * d + 2) / 153 = m at *
  by_cases hm : m < 10
  · have hmonth : ¬ (m + 3).toNat ≤ 2 := by omega
    simp only [hm, if_true, hmonth, if_false]
    rw [show (((m + 3).toNat : Nat) : Int) - 3 = m by omega]
    omega
  · have hmonth : (m - 9).toNat ≤ 2 := by omega
    simp only [hm, if_false, hmonth, if_true]
    rw [show (((m - 9).toNat : Nat) : Int) + 9 = m by omega]
    omega

/-- A day of the year is a day of the calendar.  The last one is the leap
day, which only some years have. -/
theorem isValid_ofYearDay (y : Int) {d : Int} (h₀ : 0 ≤ d) (h₁ : d ≤ 365)
    (hleap : d = 365 → isLeapYear (y + 1) = true) : (ofYearDay y d).isValid = true := by
  obtain ⟨hm₀, hm₁⟩ := month_bounds h₀ h₁
  obtain ⟨m, hm⟩ : ∃ m, m = (5 * d + 2) / 153 := ⟨_, rfl⟩
  have hcases : m = 0 ∨ m = 1 ∨ m = 2 ∨ m = 3 ∨ m = 4 ∨ m = 5 ∨ m = 6 ∨ m = 7 ∨ m = 8 ∨ m = 9 ∨
      m = 10 ∨ m = 11 := by omega
  unfold ofYearDay isValid
  rw [← hm]
  simp only [Bool.and_eq_true, decide_eq_true_eq]
  rcases hcases with rfl | rfl | rfl | rfl | rfl | rfl | rfl | rfl | rfl | rfl | rfl | h11
  case inr.inr.inr.inr.inr.inr.inr.inr.inr.inr.inr =>
    -- the month with the leap day
    subst h11
    have hyear : (if (11 : Int) < 10 then y else y + 1) = y + 1 := if_neg (by decide)
    have hmonth : (if (11 : Int) < 10 then (11 : Int) + 3 else 11 - 9).toNat = 2 := by decide
    rw [hyear, hmonth]
    by_cases hd : d = 365
    · rw [daysInMonth, if_pos rfl, if_pos (hleap hd)]
      omega
    · have hdays : 28 ≤ daysInMonth (y + 1) 2 := by
        rw [daysInMonth, if_pos rfl]
        split <;> omega
      omega
  all_goals
    simp only [daysInMonth]
    refine ⟨⟨⟨?_, ?_⟩, ?_⟩, ?_⟩ <;> simp <;> omega

/-! ### Cycles of years -/

/-- What the number of a day is taken apart into: 400 years, 100 years, 4
years, years and days.  A day after 365 days comes at the end of four years,
and at the end of 100 years only where 400 end. -/
theorem ofNumber_cycles (n : Int) :
    ∃ e c q i d : Int, (0 ≤ c ∧ c ≤ 3) ∧ (0 ≤ q ∧ q ≤ 24) ∧ (0 ≤ i ∧ i ≤ 3) ∧ (0 ≤ d ∧ d ≤ 365) ∧
      n + 719468 = 146097 * e + 36524 * c + 1461 * q + 365 * i + d ∧
      (d = 365 → i = 3 ∧ (q = 24 → c = 3)) ∧
      ofNumber n = ofYearDay (400 * e + 100 * c + 4 * q + i) d := by
  obtain ⟨z, hz⟩ : ∃ z, z = n + 719468 := ⟨_, rfl⟩
  obtain ⟨e, he⟩ : ∃ e, e = z / 146097 := ⟨_, rfl⟩
  obtain ⟨r, hr⟩ : ∃ r, r = z % 146097 := ⟨_, rfl⟩
  obtain ⟨c, hc⟩ : ∃ c, c = min (r / 36524) 3 := ⟨_, rfl⟩
  obtain ⟨s, hs⟩ : ∃ s, s = r - 36524 * c := ⟨_, rfl⟩
  obtain ⟨q, hq⟩ : ∃ q, q = s / 1461 := ⟨_, rfl⟩
  obtain ⟨t, ht⟩ : ∃ t, t = s % 1461 := ⟨_, rfl⟩
  obtain ⟨i, hi⟩ : ∃ i, i = min (t / 365) 3 := ⟨_, rfl⟩
  obtain ⟨d, hd⟩ : ∃ d, d = t - 365 * i := ⟨_, rfl⟩
  -- each cycle takes off what it can, and leaves less than its length
  have hrz : 0 ≤ r ∧ r ≤ 146096 ∧ z = 146097 * e + r := by omega
  have hcs : (0 ≤ c ∧ c ≤ 3) ∧ 0 ≤ s ∧ s ≤ 36524 ∧ (s = 36524 → c = 3) := by omega
  have hqt : (0 ≤ q ∧ q ≤ 24) ∧ 0 ≤ t ∧ t ≤ 1460 ∧ s = 1461 * q + t := by omega
  have hid : (0 ≤ i ∧ i ≤ 3) ∧ (0 ≤ d ∧ d ≤ 365) ∧ (d = 365 → i = 3) := by omega
  refine ⟨e, c, q, i, d, hcs.1, hqt.1, hid.1, hid.2.1, by omega, ?_, ?_⟩
  · intro h365
    exact ⟨hid.2.2 h365, fun h24 => hcs.2.2.2 (by omega)⟩
  · subst hd hi ht hq hs hc hr he hz
    rfl

/-! ### Numbers and days -/

/-- The day with a number has that number. -/
theorem number_ofNumber (n : Int) : (ofNumber n).number = n := by
  obtain ⟨e, c, q, i, d, hc, hq, hi, hd, hn, -, h⟩ := ofNumber_cycles n
  rw [h, number_ofYearDay _ hd.1 hd.2]
  have h4 : (400 * e + 100 * c + 4 * q + i) / 4 = 100 * e + 25 * c + q := by omega
  have h100 : (400 * e + 100 * c + 4 * q + i) / 100 = 4 * e + c := by omega
  have h400 : (400 * e + 100 * c + 4 * q + i) / 400 = e := by omega
  rw [h4, h100, h400]
  omega

/-- The day with a number is a day of the calendar. -/
theorem isValid_ofNumber (n : Int) : (ofNumber n).isValid = true := by
  obtain ⟨e, c, q, i, d, hc, hq, hi, hd, hn, h365, h⟩ := ofNumber_cycles n
  rw [h]
  refine isValid_ofYearDay _ hd.1 hd.2 ?_
  intro hlast
  obtain ⟨h3, h24⟩ := h365 hlast
  have hfour : (400 * e + 100 * c + 4 * q + i + 1) % 4 = 0 := by omega
  have hhundred : (400 * e + 100 * c + 4 * q + i + 1) % 100 ≠ 0 ∨
      (400 * e + 100 * c + 4 * q + i + 1) % 400 = 0 := by
    by_cases hq24 : q = 24
    · have hc3 := h24 hq24
      right
      omega
    · left
      omega
  simp only [isLeapYear, Bool.and_eq_true, Bool.or_eq_true, decide_eq_true_eq]
  exact ⟨hfour, hhundred⟩

/-! ### Years -/

/-- The days before a year that starts in March. -/
def daysBefore (y : Int) : Int :=
  365 * y + y / 4 - y / 100 + y / 400

/-- Each year has at least 365 days. -/
theorem daysBefore_lt {a b : Int} (h : a < b) : daysBefore a + 365 ≤ daysBefore b := by
  unfold daysBefore
  omega

/-- The days of the years before a year are those before its first day. -/
theorem year_ofNumber_lt_iff (n y : Int) :
    (ofNumber n).year < y ↔ n < number ⟨y, 1, 1⟩ := by
  obtain ⟨e, c, q, i, d, hc, hq, hi, hd, hn, -, h⟩ := ofNumber_cycles n
  obtain ⟨x, hx⟩ : ∃ x, x = 400 * e + 100 * c + 4 * q + i := ⟨_, rfl⟩
  have hnumber : n + 719468 = daysBefore x + d := by
    subst hx
    unfold daysBefore
    omega
  have hfirst : number ⟨y, 1, 1⟩ = daysBefore (y - 1) + 306 - 719468 := by
    simp only [number, daysBefore]
    omega
  rw [hfirst, h, ← hx]
  -- January and February belong to the year that started in March
  have hyear : (ofYearDay x d).year = if d ≤ 305 then x else x + 1 := by
    simp only [ofYearDay]
    split <;> split <;> omega
  rw [hyear]
  rcases Int.lt_trichotomy x (y - 1) with hlt | heq | hgt
  · have hdays := daysBefore_lt hlt
    split <;> omega
  · subst heq
    split <;> omega
  · have hdays := daysBefore_lt hgt
    split <;> omega

end DoubleEntry.Date
