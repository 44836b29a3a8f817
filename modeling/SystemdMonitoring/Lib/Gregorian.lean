/-
# `SystemdMonitoring.Lib.Gregorian` — months, leap years, and dates as text

A date is the name of a day exactly when it is one by the tables of the calendar:
a month of twelve, and a day within the length of that month (`isValid_iff`).
Days and dates are in the same order (`toDays_lt_iff`), and so are dates and
their texts of four, two and two digits (`earlier_iff_lt`).
-/
import SystemdMonitoring.Lib.Rfc3339Order
import SystemdMonitoring.Lib.TextParts

namespace Lib

namespace Date

/-! ## Months -/

def IsLeapYear (year : Int) : Prop := year % 4 = 0 ∧ (year % 100 = 0 → year % 400 = 0)

instance (year : Int) : Decidable (IsLeapYear year) :=
  inferInstanceAs (Decidable (_ ∧ (_ → _)))

def daysInMonth (year month : Int) : Int :=
  if month = 2 then (if IsLeapYear year then 29 else 28)
  else if month = 4 ∨ month = 6 ∨ month = 9 ∨ month = 11 then 30
  else 31

/-- A date by the tables of the Gregorian calendar. -/
def IsGregorian (date : Date) : Prop :=
  1 ≤ date.month ∧ date.month ≤ 12 ∧ 1 ≤ date.day ∧ date.day ≤ daysInMonth date.year date.month

/-- The days of the year that begins in March of the year before. -/
def daysInMarchYear (year : Int) : Int := if IsLeapYear year then 366 else 365

/-- Days before the March of a year. -/
def marchStart (year : Int) : Int := year / 400 * 146097 + daysBeforeYear (year % 400)

theorem isLeapYear_add_era (era year : Int) :
    IsLeapYear (era * 400 + year) ↔ IsLeapYear year := by
  rw [IsLeapYear, IsLeapYear]
  omega

theorem marchStart_succ (year : Int) :
    marchStart (year + 1) = marchStart year + daysInMarchYear (year + 1) := by
  have hlength : daysInMarchYear (year + 1) = 365 ∧ ¬ IsLeapYear (year + 1)
      ∨ daysInMarchYear (year + 1) = 366 ∧ IsLeapYear (year + 1) := by
    rw [daysInMarchYear]
    by_cases hleap : IsLeapYear (year + 1)
    · exact .inr ⟨if_pos hleap, hleap⟩
    · exact .inl ⟨if_neg hleap, hleap⟩
  rw [IsLeapYear] at hlength
  rw [marchStart, marchStart, daysBeforeYear, daysBeforeYear]
  by_cases hlast : year % 400 = 399
  · have hnext : (year + 1) % 400 = 0 ∧ (year + 1) / 400 = year / 400 + 1 := by omega
    rw [hlast, hnext.1, hnext.2]
    omega
  · have hnext : (year + 1) % 400 = year % 400 + 1 ∧ (year + 1) / 400 = year / 400 := by omega
    rw [hnext.1, hnext.2]
    omega

theorem marchStart_mono {year year' : Int} (h : year ≤ year') :
    marchStart year ≤ marchStart year' := by
  rw [marchStart, marchStart, daysBeforeYear, daysBeforeYear]
  omega

/-- A month that is not the last of its march year ends where the next one begins. -/
theorem daysInMonth_eq {date : Date} (h0 : 1 ≤ date.month) (h1 : date.month ≤ 12)
    (hne : date.month ≠ 2) : daysInMonth date.year date.month
      = daysBeforeMonth (date.marchMonth + 1) - daysBeforeMonth date.marchMonth := by
  rw [daysInMonth, marchMonth, daysBeforeMonth, daysBeforeMonth, if_neg hne]
  generalize date.month = month at *
  have hmonths : month = 1 ∨ month = 3 ∨ month = 4 ∨ month = 5 ∨ month = 6 ∨ month = 7
      ∨ month = 8 ∨ month = 9 ∨ month = 10 ∨ month = 11 ∨ month = 12 := by omega
  rcases hmonths with rfl | rfl | rfl | rfl | rfl | rfl | rfl | rfl | rfl | rfl | rfl <;> rfl

/-- And the last one, February, with its year. -/
theorem daysInMonth_february (year : Int) :
    daysInMonth year 2 = daysInMarchYear year - daysBeforeMonth 11 := by
  have hbefore : daysBeforeMonth 11 = 337 := by decide
  rw [daysInMonth, daysInMarchYear, if_pos rfl, hbefore]
  split <;> rfl

/-- The days of a march year before a date. -/
def dayOfMarchYear (date : Date) : Int := daysBeforeMonth date.marchMonth + (date.day - 1)

theorem toDays_eq (date : Date) :
    date.toDays = marchStart date.marchYear + date.dayOfMarchYear - epochShift := by
  rw [toDays, marchStart, dayOfMarchYear]
  omega

/-- A date of the calendar lies in its march year. -/
theorem dayOfMarchYear_lt {date : Date} (h : date.IsGregorian) :
    date.dayOfMarchYear < daysInMarchYear (date.marchYear + 1) := by
  obtain ⟨hm0, hm1, hd0, hd1⟩ := h
  have hshort : 365 ≤ daysInMarchYear (date.marchYear + 1) := by
    rw [daysInMarchYear]
    split <;> decide
  by_cases hfebruary : date.month = 2
  · have hyear : date.marchYear + 1 = date.year := by
      rw [marchYear, if_pos (by omega)]
      omega
    have hmonth : date.marchMonth = 11 := by
      rw [marchMonth, if_pos (by omega)]
      omega
    rw [hfebruary, daysInMonth_february] at hd1
    rw [dayOfMarchYear, hmonth, hyear]
    omega
  · rw [daysInMonth_eq hm0 hm1 hfebruary] at hd1
    have hlast : daysBeforeMonth (date.marchMonth + 1) ≤ 337 := by
      rw [daysBeforeMonth, marchMonth]
      split <;> omega
    rw [dayOfMarchYear]
    omega

/-! ## Order -/

/-- The order of dates is that of years which begin in March. -/
theorem Earlier.march {a b : Date} (h : a.Earlier b) (ha : 1 ≤ a.month ∧ a.month ≤ 12)
    (hb : 1 ≤ b.month ∧ b.month ≤ 12) :
    a.marchYear < b.marchYear ∨ (a.marchYear = b.marchYear
      ∧ (a.marchMonth < b.marchMonth ∨ (a.marchMonth = b.marchMonth ∧ a.day < b.day))) := by
  rw [Earlier] at h
  rw [marchYear, marchYear, marchMonth, marchMonth]
  split_ifs <;> omega

theorem earlier_trichotomy (a b : Date) : a.Earlier b ∨ a = b ∨ b.Earlier a := by
  rw [Earlier, Earlier, Date.mk.injEq]
  omega

/-- Dates of the calendar are counted in their order. -/
theorem Earlier.toDays_lt {a b : Date} (h : a.Earlier b) (ha : a.IsGregorian)
    (hb : b.IsGregorian) : a.toDays < b.toDays := by
  have hin := dayOfMarchYear_lt ha
  obtain ⟨ham0, ham1, had0, had1⟩ := ha
  obtain ⟨hbm0, hbm1, hbd0, -⟩ := hb
  have hbefore : 0 ≤ daysBeforeMonth b.marchMonth := by
    rw [daysBeforeMonth, marchMonth]
    split <;> omega
  rw [toDays_eq, toDays_eq]
  rcases h.march ⟨ham0, ham1⟩ ⟨hbm0, hbm1⟩ with hyear | ⟨hyear, hrest⟩
  · have hnext := marchStart_mono (show a.marchYear + 1 ≤ b.marchYear from hyear)
    rw [marchStart_succ] at hnext
    have hb : 0 ≤ b.dayOfMarchYear := by
      rw [dayOfMarchYear]
      omega
    omega
  · rw [hyear, dayOfMarchYear, dayOfMarchYear]
    rcases hrest with hmonth | ⟨hmonth, hday⟩
    · -- `a` is not in February then, and ends before the next month
      have hnot : a.month ≠ 2 := by
        intro hfebruary
        rw [marchMonth, marchMonth, hfebruary] at hmonth
        split_ifs at hmonth <;> omega
      rw [daysInMonth_eq ham0 ham1 hnot] at had1
      have hnext : daysBeforeMonth (a.marchMonth + 1) ≤ daysBeforeMonth b.marchMonth := by
        rw [daysBeforeMonth, daysBeforeMonth]
        omega
      omega
    · rw [hmonth]
      omega

/-! ## Valid dates -/

/-- A day lies in the march year that is found for it. -/
theorem dayOfEra_lt {dayOfEra : Int} (h0 : 0 ≤ dayOfEra) (h1 : dayOfEra < 146097) :
    dayOfEra - daysBeforeYear (yearOfEra dayOfEra)
      < daysInMarchYear (yearOfEra dayOfEra + 1) := by
  obtain ⟨hy0, hy1, -, -⟩ := yearOfEra_spec h0 h1
  by_cases hlast : yearOfEra dayOfEra = 399
  · have hbefore : daysBeforeYear 399 = 145731 := by decide
    have hleap : daysInMarchYear (399 + 1) = 366 := by decide
    rw [hlast, hbefore, hleap]
    omega
  · have hnext := lt_daysBeforeYear h0 h1 (by omega)
    have hsucc := marchStart_succ (yearOfEra dayOfEra)
    have hera : yearOfEra dayOfEra / 400 = 0 ∧ (yearOfEra dayOfEra + 1) / 400 = 0
        ∧ yearOfEra dayOfEra % 400 = yearOfEra dayOfEra
        ∧ (yearOfEra dayOfEra + 1) % 400 = yearOfEra dayOfEra + 1 := by omega
    rw [marchStart, marchStart, hera.1, hera.2.1, hera.2.2.1, hera.2.2.2] at hsucc
    omega

/-- Every day has a date of the calendar. -/
theorem isGregorian_ofDays (days : Int) : (ofDays days).IsGregorian := by
  have hday := Int.emod_nonneg (days + epochShift) (show (146097 : Int) ≠ 0 by decide)
  have hday' := Int.emod_lt_of_pos (days + epochShift) (show (0 : Int) < 146097 by decide)
  have hyear := dayOfEra_lt hday hday'
  obtain ⟨-, -, hd0, hd1⟩ := yearOfEra_spec hday hday'
  obtain ⟨hm0, hm1, hn0, hn1⟩ := monthOfYear_spec (sub_nonneg.mpr hd0) (sub_left_le_of_le_add hd1)
  rw [ofDays]
  generalize (days + epochShift) / 146097 = era at *
  generalize yearOfEra ((days + epochShift) % 146097) = year at *
  generalize (days + epochShift) % 146097 - daysBeforeYear year = dayOfYear at *
  generalize monthOfYear dayOfYear = month at *
  have hmonth := month_ofMarch hm0 hm1 (era * 400 + year) (dayOfYear - daysBeforeMonth month + 1)
  obtain ⟨hmarchYear, hmarch, hmarchDay⟩ :=
    march_ofMarch hm0 hm1 (era * 400 + year) (dayOfYear - daysBeforeMonth month + 1)
  refine ⟨hmonth.1, hmonth.2, by omega, ?_⟩
  by_cases hfebruary : month = 11
  · subst hfebruary
    show dayOfYear - daysBeforeMonth 11 + 1 ≤ daysInMonth (era * 400 + year + 1) 2
    rw [daysInMonth_february, daysInMarchYear, add_assoc]
    rw [daysInMarchYear] at hyear
    simp only [isLeapYear_add_era]
    omega
  · have hnot : (ofMarch (era * 400 + year) month (dayOfYear - daysBeforeMonth month + 1)).month
        ≠ 2 := by
      rw [ofMarch]
      split <;> dsimp only <;> omega
    rw [daysInMonth_eq hmonth.1 hmonth.2 hnot, hmarch, hmarchDay]
    omega

/-- **The names of days are the dates of the calendar.** -/
theorem isValid_iff (date : Date) : date.IsValid ↔ date.IsGregorian := by
  constructor
  · intro h
    rw [← h]
    exact isGregorian_ofDays date.toDays
  · intro h
    have hnamed := isGregorian_ofDays date.toDays
    have hsame := toDays_ofDays date.toDays
    -- two dates of the calendar with one day
    rcases earlier_trichotomy (ofDays date.toDays) date with hlt | heq | hlt
    · exact absurd hsame (hlt.toDays_lt hnamed h).ne
    · exact heq
    · exact absurd hsame (hlt.toDays_lt h hnamed).ne'

/-- **Days and dates are in one order.** -/
theorem toDays_lt_iff {a b : Date} (ha : a.IsGregorian) (hb : b.IsGregorian) :
    a.toDays < b.toDays ↔ a.Earlier b := by
  constructor
  · intro h
    rcases earlier_trichotomy a b with hlt | rfl | hlt
    · exact hlt
    · exact absurd h (lt_irrefl _)
    · exact absurd h (hlt.toDays_lt hb ha).asymm
  · intro h
    exact h.toDays_lt ha hb

end Date

/-! ## Dates as text -/

namespace Text

open Rfc3339

/-- Four, two and two digits joined by hyphens, and the date that they are. -/
def WritesDate (text : String) (date : Date) : Prop :=
  ∃ year month day : List Char, text.toList = year ++ '-' :: (month ++ '-' :: day)
    ∧ year.length = 4 ∧ month.length = 2 ∧ day.length = 2
    ∧ (∀ c ∈ year ++ month ++ day, isAsciiDigit c = true)
    ∧ date = ⟨digitsValue year, digitsValue month, digitsValue day⟩

/-- Digits behind a number shift it by their places. -/
theorem foldl_digits (cs : List Char) (hcs : ∀ c ∈ cs, isAsciiDigit c = true) (n : Nat) :
    ∃ rest < 10 ^ cs.length,
      cs.foldl (fun n c => 10 * n + (c.toNat - '0'.toNat)) n = n * 10 ^ cs.length + rest := by
  induction cs generalizing n with
  | nil => exact ⟨0, Nat.one_pos, by simp⟩
  | cons c cs ih =>
      obtain ⟨hlow, hhigh⟩ := toNat_of_isAsciiDigit (hcs c List.mem_cons_self)
      obtain ⟨rest, hrest, heq⟩ := ih (fun d hd => hcs d (List.mem_cons_of_mem c hd))
        (10 * n + (c.toNat - '0'.toNat))
      have hzero : '0'.toNat = 48 := rfl
      have hdigit : (c.toNat - '0'.toNat) * 10 ^ cs.length ≤ 9 * 10 ^ cs.length :=
        Nat.mul_le_mul_right _ (by omega)
      refine ⟨(c.toNat - '0'.toNat) * 10 ^ cs.length + rest, ?_, ?_⟩
      · rw [List.length_cons, Nat.pow_succ]
        omega
      · rw [List.foldl_cons, heq, List.length_cons, Nat.pow_succ]
        ring

theorem digitsValue_lt {cs : List Char} (hcs : ∀ c ∈ cs, isAsciiDigit c = true) :
    digitsValue cs < 10 ^ cs.length := by
  obtain ⟨rest, hrest, heq⟩ := foldl_digits cs hcs 0
  rw [Nat.zero_mul, Nat.zero_add] at heq
  rw [digitsValue, heq]
  exact hrest

/-- Digits are the digits of their value. -/
theorem digits_foldl (cs : List Char) (hcs : ∀ c ∈ cs, isAsciiDigit c = true) (n : Nat) :
    digits cs.length (cs.foldl (fun n c => 10 * n + (c.toNat - '0'.toNat)) n) = cs := by
  induction cs generalizing n with
  | nil => rfl
  | cons c cs ih =>
      have hrest : ∀ d ∈ cs, isAsciiDigit d = true :=
        fun d hd => hcs d (List.mem_cons_of_mem c hd)
      obtain ⟨hlow, hhigh⟩ := toNat_of_isAsciiDigit (hcs c List.mem_cons_self)
      obtain ⟨rest, hlt, heq⟩ := foldl_digits cs hrest (10 * n + (c.toNat - '0'.toNat))
      have hzero : '0'.toNat = 48 := rfl
      rw [List.foldl_cons, List.length_cons, digits, ih hrest, heq]
      congr 1
      rw [digitChar, Nat.mul_comm, Nat.mul_add_div (Nat.pow_pos (by decide)),
        Nat.div_eq_of_lt hlt, Nat.add_zero,
        show 48 + (10 * n + (c.toNat - '0'.toNat)) % 10 = c.toNat by omega, Char.ofNat_toNat]

theorem digits_digitsValue {cs : List Char} (hcs : ∀ c ∈ cs, isAsciiDigit c = true) :
    digits cs.length (digitsValue cs) = cs := digits_foldl cs hcs 0

/-- Such a text is the one that its date is written in. -/
theorem WritesDate.spec {text : String} {date : Date} (h : WritesDate text date) :
    text.toList = dateChars date ∧ (0 ≤ date.year ∧ date.year ≤ 9999)
      ∧ (0 ≤ date.month ∧ date.month < 100) ∧ 0 ≤ date.day ∧ date.day < 100 := by
  obtain ⟨year, month, day, htext, hyear, hmonth, hday, hdigits, rfl⟩ := h
  simp only [List.mem_append] at hdigits
  have hyears : ∀ c ∈ year, isAsciiDigit c = true := fun c hc => hdigits c (.inl (.inl hc))
  have hmonths : ∀ c ∈ month, isAsciiDigit c = true := fun c hc => hdigits c (.inl (.inr hc))
  have hdays : ∀ c ∈ day, isAsciiDigit c = true := fun c hc => hdigits c (.inr hc)
  have hy := digitsValue_lt hyears
  have hm := digitsValue_lt hmonths
  have hd := digitsValue_lt hdays
  have hwy := digits_digitsValue hyears
  have hwm := digits_digitsValue hmonths
  have hwd := digits_digitsValue hdays
  rw [hyear] at hy hwy
  rw [hmonth] at hm hwm
  rw [hday] at hd hwd
  have hrange : (0 : Int) ≤ digitsValue year ∧ (digitsValue year : Int) ≤ 9999 := by omega
  refine ⟨?_, hrange, by dsimp only; omega, by dsimp only; omega, by dsimp only; omega⟩
  rw [htext, dateChars, yearChars, if_pos hrange]
  simp only [Int.toNat_natCast, hwy, hwm, hwd]

/-- **Dates and their texts are in one order.** -/
theorem earlier_iff_lt {text text' : String} {date date' : Date} (h : WritesDate text date)
    (h' : WritesDate text' date') : date.Earlier date' ↔ text < text' := by
  have hlt : ∀ {text text' : String} {date date' : Date}, WritesDate text date →
      WritesDate text' date' → date.Earlier date' → text < text' := by
    intro text text' date date' h h' hearlier
    obtain ⟨htext, hyear, hmonth, hday⟩ := h.spec
    obtain ⟨htext', hyear', hmonth', hday'⟩ := h'.spec
    rw [String.lt_iff_toList_lt, htext, htext']
    exact dateChars_lt hyear hyear' ⟨hmonth.1, hmonth'⟩ ⟨hday.1, hday'⟩ hearlier
  refine ⟨hlt h h', fun hless => ?_⟩
  rcases Date.earlier_trichotomy date date' with hearlier | rfl | hlater
  · exact hearlier
  · have hsame : text = text' := String.toList_inj.mp (h.spec.1.trans h'.spec.1.symm)
    exact absurd hless (hsame ▸ lt_irrefl _)
  · exact absurd hless (hlt h' h hlater).asymm

end Text
end Lib
