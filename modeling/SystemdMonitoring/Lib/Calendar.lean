/-
# `SystemdMonitoring.Lib.Calendar` — days and their Gregorian dates

Days are counted from 1970-01-01.  Both directions work in years that begin in
March, so that the leap day is the last of its year, and in eras of 400 years.
A date is valid when it is the name of a day (`Date.IsValid`), which needs no
table of month lengths; that every day has a name which names it
(`toDays_ofDays`) then gives the rest.
-/
import Mathlib.Data.Int.Notation
import Mathlib.Tactic.Ring

namespace Lib

/-- A date of the proleptic Gregorian calendar. -/
structure Date where
  year : Int
  month : Int
  day : Int
  deriving DecidableEq, Repr

namespace Date

/-! ## Years that begin in March -/

/-- The date of a day in a month of a year, March being month 0. -/
def ofMarch (year month day : Int) : Date :=
  if month < 10 then ⟨year, month + 3, day⟩ else ⟨year + 1, month - 9, day⟩

def marchYear (date : Date) : Int := if date.month ≤ 2 then date.year - 1 else date.year

def marchMonth (date : Date) : Int := if date.month ≤ 2 then date.month + 9 else date.month - 3

theorem march_ofMarch {month : Int} (h0 : 0 ≤ month) (h1 : month < 12) (year day : Int) :
    (ofMarch year month day).marchYear = year ∧ (ofMarch year month day).marchMonth = month
      ∧ (ofMarch year month day).day = day := by
  by_cases h : month < 10
  · have hlate : ¬ month + 3 ≤ 2 := by omega
    simp [ofMarch, marchYear, marchMonth, h, hlate]
  · have hearly : month - 9 ≤ 2 := by omega
    simp [ofMarch, marchYear, marchMonth, h, hearly]

theorem month_ofMarch {month : Int} (h0 : 0 ≤ month) (h1 : month < 12) (year day : Int) :
    1 ≤ (ofMarch year month day).month ∧ (ofMarch year month day).month ≤ 12 := by
  by_cases h : month < 10 <;> simp only [ofMarch, h, if_true, if_false] <;> omega

/-! ## Days -/

/-- Days from the first of March of year 0 to 1970-01-01. -/
def epochShift : Int := 719468

/-- Days in the years of an era before the given one. -/
def daysBeforeYear (year : Int) : Int := 365 * year + year / 4 - year / 100

/-- Days in the months of a year before the given one. -/
def daysBeforeMonth (month : Int) : Int := (153 * month + 2) / 5

def toDays (date : Date) : Int :=
  date.marchYear / 400 * 146097 + daysBeforeYear (date.marchYear % 400)
    + daysBeforeMonth date.marchMonth + (date.day - 1) - epochShift

/-- The year of an era that a day of it lies in: by century, by four years, by year. -/
def yearOfEra (dayOfEra : Int) : Int :=
  let century := min (dayOfEra / 36524) 3
  let dayOfCentury := dayOfEra - 36524 * century
  let olympiad := dayOfCentury / 1461
  let dayOfOlympiad := dayOfCentury - 1461 * olympiad
  100 * century + 4 * olympiad + min (dayOfOlympiad / 365) 3

/-- The month of a year that a day of it lies in. -/
def monthOfYear (dayOfYear : Int) : Int := (5 * dayOfYear + 2) / 153

def ofDays (days : Int) : Date :=
  let era := (days + epochShift) / 146097
  let dayOfEra := (days + epochShift) % 146097
  let year := yearOfEra dayOfEra
  let dayOfYear := dayOfEra - daysBeforeYear year
  let month := monthOfYear dayOfYear
  ofMarch (era * 400 + year) month (dayOfYear - daysBeforeMonth month + 1)

/-- The date is the name of a day. -/
def IsValid (date : Date) : Prop := ofDays date.toDays = date

instance (date : Date) : Decidable date.IsValid := inferInstanceAs (Decidable (_ = _))

/-! ## Every day is named -/

/-- The year found for a day of an era contains it. -/
theorem yearOfEra_spec {dayOfEra : Int} (h0 : 0 ≤ dayOfEra) (h1 : dayOfEra < 146097) :
    0 ≤ yearOfEra dayOfEra ∧ yearOfEra dayOfEra < 400
      ∧ daysBeforeYear (yearOfEra dayOfEra) ≤ dayOfEra
      ∧ dayOfEra ≤ daysBeforeYear (yearOfEra dayOfEra) + 365 := by
  simp only [yearOfEra, daysBeforeYear]
  generalize hcentury : min (dayOfEra / 36524) 3 = century
  have hc : 0 ≤ century ∧ century ≤ 3 ∧ 36524 * century ≤ dayOfEra
      ∧ dayOfEra - 36524 * century ≤ 36524 := by omega
  generalize hday : dayOfEra - 36524 * century = dayOfCentury at *
  generalize holympiad : dayOfCentury / 1461 = olympiad
  have ho : 0 ≤ olympiad ∧ olympiad ≤ 24 := by omega
  generalize hyear : min ((dayOfCentury - 1461 * olympiad) / 365) 3 = year
  have hy : 0 ≤ year ∧ year ≤ 3 ∧ 365 * year ≤ dayOfCentury - 1461 * olympiad
      ∧ dayOfCentury - 1461 * olympiad ≤ 365 * year + 365 := by omega
  have hquarter : (100 * century + 4 * olympiad + year) / 4 = 25 * century + olympiad := by omega
  have hhundred : (100 * century + 4 * olympiad + year) / 100 = century := by omega
  rw [hquarter, hhundred]
  omega

/-- The month found for a day of a year contains it. -/
theorem monthOfYear_spec {dayOfYear : Int} (h0 : 0 ≤ dayOfYear) (h1 : dayOfYear ≤ 365) :
    0 ≤ monthOfYear dayOfYear ∧ monthOfYear dayOfYear < 12
      ∧ daysBeforeMonth (monthOfYear dayOfYear) ≤ dayOfYear
      ∧ dayOfYear < daysBeforeMonth (monthOfYear dayOfYear + 1) := by
  unfold monthOfYear daysBeforeMonth
  omega

/-- The parts of a day's date: its march year and month, and its day in range. -/
theorem ofDays_spec (days : Int) : ∃ year month day : Int,
    ofDays days = ofMarch year month day ∧ 0 ≤ month ∧ month < 12 ∧ 1 ≤ day
      ∧ day ≤ daysBeforeMonth (month + 1) - daysBeforeMonth month
      ∧ days = year / 400 * 146097 + daysBeforeYear (year % 400) + daysBeforeMonth month
          + (day - 1) - epochShift := by
  have hday := Int.emod_nonneg (days + epochShift) (show (146097 : Int) ≠ 0 by decide)
  have hday' := Int.emod_lt_of_pos (days + epochShift) (show (0 : Int) < 146097 by decide)
  obtain ⟨hy0, hy1, hd0, hd1⟩ := yearOfEra_spec hday hday'
  have hdayOfYear : 0 ≤ (days + epochShift) % 146097
      - daysBeforeYear (yearOfEra ((days + epochShift) % 146097)) := by omega
  obtain ⟨hm0, hm1, hn0, hn1⟩ := monthOfYear_spec hdayOfYear (by omega)
  refine ⟨_, _, _, rfl, hm0, hm1, by omega, by omega, ?_⟩
  have hera : ((days + epochShift) / 146097 * 400
      + yearOfEra ((days + epochShift) % 146097)) / 400 = (days + epochShift) / 146097 := by omega
  have hyear : ((days + epochShift) / 146097 * 400
      + yearOfEra ((days + epochShift) % 146097)) % 400
        = yearOfEra ((days + epochShift) % 146097) := by omega
  rw [hera, hyear]
  have hsplit := Int.emod_add_mul_ediv (days + epochShift) 146097
  omega

/-- **Every day is named by its date.** -/
theorem toDays_ofDays (days : Int) : (ofDays days).toDays = days := by
  obtain ⟨year, month, day, heq, hm0, hm1, -, -, hdays⟩ := ofDays_spec days
  obtain ⟨hyear, hmonth, hday⟩ := march_ofMarch hm0 hm1 year day
  rw [heq, toDays, hyear, hmonth, hday]
  exact hdays.symm

theorem isValid_ofDays (days : Int) : (ofDays days).IsValid := by
  rw [IsValid, toDays_ofDays]

theorem ofDays_mem (days : Int) :
    1 ≤ (ofDays days).month ∧ (ofDays days).month ≤ 12
      ∧ 1 ≤ (ofDays days).day ∧ (ofDays days).day ≤ 31 := by
  obtain ⟨year, month, day, heq, hm0, hm1, hd0, hd1, -⟩ := ofDays_spec days
  obtain ⟨-, -, hday⟩ := march_ofMarch hm0 hm1 year day
  obtain ⟨hlo, hhi⟩ := month_ofMarch hm0 hm1 year day
  rw [heq, hday]
  unfold daysBeforeMonth at hd1
  exact ⟨hlo, hhi, hd0, by omega⟩

/-- Where the days of a year lie, from the year alone. -/
theorem daysBeforeYear_mem {year : Int} (h0 : 0 ≤ year) (h1 : year < 400) :
    365 * year ≤ daysBeforeYear year ∧ daysBeforeYear year ≤ 365 * year + 96 := by
  rw [daysBeforeYear]
  omega

/-- The days of the years 0 to 9999 are the days whose year has four digits. -/
theorem year_ofDays_mem (days : Int) :
    (-719528 ≤ days ∧ days < 2932897) ↔ 0 ≤ (ofDays days).year ∧ (ofDays days).year ≤ 9999 := by
  obtain ⟨year, month, day, heq, hm0, hm1, hd0, hd1, hdays⟩ := ofDays_spec days
  obtain ⟨hy0, hy1⟩ := daysBeforeYear_mem (show 0 ≤ year % 400 by omega) (by omega)
  have hlast : daysBeforeYear 399 = 145731 := by decide
  have hbefore : year % 400 = 399 → daysBeforeYear (year % 400) = 145731 := by
    intro h
    rw [h, hlast]
  -- January and February are the days from 306 on
  have hdayOfYear : 0 ≤ daysBeforeMonth month + (day - 1)
      ∧ daysBeforeMonth month + (day - 1) ≤ 366
      ∧ (month < 10 → daysBeforeMonth month + (day - 1) ≤ 305)
      ∧ (¬ month < 10 → 306 ≤ daysBeforeMonth month + (day - 1)) := by
    unfold daysBeforeMonth at *
    omega
  have hsum : days = year / 400 * 146097 + daysBeforeYear (year % 400)
      + (daysBeforeMonth month + (day - 1)) - epochShift := by
    rw [hdays]
    ring
  generalize daysBeforeMonth month + (day - 1) = dayOfYear at *
  generalize daysBeforeYear (year % 400) = before at *
  rw [epochShift] at hsum
  clear hd0 hd1 hdays
  -- the first year and the last one are told apart by their era
  have hera : (year ≤ -2 ∨ year = -1 ∨ 0 ≤ year)
      ∧ (year ≤ -1 → year / 400 ≤ -1) ∧ (0 ≤ year → 0 ≤ year / 400)
      ∧ (year ≤ 9999 → year / 400 ≤ 24) ∧ (9999 ≤ year → 24 ≤ year / 400)
      ∧ (10000 ≤ year → 25 ≤ year / 400) := by omega
  rw [heq, ofMarch]
  by_cases h : month < 10
  · rw [if_pos h]
    show _ ↔ 0 ≤ year ∧ year ≤ 9999
    constructor <;> intro hrange <;> omega
  · rw [if_neg h]
    show _ ↔ 0 ≤ year + 1 ∧ year + 1 ≤ 9999
    constructor <;> intro hrange <;> omega

end Date
end Lib
