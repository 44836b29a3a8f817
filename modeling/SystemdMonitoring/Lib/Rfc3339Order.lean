/-
# `SystemdMonitoring.Lib.Rfc3339Order` — timestamps that sort as text

Later days have later dates (`ofDays_earlier`), and numbers of one width are in
the order of their digits (`digits_lt`).  What is written of an instant is
numbers of fixed widths, the greater units first; so the texts of instants are
in the order of the instants, cut to milliseconds, as long as years have four
digits, and on any one day (`format_lt`).

A year of more digits has a sign, and signs sort before digits: such an instant
is written before all those that it is later than (`format_far_lt`).
-/
import Mathlib.Data.String.Basic
import SystemdMonitoring.Lib.Rfc3339

namespace Lib

/-! ## Days -/

namespace Date

/-- Year, then month, then day. -/
def Earlier (a b : Date) : Prop :=
  a.year < b.year ∨ (a.year = b.year ∧ (a.month < b.month ∨ (a.month = b.month ∧ a.day < b.day)))

/-- The order of years that begin in March is that of calendar years. -/
theorem ofMarch_earlier {year month day year' month' day' : Int} (h0 : 0 ≤ month)
    (h1 : month < 12) (h0' : 0 ≤ month') (h1' : month' < 12)
    (h : year < year' ∨ (year = year' ∧ (month < month' ∨ (month = month' ∧ day < day')))) :
    (ofMarch year month day).Earlier (ofMarch year' month' day') := by
  rw [ofMarch, ofMarch, Earlier]
  split <;> split <;> dsimp only <;> omega

/-- The year found for a day of an era does not end before it. -/
theorem lt_daysBeforeYear {dayOfEra : Int} (h0 : 0 ≤ dayOfEra) (h1 : dayOfEra < 146097)
    (hlast : yearOfEra dayOfEra < 399) : dayOfEra < daysBeforeYear (yearOfEra dayOfEra + 1) := by
  revert hlast
  simp only [yearOfEra, daysBeforeYear]
  generalize hcentury : min (dayOfEra / 36524) 3 = century
  generalize hday : dayOfEra - 36524 * century = dayOfCentury
  generalize holympiad : dayOfCentury / 1461 = olympiad
  generalize hyear : min ((dayOfCentury - 1461 * olympiad) / 365) 3 = year
  have hc : 0 ≤ century ∧ century ≤ 3 ∧ 36524 * century ≤ dayOfEra
      ∧ (century < 3 → dayOfCentury < 36524) ∧ dayOfCentury ≤ 36524 ∧ 0 ≤ dayOfCentury := by omega
  have ho : 0 ≤ olympiad ∧ olympiad ≤ 24 := by omega
  have hy : 0 ≤ year ∧ year ≤ 3
      ∧ (year < 3 → dayOfCentury - 1461 * olympiad < 365 * year + 365) := by omega
  intro hlast
  by_cases hleap : year = 3
  · -- the last year of four ends with them, the last of a century with the century
    subst hleap
    have hquarter : (100 * century + 4 * olympiad + 3 + 1) / 4 = 25 * century + olympiad + 1 := by
      omega
    by_cases hend : olympiad = 24
    · have hhundred : (100 * century + 4 * olympiad + 3 + 1) / 100 = century + 1 := by omega
      rw [hquarter, hhundred]
      omega
    · have hhundred : (100 * century + 4 * olympiad + 3 + 1) / 100 = century := by omega
      rw [hquarter, hhundred]
      omega
  · have hquarter : (100 * century + 4 * olympiad + year + 1) / 4 = 25 * century + olympiad := by
      omega
    have hhundred : (100 * century + 4 * olympiad + year + 1) / 100 = century := by omega
    rw [hquarter, hhundred]
    omega

theorem daysBeforeYear_mono {year year' : Int} (h : year ≤ year') :
    daysBeforeYear year ≤ daysBeforeYear year' := by
  rw [daysBeforeYear, daysBeforeYear]
  omega

theorem yearOfEra_mono {day day' : Int} (h0 : 0 ≤ day) (h : day ≤ day') (h1 : day' < 146097) :
    yearOfEra day ≤ yearOfEra day' := by
  by_contra hlt
  have hspec := yearOfEra_spec h0 (h.trans_lt h1)
  have hlast := lt_daysBeforeYear (h0.trans h) h1 (by omega)
  have hmono := daysBeforeYear_mono (show yearOfEra day' + 1 ≤ yearOfEra day by omega)
  omega

/-- **Later days have later dates.** -/
theorem ofDays_earlier {days days' : Int} (h : days < days') :
    (ofDays days).Earlier (ofDays days') := by
  have hday := Int.emod_nonneg (days + epochShift) (show (146097 : Int) ≠ 0 by decide)
  have hday' := Int.emod_lt_of_pos (days + epochShift) (show (0 : Int) < 146097 by decide)
  have hlater := Int.emod_nonneg (days' + epochShift) (show (146097 : Int) ≠ 0 by decide)
  have hlater' := Int.emod_lt_of_pos (days' + epochShift) (show (0 : Int) < 146097 by decide)
  obtain ⟨hy0, hy1, hd0, hd1⟩ := yearOfEra_spec hday hday'
  obtain ⟨hy0', hy1', hd0', hd1'⟩ := yearOfEra_spec hlater hlater'
  obtain ⟨hm0, hm1, -, -⟩ := monthOfYear_spec (sub_nonneg.mpr hd0) (sub_left_le_of_le_add hd1)
  obtain ⟨hm0', hm1', -, -⟩ := monthOfYear_spec (sub_nonneg.mpr hd0') (sub_left_le_of_le_add hd1')
  refine ofMarch_earlier hm0 hm1 hm0' hm1' ?_
  have hera : (days + epochShift) / 146097 ≤ (days' + epochShift) / 146097 := by omega
  rcases hera.lt_or_eq with hera | hera
  · left
    omega
  · have hofEra : (days + epochShift) % 146097 < (days' + epochShift) % 146097 := by omega
    generalize (days + epochShift) % 146097 = day at *
    generalize (days' + epochShift) % 146097 = day' at *
    rcases (yearOfEra_mono hday hofEra.le hlater').lt_or_eq with hyear | hyear
    · left
      omega
    · right
      rw [hera, hyear]
      refine ⟨rfl, ?_⟩
      have hmonth : monthOfYear (day - daysBeforeYear (yearOfEra day'))
          ≤ monthOfYear (day' - daysBeforeYear (yearOfEra day')) := by
        rw [monthOfYear, monthOfYear]
        omega
      rcases hmonth.lt_or_eq with hmonth | hmonth
      · exact .inl hmonth
      · right
        rw [hmonth]
        exact ⟨rfl, by omega⟩

end Date

/-! ## Text -/

namespace Rfc3339

theorem append_lt_append {xs ys xs' ys' : List Char} (hlength : xs.length = ys.length)
    (h : xs < ys ∨ (xs = ys ∧ xs' < ys')) : xs ++ xs' < ys ++ ys' := by
  rcases h with h | ⟨rfl, h⟩
  · induction xs generalizing ys with
    | nil =>
        obtain rfl := List.length_eq_zero_iff.mp hlength.symm
        exact absurd h (lt_irrefl _)
    | cons x xs ih =>
        cases ys with
        | nil => cases hlength
        | cons y ys =>
            refine List.cons_lt_cons_iff.mpr ((List.cons_lt_cons_iff.mp h).imp_right ?_)
            rintro ⟨heq, hrest⟩
            exact ⟨heq, ih (Nat.succ.inj hlength) hrest⟩
  · exact List.append_left_lt h

@[simp] theorem length_digits (width n : Nat) : (digits width n).length = width := by
  induction width with
  | zero => rfl
  | succ width ih => rw [digits, List.length_cons, ih]

theorem digitChar_lt {m n : Nat} (h : m % 10 < n % 10) : digitChar m < digitChar n := by
  have hdigits : ∀ l < 10, ∀ k < l, Char.ofNat (48 + k) < Char.ofNat (48 + l) := by decide
  exact hdigits (n % 10) (Nat.mod_lt n (by decide)) (m % 10) h

/-- Numbers of one width are in the order of their digits. -/
theorem digits_mod_lt {width m n : Nat} (h : m % 10 ^ width < n % 10 ^ width) :
    digits width m < digits width n := by
  induction width with
  | zero =>
      rw [Nat.pow_zero, Nat.mod_one, Nat.mod_one] at h
      exact absurd h (lt_irrefl 0)
  | succ width ih =>
      rw [Nat.mod_pow_succ, Nat.mod_pow_succ] at h
      rw [digits, digits, List.cons_lt_cons_iff]
      have hm := Nat.mod_lt m (Nat.pow_pos (n := width) (show 0 < 10 by decide))
      have hn := Nat.mod_lt n (Nat.pow_pos (n := width) (show 0 < 10 by decide))
      rcases lt_trichotomy (m / 10 ^ width % 10) (n / 10 ^ width % 10) with hlt | heq | hgt
      · exact .inl (digitChar_lt hlt)
      · right
        rw [heq] at h
        refine ⟨?_, ih (by omega)⟩
        rw [digitChar, digitChar, heq]
      · have hle := Nat.mul_le_mul_left (10 ^ width) hgt
        rw [Nat.mul_succ] at hle
        omega

theorem digits_lt {width m n : Nat} (h : m < n) (hn : n < 10 ^ width) :
    digits width m < digits width n := by
  refine digits_mod_lt ?_
  rwa [Nat.mod_eq_of_lt (h.trans hn), Nat.mod_eq_of_lt hn]

/-- A number and what follows it behind a separator. -/
theorem digits_cons_lt {width m n : Nat} (hn : n < 10 ^ width) {c : Char} {xs ys : List Char}
    (h : m < n ∨ (m = n ∧ xs < ys)) : digits width m ++ c :: xs < digits width n ++ c :: ys := by
  refine append_lt_append (by simp) ?_
  rcases h with hlt | ⟨rfl, hrest⟩
  · exact .inl (digits_lt hlt hn)
  · exact .inr ⟨rfl, List.cons_lt_cons_iff.mpr (.inr ⟨rfl, hrest⟩)⟩

theorem dateChars_lt {a b : Date} (ha : 0 ≤ a.year ∧ a.year ≤ 9999)
    (hb : 0 ≤ b.year ∧ b.year ≤ 9999) (hmonth : 0 ≤ a.month ∧ 0 ≤ b.month ∧ b.month < 100)
    (hday : 0 ≤ a.day ∧ 0 ≤ b.day ∧ b.day < 100) (h : a.Earlier b) :
    dateChars a < dateChars b := by
  rw [Date.Earlier] at h
  rw [dateChars, dateChars, yearChars, yearChars, if_pos ha, if_pos hb]
  refine digits_cons_lt (by omega) ?_
  rcases h with hyear | ⟨hyear, hrest⟩
  · exact .inl (by omega)
  · right
    refine ⟨by rw [hyear], digits_cons_lt (by omega) ?_⟩
    rcases hrest with hmonths | ⟨hmonths, hdays⟩
    · exact .inl (by omega)
    · exact .inr ⟨by rw [hmonths], digits_lt (by omega) (by omega)⟩

theorem length_dateChars {a : Date} (ha : 0 ≤ a.year ∧ a.year ≤ 9999) :
    (dateChars a).length = 10 := by
  rw [dateChars, yearChars, if_pos ha]
  simp

/-- Times of a day outside leap seconds. -/
theorem timeChars_lt {time millis time' millis' : Nat} (htime : time' < 86400)
    (hmillis : millis' < 1000) (h : time < time' ∨ (time = time' ∧ millis < millis')) :
    timeChars time (time % 60) millis < timeChars time' (time' % 60) millis' := by
  rw [timeChars, timeChars]
  refine digits_cons_lt (by omega) ?_
  rcases Nat.lt_trichotomy (time / 3600) (time' / 3600) with hhour | hhour | hhour
  · exact .inl hhour
  · refine .inr ⟨hhour, digits_cons_lt (by omega) ?_⟩
    rcases Nat.lt_trichotomy (time / 60 % 60) (time' / 60 % 60) with hminute | hminute | hminute
    · exact .inl hminute
    · refine .inr ⟨hminute, digits_cons_lt (by omega) ?_⟩
      rcases h with htimes | ⟨rfl, hmilli⟩
      · exact .inl (by omega)
      · exact .inr ⟨rfl, digits_lt hmilli (by omega)⟩
    · omega
  · omega

theorem length_timeChars (time sec millis : Nat) : (timeChars time sec millis).length = 12 := by
  rw [timeChars]
  simp

theorem format_lt_iff {d e : DateTime} : format d < format e ↔ formatChars d < formatChars e := by
  rw [String.lt_iff_toList_lt, format, format, String.toList_ofList, String.toList_ofList]

/-- **Instants are written in their order**, in whole milliseconds, when their years have four
digits or they are of one day. -/
theorem format_lt {d e : DateTime} (hd : d.isLeap = false) (he : e.isLeap = false)
    (hrange : d.secs / 86400 = e.secs / 86400 ∨ (d.InYears ∧ e.InYears))
    (h : d.truncMillis < e.truncMillis) : format d < format e := by
  have hfrac : d.frac < 1000000000 := not_le.mp (of_decide_eq_false hd)
  have hfrac' : e.frac < 1000000000 := not_le.mp (of_decide_eq_false he)
  have hless : d.secs < e.secs ∨ (d.secs = e.secs ∧ d.frac / 1000000 < e.frac / 1000000) := by
    refine (DateTime.lt_iff.mp h).imp_right (And.imp_right ?_)
    show d.frac / 1000000 * 1000000 < e.frac / 1000000 * 1000000 → _
    omega
  rw [format_lt_iff, formatChars, formatChars, Nat.div_eq_of_lt hfrac, Nat.div_eq_of_lt hfrac',
    Nat.mod_eq_of_lt hfrac, Nat.mod_eq_of_lt hfrac', Nat.add_zero, Nat.add_zero]
  by_cases hsame : d.secs / 86400 = e.secs / 86400
  · rw [hsame]
    refine append_lt_append rfl (.inr ⟨rfl, List.cons_lt_cons_iff.mpr (.inr ⟨rfl, ?_⟩)⟩)
    refine append_lt_append ?_ (.inl (timeChars_lt ?_ ?_ ?_))
    · rw [length_timeChars, length_timeChars]
    · omega
    · omega
    · omega
  · obtain ⟨hyears, hyears'⟩ := hrange.resolve_left hsame
    have hyear := (Date.year_ofDays_mem _).mp hyears
    have hyear' := (Date.year_ofDays_mem _).mp hyears'
    obtain ⟨hm0, hm1, hd0, hd1⟩ := Date.ofDays_mem (d.secs / 86400)
    obtain ⟨hm0', hm1', hd0', hd1'⟩ := Date.ofDays_mem (e.secs / 86400)
    have hearlier := Date.ofDays_earlier (show d.secs / 86400 < e.secs / 86400 by omega)
    refine append_lt_append ?_ (.inl (dateChars_lt hyear hyear' (by omega) (by omega) hearlier))
    rw [length_dateChars hyear, length_dateChars hyear']

/-- **Other years are written before**: their sign sorts before every digit. -/
theorem format_far_lt {d e : DateTime} (hd : d.InYears) (he : ¬ e.InYears) :
    format e < format d := by
  have hyear := (Date.year_ofDays_mem _).mp hd
  have hyear' : ¬ (0 ≤ (Date.ofDays (e.secs / 86400)).year
      ∧ (Date.ofDays (e.secs / 86400)).year ≤ 9999) :=
    fun hin => he ((Date.year_ofDays_mem _).mpr hin)
  have hsign : ∀ n, '-' < digitChar n ∧ '+' < digitChar n := by
    intro n
    have hn : n % 10 < 10 := Nat.mod_lt n (by decide)
    rw [digitChar]
    generalize n % 10 = k at hn
    revert k
    decide
  rw [format_lt_iff, formatChars, formatChars, dateChars, dateChars, yearChars, yearChars,
    if_pos hyear, if_neg hyear', digits]
  refine List.cons_lt_cons_iff.mpr (.inl ?_)
  split
  · exact (hsign _).1
  · exact (hsign _).2

end Rfc3339

/-! ## Microseconds -/

/-- The start of the year 10000, in microseconds. -/
def year10000 : Nat := 253402300800000000

theorem inYears_ofMicros_iff (micros : Nat) :
    (DateTime.ofNanos ((micros : Int) * 1000)).InYears ↔ micros < year10000 := by
  simp only [DateTime.InYears, DateTime.ofNanos, DateTime.secondNanos, year10000]
  omega

/-! ## Libraries that write and read so -/

/-- A writer of RFC 3339, character by character: UTC, three decimals, `Z`, and a sign where the
year has not four digits. -/
class WritesRfc3339 [Chrono] : Prop where
  toRfc3339Millis_eq : ∀ d : DateTime, Chrono.toRfc3339Millis d = Rfc3339.format d

/-- A reader, moreover, that reads what is written so as the grammar says. -/
class ReadsRfc3339 [Chrono] : Prop extends WritesRfc3339 where
  parse_format_eq : ∀ d : DateTime,
    Chrono.parseFromRfc3339 (Rfc3339.format d) = Rfc3339.parse (Rfc3339.format d)

theorem writes_rfc3339 : @WritesRfc3339 rfc3339 := @WritesRfc3339.mk rfc3339 fun _ => rfl

theorem reads_rfc3339 : @ReadsRfc3339 rfc3339 :=
  @ReadsRfc3339.mk rfc3339 writes_rfc3339 fun _ => rfl

end Lib
