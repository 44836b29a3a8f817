/-
# `SystemdMonitoring.Lib.DateRange` — where instants end

A timestamp library represents the instants of a range of years, and its `+`
and `-` abort on anything else.  `checkedAdd` and `checkedSub` are those
operations with the abort as `none`.

A difference of two instants of the range is always one of the differences that
can be represented (`checkedSub_eq`).  A sum is an instant of the range when
the instant is of the years 0 to 9999, give or take a day, and the difference of
no more than a thousand days (`checkedAdd_eq`).  Those are the years that are
read from RFC 3339 at any offset (`ReadsNearYears`).
-/
import SystemdMonitoring.Lib.Rfc3339

namespace Lib

namespace DateTime

/-! ## The range -/

/-- An instant that can be represented. -/
def InRange (d : DateTime) : Prop := minSecs ≤ d.secs ∧ d.secs ≤ maxSecs

instance (d : DateTime) : Decidable d.InRange := inferInstanceAs (Decidable (_ ∧ _))

/-- The greatest difference, of so many milliseconds as there are in 63 bits. -/
def maxDelta : Int := (2 ^ 63 - 1) * 1000000

/-- The years 0 to 9999, and a day on either side. -/
def NearYears (d : DateTime) : Prop := -719529 ≤ d.secs / 86400 ∧ d.secs / 86400 < 2932898

theorem NearYears.inRange {d : DateTime} (h : d.NearYears) : d.InRange := by
  rw [NearYears] at h
  rw [InRange, minSecs, maxSecs]
  omega

/-! ## Checked arithmetic -/

/-- `d + delta`, if that can be represented. -/
def checkedAdd (d : DateTime) (delta : Int) : Option DateTime :=
  if (d.addDelta delta).InRange then some (d.addDelta delta) else none

/-- `a - b`, if that can be represented. -/
def checkedSub (a b : DateTime) : Option Int :=
  if -maxDelta ≤ a.sub b ∧ a.sub b ≤ maxDelta then some (a.sub b) else none

/-- A sum is where it is on the line, or a second before for a leap second that is left. -/
theorem nanos_addDelta (d : DateTime) (delta : Int) :
    d.nanos + delta - secondNanos ≤ (d.addDelta delta).nanos
      ∧ (d.addDelta delta).nanos ≤ d.nanos + delta := by
  have hsecond : 0 ≤ secondNanos := by decide
  rw [addDelta]
  split
  · split
    · rw [nanos_ofNanos]
      omega
    · split
      case isTrue h =>
        have hleap : 1000000000 ≤ d.frac := of_decide_eq_true ‹_›
        simp only [nanos, secondNanos] at h ⊢
        omega
      case isFalse =>
        rw [nanos_ofNanos]
        omega
  · rw [nanos_ofNanos]
    omega

theorem inRange_of_nanos {d : DateTime} (hmin : (minSecs + 1) * secondNanos ≤ d.nanos)
    (hmax : d.nanos < (maxSecs + 1) * secondNanos) : d.InRange := by
  have hfrac := d.frac_lt
  simp only [nanos, secondNanos] at hmin hmax
  rw [InRange]
  omega

/-- **Sums near the years that are written with four digits** can be represented. -/
theorem checkedAdd_eq {d : DateTime} (h : d.NearYears) {delta : Int}
    (hdelta : -(1000 * dayNanos) ≤ delta ∧ delta ≤ 1000 * dayNanos) :
    d.checkedAdd delta = some (d.addDelta delta) := by
  have hfrac := d.frac_lt
  have hsum := nanos_addDelta d delta
  rw [NearYears] at h
  refine if_pos (inRange_of_nanos ?_ ?_)
  · simp only [nanos, secondNanos, dayNanos, minSecs] at *
    omega
  · simp only [nanos, secondNanos, dayNanos, maxSecs] at *
    omega

-- at the ends of the range there is no such room
example : (ofSecs maxSecs).checkedAdd secondNanos = none := by decide
example : (ofSecs minSecs).checkedAdd (-secondNanos) = none := by decide

/-- **Differences within the range** can be represented. -/
theorem checkedSub_eq {a b : DateTime} (ha : a.InRange) (hb : b.InRange) :
    a.checkedSub b = some (a.sub b) := by
  have hfrac := a.frac_lt
  have hfrac' := b.frac_lt
  rw [InRange, minSecs, maxSecs] at ha hb
  have hline : -(10 ^ 14) * secondNanos ≤ a.nanos - b.nanos
      ∧ a.nanos - b.nanos ≤ 10 ^ 14 * secondNanos := by
    simp only [nanos, secondNanos]
    omega
  refine if_pos ?_
  rw [sub, maxDelta]
  simp only [secondNanos] at *
  split_ifs <;> omega

end DateTime

/-! ## What is read -/

/-- A reader that answers with instants of the years 0 to 9999, as they are at the offset that is
written with them. -/
class ReadsNearYears [Chrono] : Prop where
  nearYears_of_parse : ∀ {s : String} {d : DateTime} {offset : Int},
    Chrono.parseFromRfc3339 s = some (d, offset) → d.NearYears

theorem Rfc3339.nearYears_of_parse {s : String} {d : DateTime} {offset : Int}
    (h : parse s = some (d, offset)) : d.NearYears := by
  obtain ⟨day, minute, ahead, hday, hminute, hahead, -, hsecs⟩ := minute_of_parse h
  rw [DateTime.NearYears]
  omega

theorem readsNearYears_rfc3339 : @ReadsNearYears rfc3339 :=
  @ReadsNearYears.mk rfc3339 Rfc3339.nearYears_of_parse

end Lib
