/-
# `SystemdMonitoring.Lib.DateTime` — UTC instants with leap seconds

An instant is a second since 1970 and a fraction of it in nanoseconds.  The
fraction goes past one second only in the last second of a minute, where it
writes a leap second: `hh:mm:60.5` is second 59 with a fraction of 1.5 s.  Order
is by second and then by fraction.

Arithmetic knows of no leap second but the one it is given.  A difference counts
the leap second of an operand when the other operand's time of day lies on its
far side; an addition leaves the leap second it starts in, towards the next
minute when it goes back and towards second 59 when it goes on.

`nanos` places an instant on one line, where a leap second lies on top of the
second after it.  Away from leap seconds all of the above is arithmetic on that
line (`nanos_ofNanos`, `addDelta_back`).
-/
import Mathlib.Data.Prod.Lex
import Mathlib.Order.Basic

namespace Lib

/-- An instant: seconds since 1970 and nanoseconds, a leap second in the latter. -/
structure DateTime where
  secs : Int
  frac : Nat
  frac_lt : frac < 2000000000
  leap_at_59 : 1000000000 ≤ frac → secs % 60 = 59
  deriving DecidableEq, Repr

namespace DateTime

/-- An instant on a whole second. -/
def ofSecs (secs : Int) : DateTime where
  secs := secs
  frac := 0
  frac_lt := Nat.zero_lt_succ _
  leap_at_59 := fun h => absurd h (Nat.not_succ_le_zero _)

/-- Nanoseconds in a second, a day. -/
def secondNanos : Int := 1000000000
def dayNanos : Int := 86400 * secondNanos

/-! ## Order -/

theorem key_injective :
    Function.Injective (fun d : DateTime => toLex (d.secs, d.frac)) := by
  intro a b h
  cases a
  cases b
  simp only [EmbeddingLike.apply_eq_iff_eq, Prod.mk.injEq] at h
  simp only [h.1, h.2]

instance : LinearOrder DateTime :=
  LinearOrder.lift' (fun d => toLex (d.secs, d.frac)) key_injective

theorem lt_iff {a b : DateTime} :
    a < b ↔ a.secs < b.secs ∨ (a.secs = b.secs ∧ a.frac < b.frac) :=
  Prod.Lex.toLex_lt_toLex

/-! ## The line -/

/-- Nanoseconds since 1970. -/
def nanos (d : DateTime) : Int := d.secs * secondNanos + d.frac

def isLeap (d : DateTime) : Bool := decide (1000000000 ≤ d.frac)

/-- Seconds since midnight. -/
def timeOfDay (d : DateTime) : Int := d.secs % 86400

/-- The instant at a place on the line that is in no leap second. -/
def ofNanos (n : Int) : DateTime where
  secs := n / secondNanos
  frac := (n % secondNanos).toNat
  frac_lt := by unfold secondNanos; omega
  leap_at_59 := by unfold secondNanos; omega

@[simp] theorem nanos_ofNanos (n : Int) : (ofNanos n).nanos = n := by
  simp only [nanos, ofNanos, secondNanos]
  omega

@[simp] theorem isLeap_ofNanos (n : Int) : (ofNanos n).isLeap = false := by
  rw [isLeap, decide_eq_false_iff_not]
  simp only [ofNanos, secondNanos]
  omega

/-- Outside leap seconds the order is that of the line. -/
theorem ofNanos_mono {m n : Int} (h : m ≤ n) : ofNanos m ≤ ofNanos n := by
  rw [← not_lt, lt_iff]
  simp only [ofNanos, secondNanos]
  omega

/-- A second or more earlier on the line is earlier, in a leap second or not. -/
theorem lt_of_nanos_add_le {a b : DateTime} (h : a.nanos + secondNanos ≤ b.nanos) : a < b := by
  rw [lt_iff]
  have hb := b.frac_lt
  simp only [nanos, secondNanos] at h
  omega

/-! ## Arithmetic -/

/-- `a - b` in nanoseconds, the leap second of one counted when the other is past it. -/
def sub (a b : DateTime) : Int :=
  a.nanos - b.nanos
    + (if b.timeOfDay < a.timeOfDay ∧ b.isLeap = true then secondNanos
       else if a.timeOfDay < b.timeOfDay ∧ a.isLeap = true then -secondNanos
       else 0)

/-- `d + delta`, which leaves a leap second unless it stays within it. -/
def addDelta (d : DateTime) (delta : Int) : DateTime :=
  if hleap : d.isLeap = true then
    if secondNanos ≤ delta ∨ 2 * secondNanos ≤ d.frac + delta then
      ofNanos (d.nanos - secondNanos + delta)
    else if h : -secondNanos < delta ∧ d.frac + delta < 2 * secondNanos then
      { secs := d.secs
        frac := (d.frac + delta).toNat
        frac_lt := by unfold secondNanos at h; omega
        leap_at_59 := fun _ => d.leap_at_59 (of_decide_eq_true hleap) }
    else ofNanos (d.nanos + delta)
  else ofNanos (d.nanos + delta)

/-- Going back a second or more is going back on the line. -/
theorem addDelta_back (d : DateTime) {delta : Int} (h : delta ≤ -secondNanos) :
    d.addDelta delta = ofNanos (d.nanos + delta) := by
  have hlt := d.frac_lt
  rw [addDelta]
  split
  · rw [if_neg (by unfold secondNanos at h ⊢; omega), dif_neg (by omega)]
  · rfl

/-! ## Coarser readings -/

/-- Whole microseconds since 1970. -/
def timestampMicros (d : DateTime) : Int := d.nanos / 1000

/-- The first and the last second that an instant of the source can be in. -/
def minSecs : Int := -8334601228800
def maxSecs : Int := 8210266876799

def fromTimestampMicros (micros : Int) : Option DateTime :=
  if minSecs ≤ micros / 1000000 ∧ micros / 1000000 ≤ maxSecs then some (ofNanos (micros * 1000))
  else none

/-- The instant cut to whole milliseconds. -/
def truncMillis (d : DateTime) : DateTime where
  secs := d.secs
  frac := d.frac / 1000000 * 1000000
  frac_lt := by have := d.frac_lt; omega
  leap_at_59 := fun h => d.leap_at_59 (by omega)

/-- On the line the cut is to the last whole millisecond. -/
theorem truncMillis_ofNanos (n : Int) :
    (ofNanos n).truncMillis = ofNanos (n - n % 1000000) := by
  simp only [truncMillis, ofNanos, secondNanos, mk.injEq]
  omega

end DateTime
end Lib
