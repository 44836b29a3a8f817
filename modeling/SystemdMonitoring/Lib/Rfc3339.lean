/-
# `SystemdMonitoring.Lib.Rfc3339` — timestamps as text

`Chrono` is what a program uses of a timestamp library: a reader of RFC 3339
that answers with an instant and the offset it was written at, and a writer in
UTC with milliseconds.  `LawfulChrono` is what may be relied on: a four-digit
year is read, the writer ends in `Z`, and what it writes of an instant outside
leap seconds is read back cut to milliseconds.

A strict library moreover reads nothing else (`StrictChrono`).

`rfc3339` is such a library, written out, lawful and strict (`lawful_rfc3339`, `strict_rfc3339`).
-/
import SystemdMonitoring.Lib.Calendar
import SystemdMonitoring.Lib.DateTime
import SystemdMonitoring.Lib.Text
import Mathlib.Tactic.NormNum

namespace Lib

/-- A reader and a writer of timestamps. -/
class Chrono where
  /-- The instant, and the seconds its writer was ahead of UTC. -/
  parseFromRfc3339 : String → Option (DateTime × Int)
  /-- UTC, three decimals, `Z`. -/
  toRfc3339Millis : DateTime → String

namespace DateTime

/-- The instant lies in the years 0 to 9999. -/
def InYears (d : DateTime) : Prop := -719528 ≤ d.secs / 86400 ∧ d.secs / 86400 < 2932897

instance (d : DateTime) : Decidable d.InYears := inferInstanceAs (Decidable (_ ∧ _))

end DateTime

/-- What is documented of the library. -/
class LawfulChrono [Chrono] : Prop where
  inYears_of_parse : ∀ {s : String} {d : DateTime},
    Chrono.parseFromRfc3339 s = some (d, 0) → d.InYears
  endsWith_format : ∀ {d : DateTime}, d.InYears →
    Text.endsWith "Z" (Chrono.toRfc3339Millis d) = true
  parse_format : ∀ {d : DateTime}, d.InYears → d.isLeap = false →
    Chrono.parseFromRfc3339 (Chrono.toRfc3339Millis d) = some (d.truncMillis, 0)

/-- A reader that insists on the four digits: other years are written, but not read. -/
class StrictChrono [Chrono] : Prop extends LawfulChrono where
  parse_format_far : ∀ {d : DateTime}, ¬ d.InYears →
    Chrono.parseFromRfc3339 (Chrono.toRfc3339Millis d) = none

namespace Rfc3339

/-! ## Digits -/

def digitChar (n : Nat) : Char := Char.ofNat (48 + n % 10)

/-- The last `width` decimal digits. -/
def digits : Nat → Nat → List Char
  | 0, _ => []
  | width + 1, n => digitChar (n / 10 ^ width) :: digits width n

/-- Read exactly `width` digits behind the number read so far. -/
def takeDigits : Nat → Nat → List Char → Option (Nat × List Char)
  | 0, acc, cs => some (acc, cs)
  | width + 1, acc, c :: cs =>
      if Text.isAsciiDigit c then takeDigits width (acc * 10 + (c.toNat - 48)) cs else none
  | _ + 1, _, [] => none

def takeChar (allowed : List Char) : List Char → Option (List Char)
  | c :: cs => if c ∈ allowed then some cs else none
  | [] => none

@[simp] theorem takeDigits_zero (acc : Nat) (cs : List Char) :
    takeDigits 0 acc cs = some (acc, cs) := rfl

@[simp] theorem takeChar_cons (c : Char) (allowed cs : List Char) :
    takeChar allowed (c :: cs) = if c ∈ allowed then some cs else none := rfl

theorem digitChar_spec (n : Nat) :
    Text.isAsciiDigit (digitChar n) = true ∧ (digitChar n).toNat - 48 = n % 10 := by
  have h : n % 10 < 10 := Nat.mod_lt n (by decide)
  rw [digitChar]
  generalize n % 10 = m at h
  revert m
  decide

/-- Digits are read back, and the reading goes on behind them. -/
theorem takeDigits_digits_add (width more acc n : Nat) (rest : List Char) :
    takeDigits (width + more) acc (digits width n ++ rest)
      = takeDigits more (acc * 10 ^ width + n % 10 ^ width) rest := by
  induction width generalizing acc with
  | zero => simp [digits, Nat.mod_one]
  | succ width ih =>
      obtain ⟨hdigit, hvalue⟩ := digitChar_spec (n / 10 ^ width)
      rw [digits, List.cons_append, Nat.add_right_comm, takeDigits, if_pos hdigit, hvalue, ih,
        Nat.mod_pow_succ]
      congr 1
      ring

theorem takeDigits_digits {width n : Nat} (h : n < 10 ^ width) (rest : List Char) :
    takeDigits width 0 (digits width n ++ rest) = some (n, rest) := by
  have hread := takeDigits_digits_add width 0 0 n rest
  rwa [Nat.zero_mul, Nat.zero_add, Nat.mod_eq_of_lt h] at hread

/-- Digits end where something else begins. -/
theorem span_digits (width n : Nat) {c : Char} (hc : Text.isAsciiDigit c = false)
    (rest : List Char) :
    (digits width n ++ c :: rest).takeWhile Text.isAsciiDigit = digits width n
      ∧ (digits width n ++ c :: rest).dropWhile Text.isAsciiDigit = c :: rest := by
  induction width with
  | zero => simp [digits, hc]
  | succ width ih =>
      have hdigit := (digitChar_spec (n / 10 ^ width)).1
      simp [digits, hdigit, ih]

/-! ## Reading -/

/-- The nanoseconds of a fraction: nine digits of it, and the rest is dropped. -/
def takeFraction : List Char → Option (Nat × List Char)
  | '.' :: cs =>
      let written := cs.takeWhile Text.isAsciiDigit
      if written.isEmpty then none
      else (takeDigits 9 0 (written ++ List.replicate 9 '0')).map
        (fun p => (p.1, cs.dropWhile Text.isAsciiDigit))
  | cs => some (0, cs)

/-- Minutes ahead of UTC, and nothing behind them. -/
def takeOffset : List Char → Option Int
  | ['Z'] => some 0
  | ['z'] => some 0
  | sign :: cs => do
      let (hours, cs) ← takeDigits 2 0 cs
      let cs ← takeChar [':'] cs
      let (minutes, cs) ← takeDigits 2 0 cs
      if cs ≠ [] ∨ 60 ≤ minutes ∨ 24 ≤ hours then none
      else if sign = '+' then some (hours * 60 + minutes)
      else if sign = '-' then some (-(hours * 60 + minutes))
      else none
  | [] => none

/-- The instant `sec` seconds into a minute; the sixtieth second is a leap second. -/
def ofMinute (minute : Int) (sec nanos : Nat) : Option DateTime :=
  if hn : nanos < 1000000000 then
    if hs : sec ≤ 59 then
      some { secs := minute * 60 + sec, frac := nanos, frac_lt := by omega, leap_at_59 := by omega }
    else if sec = 60 then
      some { secs := minute * 60 + 59, frac := nanos + 1000000000, frac_lt := by omega,
             leap_at_59 := by omega }
    else none
  else none

def takeDate (cs : List Char) : Option (Date × List Char) := do
  let (year, cs) ← takeDigits 4 0 cs
  let cs ← takeChar ['-'] cs
  let (month, cs) ← takeDigits 2 0 cs
  let cs ← takeChar ['-'] cs
  let (day, cs) ← takeDigits 2 0 cs
  return (⟨year, month, day⟩, cs)

/-- Minute of the day, second, nanoseconds. -/
def takeTime (cs : List Char) : Option ((Nat × Nat × Nat) × List Char) := do
  let (hour, cs) ← takeDigits 2 0 cs
  let cs ← takeChar [':'] cs
  let (minute, cs) ← takeDigits 2 0 cs
  let cs ← takeChar [':'] cs
  let (sec, cs) ← takeDigits 2 0 cs
  let (nanos, cs) ← takeFraction cs
  if hour < 24 ∧ minute < 60 then return ((hour * 60 + minute, sec, nanos), cs) else none

def parseChars (cs : List Char) : Option (DateTime × Int) := do
  let (date, cs) ← takeDate cs
  let cs ← takeChar ['T', 't', ' '] cs
  let ((minute, sec, nanos), cs) ← takeTime cs
  let offset ← takeOffset cs
  if date.IsValid then
    let d ← ofMinute (date.toDays * 1440 + minute - offset) sec nanos
    return (d, offset * 60)
  else none

def parse (s : String) : Option (DateTime × Int) := parseChars s.toList

/-! ## Writing -/

/-- Four digits for a year of the range, a sign and at least four for any other. -/
def yearChars (year : Int) : List Char :=
  if 0 ≤ year ∧ year ≤ 9999 then digits 4 year.toNat
  else
    let written := Nat.toDigits 10 year.natAbs
    (if year < 0 then '-' else '+') :: (List.replicate (4 - written.length) '0' ++ written)

def dateChars (date : Date) : List Char :=
  yearChars date.year ++ '-' :: (digits 2 date.month.toNat ++ '-' :: digits 2 date.day.toNat)

def timeChars (time sec millis : Nat) : List Char :=
  digits 2 (time / 3600) ++ ':' :: (digits 2 (time / 60 % 60) ++ ':' :: (digits 2 sec
    ++ '.' :: digits 3 millis))

def formatChars (d : DateTime) : List Char :=
  let time := (d.secs % 86400).toNat
  dateChars (Date.ofDays (d.secs / 86400)) ++ 'T' ::
    (timeChars time (time % 60 + d.frac / 1000000000) (d.frac % 1000000000 / 1000000) ++ ['Z'])

def format (d : DateTime) : String := String.ofList (formatChars d)

/-! ## What is written is read -/

/-- Three decimals are milliseconds. -/
theorem takeFraction_digits {millis : Nat} (h : millis < 10 ^ 3) (c : Char)
    (hc : Text.isAsciiDigit c = false) (rest : List Char) :
    takeFraction ('.' :: (digits 3 millis ++ c :: rest)) = some (millis * 1000000, c :: rest) := by
  obtain ⟨htake, hdrop⟩ := span_digits 3 millis hc rest
  have hread := takeDigits_digits_add 3 6 0 millis (List.replicate 9 '0')
  rw [Nat.zero_mul, Nat.zero_add, Nat.mod_eq_of_lt h] at hread
  have hvalue : takeDigits 6 millis (List.replicate 9 '0')
      = some (millis * 1000000, List.replicate 3 '0') := by
    have hsplit : List.replicate 9 '0' = digits 6 0 ++ List.replicate 3 '0' := by decide
    have hzero := takeDigits_digits_add 6 0 millis 0 (List.replicate 3 '0')
    rw [Nat.zero_mod, Nat.add_zero, Nat.add_zero, takeDigits_zero] at hzero
    rw [hsplit, hzero]
    norm_num
  have hwritten : (digits 3 millis).isEmpty = false := rfl
  simp only [takeFraction, htake, hdrop, hwritten, hread, hvalue]
  rfl

theorem takeDate_dateChars {date : Date} (hyear : 0 ≤ date.year ∧ date.year ≤ 9999)
    (hmonth : 1 ≤ date.month ∧ date.month ≤ 12) (hday : 1 ≤ date.day ∧ date.day ≤ 31)
    (rest : List Char) : takeDate (dateChars date ++ rest) = some (date, rest) := by
  have hy : date.year.toNat < 10 ^ 4 := by omega
  have hm : date.month.toNat < 10 ^ 2 := by omega
  have hd : date.day.toNat < 10 ^ 2 := by omega
  simp only [takeDate, dateChars, yearChars, if_pos hyear, List.append_assoc, List.cons_append,
    takeDigits_digits hy, takeDigits_digits hm, takeDigits_digits hd, takeChar_cons,
    List.mem_singleton, if_true, Option.bind_eq_bind, Option.bind_some]
  rw [Int.toNat_of_nonneg hyear.1, Int.toNat_of_nonneg (by omega), Int.toNat_of_nonneg (by omega)]
  rfl

theorem takeTime_timeChars {time sec millis : Nat} (htime : time < 86400) (hsec : sec < 10 ^ 2)
    (hmillis : millis < 10 ^ 3) {c : Char} (hc : Text.isAsciiDigit c = false) (rest : List Char) :
    takeTime (timeChars time sec millis ++ c :: rest)
      = some ((time / 60, sec, millis * 1000000), c :: rest) := by
  have hh : time / 3600 < 10 ^ 2 := by omega
  have hm : time / 60 % 60 < 10 ^ 2 := by omega
  simp only [takeTime, timeChars, List.append_assoc, List.cons_append, takeDigits_digits hh,
    takeDigits_digits hm, takeDigits_digits hsec, takeFraction_digits hmillis c hc, takeChar_cons,
    List.mem_singleton, if_true, Option.bind_eq_bind, Option.bind_some]
  rw [if_pos (by omega), show time / 3600 * 60 + time / 60 % 60 = time / 60 by omega]
  rfl

/-- Reading of a date and a time, both in range. -/
theorem parseChars_parts {date : Date} (hyear : 0 ≤ date.year ∧ date.year ≤ 9999)
    (hmonth : 1 ≤ date.month ∧ date.month ≤ 12) (hday : 1 ≤ date.day ∧ date.day ≤ 31)
    (hvalid : date.IsValid) {time sec millis : Nat} (htime : time < 86400) (hsec : sec < 10 ^ 2)
    (hmillis : millis < 10 ^ 3) :
    parseChars (dateChars date ++ 'T' :: (timeChars time sec millis ++ ['Z']))
      = (ofMinute (date.toDays * 1440 + (time / 60 : Nat) - 0) sec (millis * 1000000)).map
          (fun d => (d, 0)) := by
  have hdate := takeDate_dateChars hyear hmonth hday
    ('T' :: (timeChars time sec millis ++ ['Z']))
  have hrest := takeTime_timeChars htime hsec hmillis
    (show Text.isAsciiDigit 'Z' = false by decide) []
  have hT : takeChar ['T', 't', ' '] ('T' :: (timeChars time sec millis ++ ['Z']))
      = some (timeChars time sec millis ++ ['Z']) := rfl
  have hZ : takeOffset ['Z'] = some 0 := rfl
  rw [parseChars, hdate]
  simp only [Option.bind_eq_bind, Option.bind_some]
  rw [hT, Option.bind_some, hrest]
  simp only [Option.bind_some]
  rw [hZ, Option.bind_some, if_pos hvalid]
  cases ofMinute (date.toDays * 1440 + (time / 60 : Nat) - 0) sec (millis * 1000000) with
  | none => rfl
  | some d => rfl

theorem ofMinute_eq {minute : Int} {sec nanos : Nat} {d : DateTime} (hsec : sec ≤ 59)
    (hnanos : nanos < 1000000000) (hd : d.secs = minute * 60 + sec) (hfrac : d.frac = nanos) :
    ofMinute minute sec nanos = some d := by
  obtain ⟨secs, frac, hlt, hleap⟩ := d
  subst hd
  subst hfrac
  rw [ofMinute, dif_pos hnanos, dif_pos hsec]

theorem parse_format {d : DateTime} (hyears : d.InYears) (hleap : d.isLeap = false) :
    parse (format d) = some (d.truncMillis, 0) := by
  have hfrac : d.frac < 1000000000 := not_le.mp (of_decide_eq_false hleap)
  obtain ⟨hm0, hm1, hd0, hd1⟩ := Date.ofDays_mem (d.secs / 86400)
  have htext : (format d).toList = formatChars d := String.toList_ofList
  rw [parse, htext, formatChars, parseChars_parts ((Date.year_ofDays_mem _).mp hyears) ⟨hm0, hm1⟩
    ⟨hd0, hd1⟩ (Date.isValid_ofDays _) (by omega) (by omega) (by omega), Date.toDays_ofDays,
    ofMinute_eq (d := d.truncMillis) (by omega) (by omega) ?_ ?_]
  · rfl
  · show d.secs = _
    omega
  · show d.frac / 1000000 * 1000000 = _
    omega

/-! ## The laws -/

/-- Minutes of the years 0 to 9999, offset by none. -/
theorem secs_of_ofMinute {minute : Int} {sec nanos : Nat} {d : DateTime}
    (h : ofMinute minute sec nanos = some d) : d.secs / 60 = minute := by
  rw [ofMinute] at h
  split at h
  · split at h
    · cases h
      show (minute * 60 + (sec : Int)) / 60 = minute
      omega
    · split at h
      · cases h
        show (minute * 60 + 59) / 60 = minute
        omega
      · cases h
  · cases h

theorem takeDigits_lt {width acc : Nat} {cs : List Char} {n : Nat} {rest : List Char}
    (h : takeDigits width acc cs = some (n, rest)) : n < (acc + 1) * 10 ^ width := by
  induction width generalizing acc cs with
  | zero =>
      simp only [takeDigits_zero, Option.some.injEq, Prod.mk.injEq] at h
      omega
  | succ width ih =>
      cases cs with
      | nil => cases h
      | cons c cs =>
          simp only [takeDigits] at h
          split at h
          case isTrue hdigit =>
            have hvalue : c.toNat ≤ 57 := by
              simp only [Text.isAsciiDigit, Bool.and_eq_true, decide_eq_true_eq] at hdigit
              exact UInt32.le_iff_toNat_le.mp hdigit.2
            have hlt := ih h
            calc n < (acc * 10 + (c.toNat - 48) + 1) * 10 ^ width := hlt
              _ ≤ ((acc + 1) * 10) * 10 ^ width := Nat.mul_le_mul_right _ (by omega)
              _ = (acc + 1) * 10 ^ (width + 1) := by ring
          case isFalse => cases h

theorem year_of_takeDate {cs rest : List Char} {date : Date}
    (h : takeDate cs = some (date, rest)) : 0 ≤ date.year ∧ date.year ≤ 9999 := by
  simp only [takeDate, Option.bind_eq_bind, Option.bind_eq_some_iff, pure, Option.some.injEq,
    Prod.mk.injEq] at h
  obtain ⟨⟨year, _⟩, hyear, _, _, _, _, _, _, _, _, rfl, -⟩ := h
  have hlt := takeDigits_lt hyear
  show 0 ≤ (year : Int) ∧ (year : Int) ≤ 9999
  omega

theorem minute_of_takeTime {cs rest : List Char} {minute sec nanos : Nat}
    (h : takeTime cs = some ((minute, sec, nanos), rest)) : minute < 1440 := by
  simp only [takeTime, Option.bind_eq_bind, Option.bind_eq_some_iff] at h
  obtain ⟨⟨hour, _⟩, _, _, _, ⟨min, _⟩, _, _, _, _, _, _, _, h⟩ := h
  split at h
  · simp only [pure, Option.some.injEq, Prod.mk.injEq] at h
    omega
  · cases h

/-- An offset is of less than a day. -/
theorem offset_of_takeOffset {cs : List Char} {offset : Int} (h : takeOffset cs = some offset) :
    -1440 < offset ∧ offset < 1440 := by
  rw [takeOffset.eq_def] at h
  split at h
  · cases h
    decide
  · cases h
    decide
  · simp only [Option.bind_eq_bind, Option.bind_eq_some_iff] at h
    obtain ⟨⟨hours, _⟩, _, _, _, ⟨minutes, _⟩, _, h⟩ := h
    dsimp only at h
    split at h
    · cases h
    · split at h
      · cases h
        omega
      · split at h
        · cases h
          omega
        · cases h
  · cases h

/-- **The minute that is read**: one of a day of the years 0 to 9999, less the offset. -/
theorem minute_of_parse {s : String} {d : DateTime} {offset : Int}
    (h : parse s = some (d, offset)) :
    ∃ day minute ahead : Int, (-719528 ≤ day ∧ day < 2932897) ∧ (0 ≤ minute ∧ minute < 1440)
      ∧ (-1440 < ahead ∧ ahead < 1440) ∧ offset = ahead * 60
      ∧ d.secs / 60 = day * 1440 + minute - ahead := by
  simp only [parse, parseChars, Option.bind_eq_bind, Option.bind_eq_some_iff] at h
  obtain ⟨⟨date, _⟩, hdate, _, _, ⟨⟨minute, sec, nanos⟩, _⟩, htime, ahead, hahead, h⟩ := h
  split at h
  case isTrue hvalid =>
    have hname : Date.ofDays date.toDays = date := hvalid
    simp only [Option.bind_eq_some_iff, pure, Option.some.injEq, Prod.mk.injEq] at h
    obtain ⟨e, hd, rfl, hoffset⟩ := h
    have hyear := year_of_takeDate hdate
    have hminute := minute_of_takeTime htime
    rw [← hname, ← Date.year_ofDays_mem] at hyear
    exact ⟨date.toDays, minute, ahead, hyear, by omega, offset_of_takeOffset hahead, hoffset.symm,
      secs_of_ofMinute hd⟩
  case isFalse => cases h

theorem inYears_of_parse {s : String} {d : DateTime} (h : parse s = some (d, 0)) : d.InYears := by
  obtain ⟨day, minute, ahead, hday, hminute, -, hoffset, hsecs⟩ := minute_of_parse h
  have hsame : d.secs / 86400 = day := by omega
  rw [DateTime.InYears, hsame]
  exact hday

theorem endsWith_format (d : DateTime) : Text.endsWith "Z" (format d) = true := by
  have hchars : formatChars d = (dateChars (Date.ofDays (d.secs / 86400)) ++ 'T' ::
      timeChars (d.secs % 86400).toNat ((d.secs % 86400).toNat % 60 + d.frac / 1000000000)
        (d.frac % 1000000000 / 1000000)) ++ ['Z'] := by
    rw [formatChars, List.append_assoc, List.cons_append]
  have htext : (format d).toList = formatChars d := String.toList_ofList
  rw [Text.endsWith, List.isSuffixOf_iff_suffix, htext, hchars]
  exact List.suffix_append _ _

/-- A year of any other range begins with a sign, which is no digit. -/
theorem parse_format_far {d : DateTime} (h : ¬ d.InYears) : parse (format d) = none := by
  have htext : (format d).toList = formatChars d := String.toList_ofList
  have hyear : ¬ (0 ≤ (Date.ofDays (d.secs / 86400)).year
      ∧ (Date.ofDays (d.secs / 86400)).year ≤ 9999) :=
    fun hin => h ((Date.year_ofDays_mem _).mpr hin)
  have hsign : ∃ sign rest, formatChars d = sign :: rest ∧ Text.isAsciiDigit sign = false := by
    rw [formatChars, dateChars, yearChars, if_neg hyear]
    split
    · exact ⟨_, _, rfl, by decide⟩
    · exact ⟨_, _, rfl, by decide⟩
  obtain ⟨sign, rest, hchars, hdigit⟩ := hsign
  have hnot : ¬ Text.isAsciiDigit sign = true := by
    rw [hdigit]
    exact Bool.false_ne_true
  rw [parse, htext, hchars, parseChars, takeDate, takeDigits, if_neg hnot]
  rfl

end Rfc3339

/-- RFC 3339, written out. -/
@[reducible] def rfc3339 : Chrono where
  parseFromRfc3339 := Rfc3339.parse
  toRfc3339Millis := Rfc3339.format

theorem lawful_rfc3339 : @LawfulChrono rfc3339 :=
  @LawfulChrono.mk rfc3339 Rfc3339.inYears_of_parse (fun {d} _ => Rfc3339.endsWith_format d)
    Rfc3339.parse_format

theorem strict_rfc3339 : @StrictChrono rfc3339 :=
  @StrictChrono.mk rfc3339 lawful_rfc3339 Rfc3339.parse_format_far

end Lib
