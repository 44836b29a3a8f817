/-
# `SystemdMonitoring.Lib.Text` — the string operations of a systems language

Trimming, ASCII case, substring search, splitting and integer parsing, on
`String` as the sequence of its scalar values.  Each operation is defined
through `String.toList` and comes with the lemma that says so, after which the
list library does the work.

Two conventions decide the definitions.

* Whitespace is the Unicode property `White_Space`, not the ASCII blanks.
* "ASCII lower case" moves `A`–`Z` only; every other scalar value stays.

`contains` is the relation `<:+:` of the list library, decided; integer parsing
takes an optional sign and at least one digit and fails on overflow.
-/
import Mathlib.Data.List.Basic
import Mathlib.Data.List.Infix
import SystemdMonitoring.Lib.Strip

namespace Lib.Text

/-! ## Character classes -/

/-- The Unicode property `White_Space`. -/
def isWhitespace (c : Char) : Bool :=
  (9 ≤ c.toNat && c.toNat ≤ 13) || c.toNat == 0x20 || c.toNat == 0x85 || c.toNat == 0xA0
    || c.toNat == 0x1680 || (0x2000 ≤ c.toNat && c.toNat ≤ 0x200A) || c.toNat == 0x2028
    || c.toNat == 0x2029 || c.toNat == 0x202F || c.toNat == 0x205F || c.toNat == 0x3000

/-- The general category `Cc`. -/
def isControl (c : Char) : Bool :=
  c.toNat ≤ 0x1F || (0x7F ≤ c.toNat && c.toNat ≤ 0x9F)

def isAsciiDigit (c : Char) : Bool := '0' ≤ c && c ≤ '9'

def isAsciiAlphanumeric (c : Char) : Bool :=
  isAsciiDigit c || ('a' ≤ c && c ≤ 'z') || ('A' ≤ c && c ≤ 'Z')

/-! ## Strings -/

/-- Drop whitespace at both ends. -/
def trim (s : String) : String :=
  String.ofList ((s.toList.dropWhile isWhitespace).reverse.dropWhile isWhitespace).reverse

/-- Map `A`–`Z` to lower case. -/
def toAsciiLowercase (s : String) : String := String.ofList (s.toList.map Char.toLower)

/-- Equality up to ASCII case. -/
def eqIgnoreAsciiCase (s t : String) : Bool := toAsciiLowercase s == toAsciiLowercase t

/-- Drop every leading `c`. -/
def trimStartMatches (c : Char) (s : String) : String := String.ofList (s.toList.dropWhile (· == c))

/-- Replace every `a` by `b`. -/
def replaceChar (a b : Char) (s : String) : String :=
  String.ofList (s.toList.map (fun c => if c = a then b else c))

/-- Whether `needle` occurs in `hay` as a contiguous block. -/
def contains (hay needle : String) : Bool := decide (needle.toList <:+: hay.toList)

def startsWith (c : Char) (s : String) : Bool := s.toList.head? == some c

/-- Whether `s` ends with `tail`. -/
def endsWith (tail s : String) : Bool := tail.toList.isSuffixOf s.toList

/-- The parts before and after the first `c`, when there is one. -/
def splitOnce (c : Char) (s : String) : Option (String × String) :=
  if c ∈ s.toList then
    some (String.ofList (s.toList.takeWhile (· != c)),
      String.ofList ((s.toList.dropWhile (· != c)).drop 1))
  else none

/-- The parts between the occurrences of `c`; never empty. -/
def splitChars (c : Char) : List Char → List (List Char)
  | [] => [[]]
  | x :: xs =>
      if x = c then [] :: splitChars c xs
      else match splitChars c xs with
        | [] => [[x]]
        | p :: ps => (x :: p) :: ps

def split (c : Char) (s : String) : List String := (splitChars c s.toList).map String.ofList

/-- The value of a digit string, most significant first. -/
def digitsValue (cs : List Char) : Nat :=
  cs.foldl (fun n c => 10 * n + (c.toNat - '0'.toNat)) 0

/-- At least one digit and nothing else. -/
def parseDigits (cs : List Char) : Option Nat :=
  if cs ≠ [] ∧ cs.all isAsciiDigit then some (digitsValue cs) else none

/-- Parse an unsigned integer of at most `max`: an optional `+`, then digits. -/
def parseUnsigned (max : Nat) (s : String) : Option Nat :=
  let digits := match s.toList with
    | '+' :: cs => cs
    | cs => cs
  (parseDigits digits).filter (· ≤ max)

/-- Parse a signed integer between `-(max + 1)` and `max`: an optional sign, then digits. -/
def parseSigned (max : Nat) (s : String) : Option Int :=
  match s.toList with
  | '-' :: cs => ((parseDigits cs).filter (· ≤ max + 1)).map (fun n => -(n : Int))
  | '+' :: cs => ((parseDigits cs).filter (· ≤ max)).map (fun n => (n : Int))
  | cs => ((parseDigits cs).filter (· ≤ max)).map (fun n => (n : Int))

/-! ## Bytes -/

/-- A multi-byte sequence that has begun: its bits so far, how many bytes it still needs, and the
range of the next one. -/
structure Utf8Rest where
  bits : Nat
  needed : Nat
  low : Nat
  high : Nat

/-- What a leading byte begins. -/
def utf8Lead (b : Nat) : Option Utf8Rest :=
  if 0xC2 ≤ b ∧ b ≤ 0xDF then some ⟨b % 32, 1, 0x80, 0xBF⟩
  else if b = 0xE0 then some ⟨0, 2, 0xA0, 0xBF⟩
  else if b = 0xED then some ⟨0xD, 2, 0x80, 0x9F⟩
  else if 0xE1 ≤ b ∧ b ≤ 0xEF then some ⟨b % 16, 2, 0x80, 0xBF⟩
  else if b = 0xF0 then some ⟨0, 3, 0x90, 0xBF⟩
  else if 0xF1 ≤ b ∧ b ≤ 0xF3 then some ⟨b % 8, 3, 0x80, 0xBF⟩
  else if b = 0xF4 then some ⟨4, 3, 0x80, 0x8F⟩
  else none

def replacementChar : Char := Char.ofNat 0xFFFD

/-- A byte where a character begins: what it is, and what it begins. -/
def utf8Start (b : Nat) : List Char × Option Utf8Rest :=
  if b < 0x80 then ([Char.ofNat b], none)
  else match utf8Lead b with
    | some rest => ([], some rest)
    | none => ([replacementChar], none)

/-- Decodes bytes; a sequence that breaks off is one replacement character, and the byte that
breaks it is looked at again. -/
def utf8Chars : Option Utf8Rest → List UInt8 → List Char
  | none, [] => []
  | some _, [] => [replacementChar]
  | none, b :: bs => (utf8Start b.toNat).1 ++ utf8Chars (utf8Start b.toNat).2 bs
  | some rest, b :: bs =>
      if rest.low ≤ b.toNat ∧ b.toNat ≤ rest.high then
        let bits := rest.bits * 64 + b.toNat % 64
        if rest.needed = 1 then Char.ofNat bits :: utf8Chars none bs
        else utf8Chars (some ⟨bits, rest.needed - 1, 0x80, 0xBF⟩) bs
      else replacementChar :: (utf8Start b.toNat).1 ++ utf8Chars (utf8Start b.toNat).2 bs

def fromUtf8Lossy (bytes : List UInt8) : String := String.ofList (utf8Chars none bytes)

/-! ## What they do to the list of characters -/

@[simp] theorem toList_toAsciiLowercase (s : String) :
    (toAsciiLowercase s).toList = s.toList.map Char.toLower := by
  simp [toAsciiLowercase]

@[simp] theorem toList_trimStartMatches (c : Char) (s : String) :
    (trimStartMatches c s).toList = s.toList.dropWhile (· == c) := by
  simp [trimStartMatches]

@[simp] theorem toList_replaceChar (a b : Char) (s : String) :
    (replaceChar a b s).toList = s.toList.map (fun c => if c = a then b else c) := by
  simp [replaceChar]

theorem toList_trim (s : String) : (trim s).toList = strip isWhitespace s.toList := by
  rw [trim, String.toList_ofList, strip, List.rdropWhile]

theorem trim_eq_iff {s t : String} : trim s = t ↔ strip isWhitespace s.toList = t.toList := by
  rw [← String.toList_inj, toList_trim]

/-- Nothing is left to trim. -/
theorem trim_trim (s : String) : trim (trim s) = trim s := by
  rw [trim_eq_iff, toList_trim, strip_strip (fun _ h => h)]

theorem trim_eq_empty_iff {s : String} : trim s = "" ↔ ∀ c ∈ s.toList, isWhitespace c = true := by
  rw [trim_eq_iff, show ("" : String).toList = [] from rfl, strip_eq_nil_iff]

/-- What has been trimmed neither begins nor ends with whitespace. -/
theorem trim_eq_self_iff {s : String} : trim s = s ↔ NoMargin isWhitespace s.toList := by
  rw [trim_eq_iff, strip_eq_self_iff]

theorem contains_iff {hay needle : String} :
    contains hay needle = true ↔ needle.toList <:+: hay.toList := by
  simp [contains]

theorem map_replace_of_not_mem {a b : Char} {cs : List Char} (h : a ∉ cs) :
    cs.map (fun c => if c = a then b else c) = cs := by
  have hself : ∀ c ∈ cs, (if c = a then b else c) = id c := by
    intro c hc
    refine if_neg ?_
    rintro rfl
    exact h hc
  rw [List.map_congr_left hself, List.map_id]

/-- A word without either character is found whether or not one is replaced by the other. -/
theorem contains_replaceChar {a b : Char} {hay needle : String} (ha : a ∉ needle.toList)
    (hb : b ∉ needle.toList) : contains (replaceChar a b hay) needle = contains hay needle := by
  rw [Bool.eq_iff_iff, contains_iff, contains_iff, toList_replaceChar]
  constructor
  · rintro ⟨pre, post, h⟩
    obtain ⟨front, rest, hhay, hfront, -⟩ := List.map_eq_append_iff.mp h.symm
    obtain ⟨start, mid, rfl, -, hmid⟩ := List.map_eq_append_iff.mp hfront
    -- a replaced character would put `b` into the word
    have hmem : a ∉ mid := fun hc => hb (hmid ▸ List.mem_map.mpr ⟨a, hc, if_pos rfl⟩)
    rw [map_replace_of_not_mem hmem] at hmid
    exact ⟨start, rest, by rw [← hmid, hhay]⟩
  · rintro ⟨pre, post, h⟩
    refine ⟨pre.map (fun c => if c = a then b else c),
      post.map (fun c => if c = a then b else c), ?_⟩
    rw [← h, List.map_append, List.map_append, map_replace_of_not_mem ha]

theorem startsWith_append {c : Char} {s t : String} (hs : s ≠ "") :
    startsWith c (s ++ t) = startsWith c s := by
  have hne : s.toList ≠ [] := fun h => hs (String.toList_inj.mp (by simpa using h))
  simp [startsWith, List.head?_append_of_ne_nil _ hne]

theorem splitOnce_eq_none {c : Char} {s : String} :
    splitOnce c s = none ↔ c ∉ s.toList := by
  by_cases h : c ∈ s.toList <;> simp [splitOnce, h]

/-- A first `c` in `s` is the first one in `s ++ t`, so the part before it is that of `s`. -/
theorem splitOnce_append_of_mem {c : Char} {s t : String} (hc : c ∈ s.toList) :
    (splitOnce c (s ++ t)).map Prod.fst = (splitOnce c s).map Prod.fst := by
  have hpre : (s.toList ++ t.toList).takeWhile (· != c) = s.toList.takeWhile (· != c) := by
    rw [List.takeWhile_append]
    have hlen : (s.toList.takeWhile (· != c)).length ≠ s.toList.length := by
      intro hl
      have heq := (List.takeWhile_prefix (fun x => x != c) (l := s.toList)).eq_of_length hl
      rw [List.takeWhile_eq_self_iff] at heq
      simpa using heq c hc
    rw [if_neg hlen]
  simp [splitOnce, hc, hpre]

/-- Without a `c` in `s`, the first `c` of `s ++ t` is that of `t`. -/
theorem splitOnce_append_of_not_mem {c : Char} {s t : String} (hc : c ∉ s.toList) :
    splitOnce c (s ++ t) = (splitOnce c t).map (fun p => (s ++ p.1, p.2)) := by
  have hs : ∀ x ∈ s.toList, (x != c) = true := by
    intro x hx
    have : x ≠ c := fun h => hc (h ▸ hx)
    simpa using this
  have htake : (s.toList ++ t.toList).takeWhile (· != c)
      = s.toList ++ t.toList.takeWhile (· != c) := List.takeWhile_append_of_pos hs
  have hdrop : (s.toList ++ t.toList).dropWhile (· != c) = t.toList.dropWhile (· != c) :=
    List.dropWhile_append_of_pos hs
  by_cases ht : c ∈ t.toList
  · simp only [splitOnce, String.toList_append, List.mem_append, ht, or_true, if_true,
      Option.map_some, htake, hdrop, Option.some.injEq, Prod.mk.injEq, and_true]
    exact String.toList_inj.mp (by simp)
  · simp [splitOnce, hc, ht]

end Lib.Text
