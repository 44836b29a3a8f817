/-
# `SystemdMonitoring.Lib.Json` — JSON values and how they are read

A value is a scalar, an array or an object.  Numbers are integers or binary64
bit patterns: nothing here computes with the latter, so a pattern is all that
is kept of them.  An object is its list of members; it is read through `get`,
which answers with the first member of that name, and written through
`setMember`, which replaces it.

`at?` follows a path of names: through an object by member name, through an
array by decimal index.  Two values *agree on* a path when they answer it
alike; the lemmas at the end reduce every other accessor to `at?`, so that a
program that only uses accessors is a function of the answers.
-/
import Mathlib.Algebra.Ring.Int.Defs
import Mathlib.Algebra.Ring.Nat
import SystemdMonitoring.Lib.Text

namespace Lib

/-- A JSON value. -/
inductive Json where
  | null
  | bool (b : Bool)
  | int (i : Int)
  | float (bits : UInt64)
  | str (s : String)
  | arr (xs : List Json)
  | obj (ms : List (String × Json))
  deriving Repr, Inhabited

namespace Json

/-! ## Equality is decidable -/

mutual
def beq : Json → Json → Bool
  | .null, .null => true
  | .bool a, .bool b => a == b
  | .int a, .int b => a == b
  | .float a, .float b => a == b
  | .str a, .str b => a == b
  | .arr xs, .arr ys => beqList xs ys
  | .obj ms, .obj ns => beqMembers ms ns
  | _, _ => false
def beqList : List Json → List Json → Bool
  | [], [] => true
  | x :: xs, y :: ys => beq x y && beqList xs ys
  | _, _ => false
def beqMembers : List (String × Json) → List (String × Json) → Bool
  | [], [] => true
  | (k, x) :: ms, (l, y) :: ns => k == l && beq x y && beqMembers ms ns
  | _, _ => false
end

mutual
theorem beq_iff : ∀ (a b : Json), beq a b = true ↔ a = b
  | .null, b => by cases b <;> simp [beq]
  | .bool _, b => by cases b <;> simp [beq]
  | .int _, b => by cases b <;> simp [beq]
  | .float _, b => by cases b <;> simp [beq]
  | .str _, b => by cases b <;> simp [beq]
  | .arr xs, b => by cases b <;> simp [beq, beqList_iff xs]
  | .obj ms, b => by cases b <;> simp [beq, beqMembers_iff ms]
theorem beqList_iff : ∀ (xs ys : List Json), beqList xs ys = true ↔ xs = ys
  | [], ys => by cases ys <;> simp [beqList]
  | x :: xs, ys => by cases ys <;> simp [beqList, beq_iff x, beqList_iff xs]
theorem beqMembers_iff : ∀ (ms ns : List (String × Json)), beqMembers ms ns = true ↔ ms = ns
  | [], ns => by cases ns <;> simp [beqMembers]
  | (k, x) :: ms, ns => by
      cases ns with
      | nil => simp [beqMembers]
      | cons n ns => simp [beqMembers, beq_iff x, beqMembers_iff ms, Prod.ext_iff]
end

instance decEq : DecidableEq Json := fun a b => decidable_of_iff _ (beq_iff a b)

/-! ## Scalars and containers -/

def asArray : Json → Option (List Json)
  | .arr xs => some xs
  | _ => none

def asObject : Json → Option (List (String × Json))
  | .obj ms => some ms
  | _ => none

def asStr : Json → Option String
  | .str s => some s
  | _ => none

def asBool : Json → Option Bool
  | .bool b => some b
  | _ => none

/-- An integer in the range of a signed 64-bit word. -/
def asI64 : Json → Option Int
  | .int i => if -2 ^ 63 ≤ i ∧ i < 2 ^ 63 then some i else none
  | _ => none

/-- An integer in the range of an unsigned 64-bit word. -/
def asU64 : Json → Option Nat
  | .int i => if 0 ≤ i ∧ i < 2 ^ 64 then some i.toNat else none
  | _ => none

/-- The JSON form of an optional value. -/
def ofOption : Option Json → Json
  | some v => v
  | none => .null

/-! ## Objects -/

/-- The first member of that name. -/
def member (ms : List (String × Json)) (k : String) : Option Json :=
  (ms.find? (fun m => m.1 == k)).map Prod.snd

/-- Replace the member of that name, or add it at the end. -/
def setMember : List (String × Json) → String → Json → List (String × Json)
  | [], k, v => [(k, v)]
  | m :: ms, k, v => if m.1 = k then (k, v) :: ms else m :: setMember ms k v

/-- Member access; `none` on everything that is not an object. -/
def get (v : Json) (k : String) : Option Json := v.asObject.bind (member · k)

def isObject (v : Json) : Bool := v.asObject.isSome

@[simp] theorem get_obj (ms : List (String × Json)) (k : String) :
    (Json.obj ms).get k = member ms k := rfl

@[simp] theorem member_nil (k : String) : member [] k = none := rfl

theorem member_cons (m : String × Json) (ms : List (String × Json)) (k : String) :
    member (m :: ms) k = if m.1 = k then some m.2 else member ms k := by
  by_cases h : m.1 = k <;> simp [member, h]

/-- A new member goes to the end. -/
theorem setMember_of_notMem {members : List (String × Json)} {name : String}
    (h : name ∉ members.map Prod.fst) (value : Json) :
    setMember members name value = members ++ [(name, value)] := by
  induction members with
  | nil => rfl
  | cons member members ih =>
      rw [List.map_cons, List.mem_cons, not_or] at h
      rw [setMember, if_neg (Ne.symm h.1), ih h.2, List.cons_append]

theorem member_setMember (ms : List (String × Json)) (k l : String) (v : Json) :
    member (setMember ms k v) l = if k = l then some v else member ms l := by
  induction ms with
  | nil => rw [setMember, member_cons]
  | cons m ms ih =>
      rw [setMember]
      by_cases hm : m.1 = k
      · rw [if_pos hm, member_cons, member_cons, hm]
        by_cases hk : k = l
        · rw [if_pos hk, if_pos hk]
        · rw [if_neg hk, if_neg hk, if_neg hk]
      · rw [if_neg hm, member_cons, member_cons, ih]
        by_cases hl : m.1 = l
        · have hk : k ≠ l := fun h => hm (hl.trans h.symm)
          rw [if_pos hl, if_neg hk, if_pos hl]
        · rw [if_neg hl, if_neg hl]

/-! ## Typed members -/

/-- An integer in the range of an unsigned 32-bit word. -/
def asU32 : Json → Option Nat
  | .int i => if 0 ≤ i ∧ i < 2 ^ 32 then some i.toNat else none
  | _ => none

def asStrings (v : Json) : Option (List String) := v.asArray.bind (fun xs => xs.mapM asStr)

/-- A member that may be missing or null: `none` when it is there and of the wrong type. -/
def optionalMember {α : Type} (decode : Json → Option α) (ms : List (String × Json))
    (k : String) : Option (Option α) :=
  match member ms k with
  | none => some none
  | some .null => some none
  | some v => (decode v).map some

/-- A member that is missing, or null. -/
def Missing (ms : List (String × Json)) (k : String) : Prop :=
  member ms k = none ∨ member ms k = some .null

/-- A member that may be missing or null; given, it decodes to a value with that property. -/
def Optionally {α : Type} (decode : Json → Option α) (ms : List (String × Json)) (k : String)
    (P : α → Prop) : Prop :=
  Missing ms k ∨ ∃ v a, member ms k = some v ∧ decode v = some a ∧ P a

theorem optionalMember_eq_none_iff {α : Type} {decode : Json → Option α}
    {ms : List (String × Json)} {k : String} :
    optionalMember decode ms k = some none ↔ Missing ms k := by
  rw [optionalMember, Missing]
  split
  case h_1 h => simp [h]
  case h_2 h => simp [h]
  case h_3 v hnull hv =>
    rw [hv]
    simp only [reduceCtorEq, Option.some.injEq, false_or]
    refine iff_of_false ?_ hnull
    cases decode v <;> simp

theorem optionalMember_of_optionally {α : Type} {decode : Json → Option α}
    {ms : List (String × Json)} {k : String} {P : α → Prop} (h : Optionally decode ms k P) :
    ∃ value, optionalMember decode ms k = some value ∧ ∀ a, value = some a → P a := by
  rcases h with hmissing | ⟨v, a, hv, ha, hP⟩
  · exact ⟨none, optionalMember_eq_none_iff.mpr hmissing, fun a ha => by cases ha⟩
  · by_cases hnull : v = .null
    · subst hnull
      exact ⟨none, optionalMember_eq_none_iff.mpr (.inr hv), fun a ha => by cases ha⟩
    · refine ⟨some a, ?_, fun b hb => by cases hb; exact hP⟩
      rw [optionalMember, hv]
      split
      case h_1 h => cases h
      case h_2 h =>
        cases h
        exact absurd rfl hnull
      case h_3 w _ hw =>
        cases hw
        rw [ha, Option.map_some]

/-- What a member is that has been read. -/
theorem optionalMember_eq_some_iff {α : Type} {decode : Json → Option α}
    {ms : List (String × Json)} {k : String} {a : α} :
    optionalMember decode ms k = some (some a)
      ↔ ∃ v, v ≠ .null ∧ member ms k = some v ∧ decode v = some a := by
  rw [optionalMember]
  split
  case h_1 h => simp [h]
  case h_2 h => simp [h]
  case h_3 w hnull hw =>
    rw [hw, Option.map_eq_some_iff]
    constructor
    · rintro ⟨b, hb, hba⟩
      cases hba
      exact ⟨w, hnull, rfl, hb⟩
    · rintro ⟨v, -, hv, ha⟩
      cases hv
      exact ⟨a, ha, rfl⟩

/-- Reading an optional member is reading the member, when null is no value. -/
theorem bind_of_optionalMember {α : Type} {decode : Json → Option α} (hdecode : decode .null = none)
    {ms : List (String × Json)} {k : String} {value : Option α}
    (h : optionalMember decode ms k = some value) : (member ms k).bind decode = value := by
  cases value with
  | none =>
      rcases optionalMember_eq_none_iff.mp h with hnone | hnull
      · rw [hnone, Option.bind_none]
      · rw [hnull, Option.bind_some, hdecode]
  | some a =>
      obtain ⟨v, -, hv, ha⟩ := optionalMember_eq_some_iff.mp h
      rw [hv, Option.bind_some, ha]

/-! ## Paths -/

/-- An array index as a path writes it: no sign, no leading zero. -/
def parseIndex (tok : String) : Option Nat :=
  if Text.startsWith '+' tok || (Text.startsWith '0' tok && tok.length != 1) then none
  else Text.parseUnsigned (2 ^ 64 - 1) tok

/-- One step down. -/
def child (v : Json) (tok : String) : Option Json :=
  match v with
  | .obj ms => member ms tok
  | .arr xs => (parseIndex tok).bind (fun i => xs[i]?)
  | _ => none

/-- The value at the end of a path. -/
def at? (v : Json) : List String → Option Json
  | [] => some v
  | tok :: path => (v.child tok).bind (fun w => w.at? path)

@[simp] theorem at?_nil (v : Json) : v.at? [] = some v := rfl

theorem at?_cons (v : Json) (tok : String) (path : List String) :
    v.at? (tok :: path) = (v.child tok).bind (fun w => w.at? path) := rfl

@[simp] theorem at?_singleton (v : Json) (tok : String) : v.at? [tok] = v.child tok := by
  cases h : v.child tok <;> simp [at?_cons, h]

theorem at?_append (v : Json) (path path' : List String) :
    v.at? (path ++ path') = (v.at? path).bind (fun w => w.at? path') := by
  induction path generalizing v with
  | nil => rfl
  | cons tok path ih =>
      cases h : v.child tok with
      | none => simp [at?_cons, h]
      | some w => simp [at?_cons, h, ih]

@[simp] theorem at?_null_cons (tok : String) (path : List String) :
    Json.null.at? (tok :: path) = none := rfl

/-- A name that is no index finds nothing in an array, so member access is path access. -/
theorem get_eq_child {v : Json} {k : String} (hk : parseIndex k = none) : v.get k = v.child k := by
  cases v <;> simp [get, child, asObject, hk]

end Json
end Lib
