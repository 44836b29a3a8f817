/-
# `SystemdMonitoring.Lib.JsonMask` — covering members of a JSON value by key

`mask hidden cover v` is `v` with `cover` in place of the value of every member
whose key is `hidden`, at any depth.  Below such a member nothing of `v` is
left; everywhere else the mask is transparent.  Both are said by places: a
place is a path of member keys and array indices, and `Reaches` is the value
found there.  (Where an object repeats a key, a place holds several values.)

* `reaches_mask_iff`: at a place that is not below a hidden key the mask of a
  value holds exactly the masks of what the value holds, and those are nodes
  of the same kind (`sameNode_mask`).
* `covered_of_reaches_mask`: every hidden member of a mask holds the cover.
* `mask_eq_mask_iff`: two values have one mask exactly when they agree outside
  the hidden members.
* `mask_mask`: a mask is its own mask.
-/
import Mathlib.Data.List.Forall2
import SystemdMonitoring.Lib.Json

namespace Lib.Json

/-! ## Places -/

/-- One step down: to a member by its key, to an item by its index. -/
inductive Step where
  | key (k : String)
  | item (i : Nat)
  deriving DecidableEq, Repr

/-- `v.Reaches path w`: following `path` down from `v` leads to `w`. -/
inductive Reaches : Json → List Step → Json → Prop
  | here {v : Json} : Reaches v [] v
  | key {ms : List (String × Json)} {k : String} {v w : Json} {path : List Step} :
      (k, v) ∈ ms → Reaches v path w → Reaches (.obj ms) (.key k :: path) w
  | item {xs : List Json} {i : Nat} {v w : Json} {path : List Step} :
      xs[i]? = some v → Reaches v path w → Reaches (.arr xs) (.item i :: path) w

theorem reaches_nil {v w : Json} : v.Reaches [] w ↔ v = w := by
  constructor
  · intro h
    cases h
    rfl
  · rintro rfl
    exact .here

/-- No step of the path leads into a hidden member. -/
def Exposed (hidden : String → Bool) (path : List Step) : Prop :=
  ∀ k, .key k ∈ path → hidden k = false

/-- One value seen without what is below it: objects by their keys, arrays by their length,
scalars as they are. -/
def SameNode : Json → Json → Prop
  | .obj ms, .obj ns => ms.map Prod.fst = ns.map Prod.fst
  | .arr xs, .arr ys => xs.length = ys.length
  | v, w => v = w

/-! ## Agreement -/

mutual
/-- The values are alike but for the values of hidden members. -/
def AgreeOutside (hidden : String → Bool) : Json → Json → Prop
  | .obj ms, .obj ns => AgreeMembers hidden ms ns
  | .arr xs, .arr ys => AgreeItems hidden xs ys
  | v, w => v = w
def AgreeMembers (hidden : String → Bool) :
    List (String × Json) → List (String × Json) → Prop
  | [], [] => True
  | (k, v) :: ms, (l, w) :: ns =>
      k = l ∧ (hidden k = false → AgreeOutside hidden v w) ∧ AgreeMembers hidden ms ns
  | _, _ => False
def AgreeItems (hidden : String → Bool) : List Json → List Json → Prop
  | [], [] => True
  | v :: xs, w :: ys => AgreeOutside hidden v w ∧ AgreeItems hidden xs ys
  | _, _ => False
end

/-! ## The mask -/

mutual
/-- `cover` in place of the value of every hidden member. -/
def mask (hidden : String → Bool) (cover : Json) : Json → Json
  | .obj ms => .obj (maskMembers hidden cover ms)
  | .arr xs => .arr (maskItems hidden cover xs)
  | v => v
def maskMembers (hidden : String → Bool) (cover : Json) :
    List (String × Json) → List (String × Json)
  | [] => []
  | (k, v) :: ms =>
      (k, if hidden k then cover else mask hidden cover v) :: maskMembers hidden cover ms
def maskItems (hidden : String → Bool) (cover : Json) : List Json → List Json
  | [] => []
  | v :: xs => mask hidden cover v :: maskItems hidden cover xs
end

variable {hidden : String → Bool} {cover : Json}

/-- What the mask makes of one member. -/
def maskMember (hidden : String → Bool) (cover : Json) (m : String × Json) : String × Json :=
  (m.1, if hidden m.1 then cover else mask hidden cover m.2)

theorem maskMembers_eq_map (ms : List (String × Json)) :
    maskMembers hidden cover ms = ms.map (maskMember hidden cover) := by
  induction ms with
  | nil => rfl
  | cons m ms ih =>
      rw [maskMembers, ih]
      rfl

theorem maskItems_eq_map (xs : List Json) :
    maskItems hidden cover xs = xs.map (mask hidden cover) := by
  induction xs with
  | nil => rfl
  | cons v xs ih =>
      rw [maskItems, ih]
      rfl

theorem mask_obj (ms : List (String × Json)) :
    mask hidden cover (.obj ms) = .obj (ms.map (maskMember hidden cover)) := by
  rw [mask, maskMembers_eq_map]

theorem mask_arr (xs : List Json) :
    mask hidden cover (.arr xs) = .arr (xs.map (mask hidden cover)) := by
  rw [mask, maskItems_eq_map]

/-- The mask keeps keys, lengths and scalars. -/
theorem sameNode_mask (v : Json) : SameNode v (mask hidden cover v) := by
  cases v with
  | obj ms =>
      rw [mask_obj, SameNode, List.map_map]
      rfl
  | arr xs => rw [mask_arr, SameNode, List.length_map]
  | _ => rfl

/-! ## Transparent outside hidden members -/

theorem exposed_cons {step : Step} {path : List Step} :
    Exposed hidden (step :: path)
      ↔ (∀ k, step = .key k → hidden k = false) ∧ Exposed hidden path := by
  constructor
  · intro h
    exact ⟨fun k hk => h k (hk ▸ List.mem_cons_self), fun k hk => h k (List.mem_cons_of_mem _ hk)⟩
  · rintro ⟨hstep, hpath⟩ k hk
    rcases List.mem_cons.mp hk with heq | hmem
    · exact hstep k heq.symm
    · exact hpath k hmem

theorem reaches_mask {v w : Json} {path : List Step} (h : v.Reaches path w)
    (hexposed : Exposed hidden path) :
    (mask hidden cover v).Reaches path (mask hidden cover w) := by
  induction h with
  | here => exact .here
  | @key ms k v w path hmem _ ih =>
      obtain ⟨hk, hpath⟩ := exposed_cons.mp hexposed
      rw [mask_obj]
      refine .key ?_ (ih hpath)
      have hmasked := List.mem_map_of_mem (f := maskMember hidden cover) hmem
      rwa [maskMember, hk k rfl, if_neg Bool.false_ne_true] at hmasked
  | @item xs i v w path hget _ ih =>
      rw [mask_arr]
      refine .item ?_ (ih (exposed_cons.mp hexposed).2)
      rw [List.getElem?_map, hget]
      rfl

/-- **A place outside hidden members holds the masks of what it held.** -/
theorem reaches_mask_iff {v u : Json} {path : List Step} (hexposed : Exposed hidden path) :
    (mask hidden cover v).Reaches path u
      ↔ ∃ w, v.Reaches path w ∧ mask hidden cover w = u := by
  constructor
  · intro h
    induction path generalizing v with
    | nil => exact ⟨v, .here, reaches_nil.mp h⟩
    | cons step path ih =>
        obtain ⟨hstep, hpath⟩ := exposed_cons.mp hexposed
        cases v with
        | obj ms =>
            rw [mask_obj] at h
            cases h with
            | key hmem hrest =>
                obtain ⟨⟨k, x⟩, hx, heq⟩ := List.mem_map.mp hmem
                cases heq
                rw [hstep k rfl, if_neg Bool.false_ne_true] at hrest
                obtain ⟨w, hw, hmask⟩ := ih hpath hrest
                exact ⟨w, .key hx hw, hmask⟩
        | arr xs =>
            rw [mask_arr] at h
            cases h with
            | item hget hrest =>
                rw [List.getElem?_map, Option.map_eq_some_iff] at hget
                obtain ⟨x, hx, rfl⟩ := hget
                obtain ⟨w, hw, hmask⟩ := ih hpath hrest
                exact ⟨w, .item hx hw, hmask⟩
        | _ => cases h
  · rintro ⟨w, hw, rfl⟩
    exact reaches_mask hw hexposed

/-! ## Opaque at hidden members -/

/-- Where nothing can be reached from the cover, nothing is left below hidden members. -/
theorem exposed_of_reaches_mask (hcover : ∀ step path w, ¬ cover.Reaches (step :: path) w)
    {v u : Json} {path : List Step} {k : String}
    (h : (mask hidden cover v).Reaches (path ++ [.key k]) u) : Exposed hidden path := by
  induction path generalizing v with
  | nil =>
      intro l hl
      cases hl
  | cons step path ih =>
      cases v with
      | obj ms =>
          rw [mask_obj] at h
          cases h with
          | key hmem hrest =>
              obtain ⟨⟨l, x⟩, hx, heq⟩ := List.mem_map.mp hmem
              cases heq
              cases hl : hidden l with
              | true =>
                  rw [hl, if_pos rfl] at hrest
                  cases path <;> exact absurd hrest (hcover _ _ _)
              | false =>
                  rw [hl, if_neg Bool.false_ne_true] at hrest
                  refine exposed_cons.mpr ⟨?_, ih hrest⟩
                  rintro m ⟨rfl⟩
                  exact hl
      | arr xs =>
          rw [mask_arr] at h
          cases h with
          | item hget hrest =>
              rw [List.getElem?_map, Option.map_eq_some_iff] at hget
              obtain ⟨x, hx, rfl⟩ := hget
              refine exposed_cons.mpr ⟨?_, ih hrest⟩
              rintro m ⟨⟩
      | _ => cases h

/-- One step further: a path that ends in a key ends at an object's member. -/
theorem reaches_append_key {v u : Json} {path : List Step} {k : String} :
    v.Reaches (path ++ [.key k]) u ↔ ∃ ms, v.Reaches path (.obj ms) ∧ (k, u) ∈ ms := by
  induction path generalizing v with
  | nil =>
      constructor
      · intro h
        cases h with
        | key hmem hrest =>
            cases hrest
            exact ⟨_, .here, hmem⟩
      · rintro ⟨ms, hms, hmem⟩
        cases hms
        exact .key hmem .here
  | cons step path ih =>
      constructor
      · intro h
        cases h with
        | key hmem hrest =>
            obtain ⟨ms, hms, hk⟩ := ih.mp hrest
            exact ⟨ms, .key hmem hms, hk⟩
        | item hget hrest =>
            obtain ⟨ms, hms, hk⟩ := ih.mp hrest
            exact ⟨ms, .item hget hms, hk⟩
      · rintro ⟨ms, hms, hk⟩
        cases hms with
        | key hmem hrest => exact .key hmem (ih.mpr ⟨ms, hrest, hk⟩)
        | item hget hrest => exact .item hget (ih.mpr ⟨ms, hrest, hk⟩)

/-- **Every hidden member holds the cover.** -/
theorem covered_of_reaches_mask (hcover : ∀ step path w, ¬ cover.Reaches (step :: path) w)
    {v u : Json} {path : List Step} {k : String} (hk : hidden k = true)
    (h : (mask hidden cover v).Reaches (path ++ [.key k]) u) : u = cover := by
  have hexposed := exposed_of_reaches_mask hcover h
  obtain ⟨ms, hms, hmem⟩ := reaches_append_key.mp h
  obtain ⟨w, -, hmask⟩ := (reaches_mask_iff hexposed).mp hms
  cases w with
  | obj ns =>
      rw [mask_obj] at hmask
      cases hmask
      obtain ⟨⟨l, x⟩, -, heq⟩ := List.mem_map.mp hmem
      cases heq
      exact if_pos hk
  | arr xs =>
      rw [mask_arr] at hmask
      cases hmask
  | _ => cases hmask

/-! ## What a mask tells -/

mutual
/-- **Two values have one mask exactly when they agree outside hidden members.** -/
theorem mask_eq_mask_iff : ∀ v w : Json,
    mask hidden cover v = mask hidden cover w ↔ AgreeOutside hidden v w
  | .obj ms, w => by
      cases w with
      | obj ns => rw [mask, mask, AgreeOutside, Json.obj.injEq, maskMembers_eq_iff ms ns]
      | _ => simp [mask, AgreeOutside]
  | .arr xs, w => by
      cases w with
      | arr ys => rw [mask, mask, AgreeOutside, Json.arr.injEq, maskItems_eq_iff xs ys]
      | _ => simp [mask, AgreeOutside]
  | .null, w => by cases w <;> simp [mask, AgreeOutside]
  | .bool _, w => by cases w <;> simp [mask, AgreeOutside]
  | .int _, w => by cases w <;> simp [mask, AgreeOutside]
  | .float _, w => by cases w <;> simp [mask, AgreeOutside]
  | .str _, w => by cases w <;> simp [mask, AgreeOutside]
theorem maskMembers_eq_iff : ∀ ms ns : List (String × Json),
    maskMembers hidden cover ms = maskMembers hidden cover ns ↔ AgreeMembers hidden ms ns
  | [], ns => by cases ns <;> simp [maskMembers, AgreeMembers]
  | (k, v) :: ms, ns => by
      cases ns with
      | nil => simp [maskMembers, AgreeMembers]
      | cons n ns =>
          obtain ⟨l, w⟩ := n
          rw [maskMembers, maskMembers, AgreeMembers, List.cons.injEq, Prod.mk.injEq, and_assoc,
            maskMembers_eq_iff ms ns]
          refine and_congr_right ?_
          rintro rfl
          refine and_congr_left' ?_
          cases hk : hidden k with
          | true => simp
          | false => simp [mask_eq_mask_iff v w]
theorem maskItems_eq_iff : ∀ xs ys : List Json,
    maskItems hidden cover xs = maskItems hidden cover ys ↔ AgreeItems hidden xs ys
  | [], ys => by cases ys <;> simp [maskItems, AgreeItems]
  | v :: xs, ys => by
      cases ys with
      | nil => simp [maskItems, AgreeItems]
      | cons w ys =>
          rw [maskItems, maskItems, AgreeItems, List.cons.injEq, mask_eq_mask_iff v w,
            maskItems_eq_iff xs ys]
end

mutual
/-- **A mask is its own mask.** -/
theorem mask_mask : ∀ v : Json, mask hidden cover (mask hidden cover v) = mask hidden cover v
  | .obj ms => by rw [mask, mask, maskMembers_maskMembers ms]
  | .arr xs => by rw [mask, mask, maskItems_maskItems xs]
  | .null | .bool _ | .int _ | .float _ | .str _ => rfl
theorem maskMembers_maskMembers : ∀ ms : List (String × Json),
    maskMembers hidden cover (maskMembers hidden cover ms) = maskMembers hidden cover ms
  | [] => rfl
  | (k, v) :: ms => by
      rw [maskMembers, maskMembers, maskMembers_maskMembers ms]
      cases hk : hidden k with
      | true => simp
      | false => simp [mask_mask v]
theorem maskItems_maskItems : ∀ xs : List Json,
    maskItems hidden cover (maskItems hidden cover xs) = maskItems hidden cover xs
  | [] => rfl
  | v :: xs => by rw [maskItems, maskItems, mask_mask v, maskItems_maskItems xs]
end

end Lib.Json
