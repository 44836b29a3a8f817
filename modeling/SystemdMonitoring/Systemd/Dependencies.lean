/-
# `SystemdMonitoring.Systemd.Dependencies` — each broken dependency once

`classify_failed_dependencies` looks every name of two lists up among the rows,
sorts what is broken by unit and relationship, and drops adjacent repetitions.
An entry is determined by its unit and its relationship (`broken_unique`), so
equal keys are equal entries, the sort brings them together, and what is left
is strictly increasing and has lost nothing (`pairwise_dedupFrom`,
`mem_dedupFrom`).

A strictly increasing list is known by its members, and those depend on the
members of the inputs alone (`classify_exact`).
-/
import Mathlib.Data.Prod.Lex
import SystemdMonitoring.Systemd.Listings

namespace SystemdMonitoring

open Lib Lib.Text

/-! ## Sorted and without repetition -/

/-- What the entries are sorted by, and told apart by. -/
def FailedDependency.key (dependency : FailedDependency) : String ×ₗ String :=
  toLex (dependency.unit, dependency.relationship)

theorem key_lt_iff {left right : FailedDependency} :
    left.key < right.key ↔ left.unit < right.unit
      ∨ (left.unit = right.unit ∧ left.relationship < right.relationship) :=
  Prod.Lex.toLex_lt_toLex

theorem key_eq_iff {left right : FailedDependency} :
    left.key = right.key ↔ left.unit = right.unit ∧ left.relationship = right.relationship := by
  rw [FailedDependency.key, FailedDependency.key, EmbeddingLike.apply_eq_iff_eq, Prod.mk.injEq]

theorem le_eq_decide_key (left right : FailedDependency) :
    left.le right = decide (left.key ≤ right.key) := by
  rw [Bool.eq_iff_iff, decide_eq_true_eq, FailedDependency.key, FailedDependency.key,
    Prod.Lex.toLex_le_toLex, FailedDependency.le]
  by_cases hunit : left.unit = right.unit
  · simp [hunit]
  · rw [if_neg hunit, decide_eq_true_eq, le_iff_lt_or_eq]
    simp [hunit]

/-- **Nothing is lost**: what repeats the key of the entry that is kept is that entry. -/
theorem mem_dedupFrom {kept : FailedDependency} {rest : List FailedDependency}
    (hkey : ∀ a ∈ kept :: rest, ∀ b ∈ kept :: rest, a.key = b.key → a = b)
    {dependency : FailedDependency} :
    dependency ∈ dedupFrom kept rest ↔ dependency ∈ kept :: rest := by
  induction rest generalizing kept with
  | nil => exact Iff.rfl
  | cons next rest ih =>
      have hrest : ∀ a ∈ next :: rest, ∀ b ∈ next :: rest, a.key = b.key → a = b := by
        intro a ha b hb
        exact hkey a (List.mem_cons_of_mem _ ha) b (List.mem_cons_of_mem _ hb)
      rw [dedupFrom]
      split
      case isTrue hsame =>
        have heq : next = kept :=
          hkey next (by simp) kept List.mem_cons_self (key_eq_iff.mpr hsame)
        subst heq
        rw [ih hrest]
        simp
      case isFalse =>
        rw [List.mem_cons, ih hrest, ← List.mem_cons]

/-- **Nothing is repeated.** -/
theorem pairwise_dedupFrom {kept : FailedDependency} {rest : List FailedDependency}
    (hsorted : (kept :: rest).Pairwise (fun left right => left.key ≤ right.key)) :
    (dedupFrom kept rest).Pairwise (fun left right => left.key < right.key)
      ∧ ∀ dependency ∈ dedupFrom kept rest, kept.key ≤ dependency.key := by
  induction rest generalizing kept with
  | nil =>
      refine ⟨List.pairwise_singleton _ _, ?_⟩
      intro dependency hmem
      rw [List.mem_singleton.mp hmem]
  | cons next rest ih =>
      obtain ⟨hkept, hrest⟩ := List.pairwise_cons.mp hsorted
      rw [dedupFrom]
      split
      case isTrue =>
        exact ih (List.pairwise_cons.mpr
          ⟨fun b hb => hkept b (List.mem_cons_of_mem _ hb), (List.pairwise_cons.mp hrest).2⟩)
      case isFalse hdiffers =>
        obtain ⟨hstrict, hfrom⟩ := ih hrest
        have hlt : kept.key < next.key := by
          refine lt_of_le_of_ne (hkept next List.mem_cons_self) ?_
          intro heq
          exact hdiffers (key_eq_iff.mp heq.symm)
        refine ⟨List.pairwise_cons.mpr ⟨fun b hb => hlt.trans_le (hfrom b hb), hstrict⟩, ?_⟩
        intro dependency hmem
        rcases List.mem_cons.mp hmem with rfl | hmem
        · exact le_rfl
        · exact hlt.le.trans (hfrom dependency hmem)

/-! ## What is broken -/

/-- The state of a dependency in the rows, when it is broken: it has no row, or its row is failed
or not loaded. -/
def Broken (rows : List RawUnit) (dependency : FailedDependency) : Prop :=
  (∀ row ∈ rows, row.name ≠ dependency.unit)
      ∧ dependency.loadState = "not-found" ∧ dependency.activeState = "inactive"
      ∧ dependency.subState = "dead"
    ∨ ∃ row ∈ rows, row.name = dependency.unit
      ∧ (eqIgnoreAsciiCase row.activeState "failed" = true
        ∨ eqIgnoreAsciiCase row.loadState "loaded" = false)
      ∧ dependency.loadState = row.loadState ∧ dependency.activeState = row.activeState
      ∧ dependency.subState = row.subState

/-- The map from names to rows. -/
def rowsByName (rows : List RawUnit) : List (String × RawUnit) :=
  (rows.map (fun row => (row.name, row))).reverse

theorem mem_rowsByName {rows : List RawUnit} {name : String} {row : RawUnit} :
    (name, row) ∈ rowsByName rows ↔ row ∈ rows ∧ row.name = name := by
  rw [rowsByName, List.mem_reverse, List.mem_map]
  constructor
  · rintro ⟨found, hfound, heq⟩
    cases heq
    exact ⟨hfound, rfl⟩
  · rintro ⟨hrow, rfl⟩
    exact ⟨row, hrow, rfl⟩

theorem lookup_rowsByName {rows : List RawUnit} (hnodup : (rows.map RawUnit.name).Nodup)
    {row : RawUnit} (hrow : row ∈ rows) : (rowsByName rows).lookup row.name = some row := by
  refine lookup_of_mem ?_ (mem_rowsByName.mpr ⟨hrow, rfl⟩)
  rw [rowsByName, List.map_reverse, List.nodup_reverse, List.map_map]
  exact hnodup

/-- A dependency's entry, when it is broken. -/
theorem brokenDependency_eq_some_iff {rows : List RawUnit}
    (hnodup : (rows.map RawUnit.name).Nodup) {relationship name : String}
    {dependency : FailedDependency} :
    brokenDependency relationship name ((rowsByName rows).lookup name) = some dependency
      ↔ (dependency.unit = name ∧ dependency.relationship = relationship
        ∧ dependency.result = none) ∧ Broken rows dependency := by
  obtain ⟨unit, related, loadState, activeState, subState, result⟩ := dependency
  dsimp only [Broken]
  cases hlookup : (rowsByName rows).lookup name with
  | none =>
      have hmissing : ∀ row ∈ rows, row.name ≠ name := by
        intro row hrow hname
        have hfound := lookup_rowsByName hnodup hrow
        rw [hname, hlookup] at hfound
        cases hfound
      simp only [brokenDependency, Option.some.injEq, FailedDependency.mk.injEq]
      constructor
      · rintro ⟨rfl, rfl, rfl, rfl, rfl, rfl⟩
        exact ⟨⟨rfl, rfl, rfl⟩, .inl ⟨hmissing, rfl, rfl, rfl⟩⟩
      · rintro ⟨⟨rfl, rfl, rfl⟩, ⟨-, rfl, rfl, rfl⟩ | ⟨row, hrow, hname, -⟩⟩
        · exact ⟨rfl, rfl, rfl, rfl, rfl, rfl⟩
        · exact absurd hname (hmissing row hrow)
  | some row =>
      obtain ⟨hrow, rfl⟩ := mem_rowsByName.mp (mem_of_lookup hlookup)
      have honly : ∀ other ∈ rows, other.name = row.name → other = row := by
        intro other hother hname
        have hfound := lookup_rowsByName hnodup hother
        rw [hname, hlookup] at hfound
        exact (Option.some.inj hfound).symm
      rw [brokenDependency]
      constructor
      · intro h
        split at h
        case isTrue hbroken =>
          cases h
          refine ⟨⟨rfl, rfl, rfl⟩, .inr ⟨row, hrow, rfl, ?_, rfl, rfl, rfl⟩⟩
          simpa using hbroken
        case isFalse => cases h
      · rintro ⟨⟨rfl, rfl, rfl⟩, ⟨hmissing, -⟩ | ⟨other, hother, hname, hbroken, rfl, rfl, rfl⟩⟩
        · exact absurd rfl (hmissing row hrow)
        · cases honly other hother hname
          rw [if_pos (by simpa using hbroken)]

/-- The names that stand in a relationship. -/
def relatedNames (requires wants : List String) (relationship : String) : List String :=
  if relationship = "requires" then requires
  else if relationship = "wants" then wants
  else []

/-- Everything that is reported of two lists of names, before it is sorted. -/
def brokenDependencies (requires wants : List String) (rows : List RawUnit) :
    List FailedDependency :=
  requires.filterMap (fun name =>
    brokenDependency "requires" name ((rowsByName rows).lookup name))
  ++ wants.filterMap (fun name => brokenDependency "wants" name ((rowsByName rows).lookup name))

theorem mem_brokenDependencies {requires wants : List String} {rows : List RawUnit}
    (hnodup : (rows.map RawUnit.name).Nodup) {dependency : FailedDependency} :
    dependency ∈ brokenDependencies requires wants rows
      ↔ (dependency.unit ∈ relatedNames requires wants dependency.relationship
        ∧ dependency.result = none) ∧ Broken rows dependency := by
  rw [brokenDependencies, List.mem_append, List.mem_filterMap, List.mem_filterMap]
  simp only [brokenDependency_eq_some_iff hnodup, relatedNames]
  constructor
  · rintro (⟨name, hname, ⟨rfl, hrelated, hresult⟩, hbroken⟩ |
      ⟨name, hname, ⟨rfl, hrelated, hresult⟩, hbroken⟩)
    · rw [hrelated, if_pos rfl]
      exact ⟨⟨hname, hresult⟩, hbroken⟩
    · rw [hrelated, if_neg (by decide), if_pos rfl]
      exact ⟨⟨hname, hresult⟩, hbroken⟩
  · rintro ⟨⟨hname, hresult⟩, hbroken⟩
    split at hname
    case isTrue hrelated => exact .inl ⟨_, hname, ⟨rfl, hrelated, hresult⟩, hbroken⟩
    case isFalse =>
      split at hname
      case isTrue hrelated => exact .inr ⟨_, hname, ⟨rfl, hrelated, hresult⟩, hbroken⟩
      case isFalse => cases hname

/-- Equal keys are equal entries. -/
theorem broken_unique {requires wants : List String} {rows : List RawUnit}
    (hnodup : (rows.map RawUnit.name).Nodup) {left right : FailedDependency}
    (hleft : left ∈ brokenDependencies requires wants rows)
    (hright : right ∈ brokenDependencies requires wants rows) (hkey : left.key = right.key) :
    left = right := by
  obtain ⟨⟨-, hresult⟩, hbroken⟩ := (mem_brokenDependencies hnodup).mp hleft
  obtain ⟨⟨-, hresult'⟩, hbroken'⟩ := (mem_brokenDependencies hnodup).mp hright
  obtain ⟨hunit, hrelated⟩ := key_eq_iff.mp hkey
  have heq := (brokenDependency_eq_some_iff hnodup).mpr ⟨⟨rfl, rfl, hresult⟩, hbroken⟩
  have heq' := (brokenDependency_eq_some_iff hnodup).mpr ⟨⟨rfl, rfl, hresult'⟩, hbroken'⟩
  rw [hunit, hrelated, heq'] at heq
  exact (Option.some.inj heq).symm

/-! ## The classification -/

theorem classify_of_unique {requires wants : List String} {rows : List RawUnit}
    (hunique : ∀ left ∈ brokenDependencies requires wants rows,
      ∀ right ∈ brokenDependencies requires wants rows, left.key = right.key → left = right) :
    (classifyFailedDependencies requires wants rows).Pairwise
        (fun left right => left.key < right.key)
      ∧ ∀ dependency, dependency ∈ classifyFailedDependencies requires wants rows
        ↔ dependency ∈ brokenDependencies requires wants rows := by
  have hle : FailedDependency.le = fun left right => decide (left.key ≤ right.key) :=
    funext fun left => funext fun right => le_eq_decide_key left right
  have hsorted := pairwise_mergeSort_key FailedDependency.key
    (brokenDependencies requires wants rows)
  rw [← hle] at hsorted
  have hmem : ∀ dependency, dependency ∈ (brokenDependencies requires wants rows).mergeSort
      FailedDependency.le ↔ dependency ∈ brokenDependencies requires wants rows :=
    fun _ => List.mem_mergeSort
  have hentries : ∀ entries, (brokenDependencies requires wants rows).mergeSort
      FailedDependency.le = entries →
      entries.Pairwise (fun left right => left.key ≤ right.key)
        ∧ ∀ dependency, dependency ∈ entries
          ↔ dependency ∈ brokenDependencies requires wants rows := by
    rintro entries rfl
    exact ⟨hsorted, hmem⟩
  rw [classifyFailedDependencies]
  split
  case h_1 hlist => exact ⟨List.Pairwise.nil, (hentries _ hlist).2⟩
  case h_2 first rest hlist =>
    obtain ⟨hsorted, hmem⟩ := hentries _ hlist
    refine ⟨(pairwise_dedupFrom hsorted).1, ?_⟩
    intro dependency
    refine (mem_dedupFrom ?_).trans (hmem dependency)
    intro a ha b hb
    exact hunique a ((hmem a).mp ha) b ((hmem b).mp hb)

theorem classify_spec (requires wants : List String) {rows : List RawUnit}
    (hnodup : (rows.map RawUnit.name).Nodup) :
    (classifyFailedDependencies requires wants rows).Pairwise
        (fun left right => left.key < right.key)
      ∧ ∀ dependency, dependency ∈ classifyFailedDependencies requires wants rows
        ↔ dependency ∈ brokenDependencies requires wants rows :=
  classify_of_unique fun _ hleft _ hright => broken_unique hnodup hleft hright

/-- **Dependency classification reports each broken direct dependency exactly once**: in strict
order, one entry for every broken name of every relationship, with the states of its row; and it
depends on which names are related and which rows there are, not on their order or number. -/
theorem classify_exact (requires wants : List String) {rows : List RawUnit}
    (hnodup : (rows.map RawUnit.name).Nodup) :
    (classifyFailedDependencies requires wants rows).Pairwise (fun left right =>
        left.unit < right.unit
          ∨ (left.unit = right.unit ∧ left.relationship < right.relationship))
      ∧ (∀ dependency, dependency ∈ classifyFailedDependencies requires wants rows
        ↔ (dependency.unit ∈ relatedNames requires wants dependency.relationship
          ∧ dependency.result = none) ∧ Broken rows dependency)
      ∧ ∀ requires' wants' rows', (∀ name, name ∈ requires ↔ name ∈ requires') →
        (∀ name, name ∈ wants ↔ name ∈ wants') → rows.Perm rows' →
        classifyFailedDependencies requires wants rows
          = classifyFailedDependencies requires' wants' rows' := by
  obtain ⟨hsorted, hmem⟩ := classify_spec requires wants hnodup
  refine ⟨hsorted.imp key_lt_iff.mp, fun dependency =>
    (hmem dependency).trans (mem_brokenDependencies hnodup), ?_⟩
  intro requires' wants' rows' hrequires hwants hperm
  have hnodup' := (hperm.map RawUnit.name).nodup_iff.mp hnodup
  obtain ⟨hsorted', hmem'⟩ := classify_spec requires' wants' hnodup'
  refine eq_of_pairwise_lt hsorted hsorted' ?_
  intro dependency
  have hrelated : ∀ relationship, dependency.unit ∈ relatedNames requires wants relationship
      ↔ dependency.unit ∈ relatedNames requires' wants' relationship := by
    intro relationship
    rw [relatedNames, relatedNames]
    split
    · exact hrequires _
    · split
      · exact hwants _
      · exact Iff.rfl
  rw [hmem, hmem', mem_brokenDependencies hnodup, mem_brokenDependencies hnodup', hrelated]
  simp only [Broken, hperm.mem_iff]

/-- A name that is required twice is reported as if it were required once. -/
theorem classify_exact_repeated :
    classifyFailedDependencies ["db.service", "a.mount", "db.service"] ["db.service"]
        [⟨"db.service", "Database", "loaded", "failed", "failed", "/db"⟩]
      = classifyFailedDependencies ["a.mount", "db.service"] ["db.service", "db.service"]
        [⟨"db.service", "Database", "loaded", "failed", "failed", "/db"⟩] :=
  (@classify_exact ["db.service", "a.mount", "db.service"] ["db.service"]
    [⟨"db.service", "Database", "loaded", "failed", "failed", "/db"⟩]
    (by decide)).2.2 _ _ _ (by simp [or_comm]) (by simp) (List.Perm.refl _)

end SystemdMonitoring
