/-
# `SystemdMonitoring.Domain.ListedRows` — the rows that listings return

`list_services` and `list_timers` go through five stages: the rows of each
manager by name, the two managers combined, the filters, the order that is
asked for, and the cut.  What comes out is described from the managers' answers
alone (`listings_exact`): the rows of all managers that answered, filtered, are
a multiset; the page is the front of the one list of them in which every row
precedes the later ones, by the order asked for and, where that ties, the
system's row before the user's.

The comparators are transitive and total, and rows they tie have one name.
With distinct names in each manager a tie is thus a system row and a user row,
and the stable sorts keep those in the order of the managers.
-/
import Mathlib.Data.Multiset.Filter
import SystemdMonitoring.Domain.Tools.Services
import SystemdMonitoring.Domain.Tools.Timers
import SystemdMonitoring.Provider
import SystemdMonitoring.Systemd.Enrichment

namespace SystemdMonitoring

open Lib Lib.Text

/-! ## Comparators -/

/-- How `sort_services` compares. -/
def serviceLE (failedFirst : Bool) (left right : UnitStatus) : Bool :=
  if failedFirst then
    let leftFailed := eqIgnoreAsciiCase left.activeState "failed"
    let rightFailed := eqIgnoreAsciiCase right.activeState "failed"
    if leftFailed = rightFailed then left.unit ≤ right.unit else leftFailed
  else left.unit ≤ right.unit

theorem serviceLE_eq_true_iff {failedFirst : Bool} {left right : UnitStatus} :
    serviceLE failedFirst left right = true ↔
      (if failedFirst = true ∧ eqIgnoreAsciiCase left.activeState "failed"
          ≠ eqIgnoreAsciiCase right.activeState "failed" then
        eqIgnoreAsciiCase left.activeState "failed" = true
      else left.unit ≤ right.unit) := by
  rw [serviceLE]
  cases failedFirst with
  | false => simp
  | true =>
      by_cases h : eqIgnoreAsciiCase left.activeState "failed"
          = eqIgnoreAsciiCase right.activeState "failed"
      · simp [h]
      · simp [h]

theorem comparison_serviceLE (failedFirst : Bool) : Comparison (serviceLE failedFirst) where
  trans a b c hab hbc := by
    rw [serviceLE_eq_true_iff] at *
    revert hab hbc
    generalize eqIgnoreAsciiCase a.activeState "failed" = fa
    generalize eqIgnoreAsciiCase b.activeState "failed" = fb
    generalize eqIgnoreAsciiCase c.activeState "failed" = fc
    have htrans := @le_trans _ _ a.unit b.unit c.unit
    cases failedFirst <;> cases fa <;> cases fb <;> cases fc <;> simp <;> exact htrans
  total a b := by
    rw [Bool.or_eq_true, serviceLE_eq_true_iff, serviceLE_eq_true_iff]
    generalize eqIgnoreAsciiCase a.activeState "failed" = fa
    generalize eqIgnoreAsciiCase b.activeState "failed" = fb
    have htotal := le_total a.unit b.unit
    cases failedFirst <;> cases fa <;> cases fb <;> simp <;> exact htotal

theorem unit_le_of_serviceLE_tie {failedFirst : Bool} {left right : UnitStatus}
    (h : serviceLE failedFirst left right = true) (h' : serviceLE failedFirst right left = true) :
    right.unit ≤ left.unit := by
  rw [serviceLE_eq_true_iff] at h h'
  revert h h'
  generalize eqIgnoreAsciiCase left.activeState "failed" = fl
  generalize eqIgnoreAsciiCase right.activeState "failed" = fr
  cases failedFirst <;> cases fl <;> cases fr <;> simp

instance transCmp_compareOptionalI64NoneLast (descending : Bool) :
    Std.TransCmp (fun left right => compareOptionalI64NoneLast left right descending) where
  eq_swap {left right} := by
    cases left with
    | none => cases right <;> rfl
    | some left =>
        cases right with
        | none => rfl
        | some right => cases descending <;> exact Std.OrientedOrd.eq_swap
  isLE_trans {a b c} hab hbc := by
    cases a with
    | none =>
        cases c with
        | none => rfl
        | some c =>
            cases b with
            | none => exact absurd hbc Bool.false_ne_true
            | some b => exact absurd hab Bool.false_ne_true
    | some a =>
        cases b with
        | none =>
            cases c with
            | none => rfl
            | some c => exact absurd hbc Bool.false_ne_true
        | some b =>
            cases c with
            | none => rfl
            | some c =>
                cases descending with
                | false => exact Std.TransOrd.isLE_trans hab hbc
                | true => exact Std.TransOrd.isLE_trans hbc hab

/-- What is compared before the names. -/
def compareTimerKeys (sort order : String) (left right : TimerItem) : Ordering :=
  let isDesc := eqIgnoreAsciiCase order "desc"
  if sort = "next" then
    compareOptionalI64NoneLast left.timeUntilNextSec right.timeUntilNextSec isDesc
  else if sort = "last" then
    compareOptionalI64NoneLast left.timeSinceLastSec right.timeSinceLastSec isDesc
  else if sort = "state" then compare left.activeState right.activeState
  else .eq

instance transCmp_compareTimerKeys (sort order : String) :
    Std.TransCmp (compareTimerKeys sort order) := by
  have hoptional := fun (key : TimerItem → Option Int) =>
    transCmp_on (fun left right =>
      compareOptionalI64NoneLast left right (eqIgnoreAsciiCase order "desc")) key
  unfold compareTimerKeys
  by_cases hnext : sort = "next"
  · simp only [if_pos hnext]
    exact hoptional TimerItem.timeUntilNextSec
  · by_cases hlast : sort = "last"
    · simp only [if_neg hnext, if_pos hlast]
      exact hoptional TimerItem.timeSinceLastSec
    · by_cases hstate : sort = "state"
      · simp only [if_neg hnext, if_neg hlast, if_pos hstate]
        exact transCmp_on compare TimerItem.activeState
      · simp only [if_neg hnext, if_neg hlast, if_neg hstate]
        exact { eq_swap := rfl, isLE_trans := fun h _ => h }

/-- Every comparator of timers ends with the names, and may be turned around. -/
theorem compareTimerItems_eq (sort order : String) (left right : TimerItem) :
    compareTimerItems sort order left right =
      if eqIgnoreAsciiCase order "desc" && sort != "next" && sort != "last" then
        ((compareTimerKeys sort order left right).then (compare left.unit right.unit)).swap
      else (compareTimerKeys sort order left right).then (compare left.unit right.unit) := by
  have hcmp : (if sort = "next" then
        (compareOptionalI64NoneLast left.timeUntilNextSec right.timeUntilNextSec
          (eqIgnoreAsciiCase order "desc")).then (compare left.unit right.unit)
      else if sort = "last" then
        (compareOptionalI64NoneLast left.timeSinceLastSec right.timeSinceLastSec
          (eqIgnoreAsciiCase order "desc")).then (compare left.unit right.unit)
      else if sort = "state" then
        (compare left.activeState right.activeState).then (compare left.unit right.unit)
      else compare left.unit right.unit)
      = (compareTimerKeys sort order left right).then (compare left.unit right.unit) := by
    rw [compareTimerKeys]
    split_ifs <;> rfl
  rw [compareTimerItems, hcmp]

theorem transCmp_compareTimerItems (sort order : String) :
    Std.TransCmp (compareTimerItems sort order) := by
  have hnames : Std.TransCmp (compareLex (compareTimerKeys sort order)
      (compareOn TimerItem.unit)) := inferInstance
  rw [show compareTimerItems sort order = _ from
    funext fun left => funext fun right => compareTimerItems_eq sort order left right]
  by_cases hswap : (eqIgnoreAsciiCase order "desc" && sort != "next" && sort != "last") = true
  · simp only [if_pos hswap]
    exact transCmp_swap (compareLex (compareTimerKeys sort order) (compareOn TimerItem.unit))
  · simp only [if_neg hswap]
    exact hnames

theorem unit_of_compareTimerItems_eq {sort order : String} {left right : TimerItem}
    (h : compareTimerItems sort order left right = .eq) : left.unit = right.unit := by
  have hthen : (compareTimerKeys sort order left right).then (compare left.unit right.unit)
      = .eq := by
    rw [compareTimerItems_eq] at h
    split at h
    · exact Ordering.swap_eq_eq.mp h
    · exact h
  exact compare_eq_iff_eq.mp (Ordering.then_eq_eq.mp hthen).2

/-! ## The managers that answer -/

/-- The managers that a scope stands for. -/
def requestedManagers : UnitScope → List UnitScope
  | .system => [.system]
  | .user => [.user]
  | .both => [.system, .user]

/-- No manager of the scope can be asked for its units. -/
def AllFail (answers : Snapshot) (scope : UnitScope) : Prop :=
  ∀ manager ∈ requestedManagers scope, managerUnits answers manager = none

/-- No manager lists two units of one name. -/
def DistinctNames (answers : Snapshot) : Prop :=
  ∀ manager rawUnits, managerUnits answers manager = some rawUnits →
    (rawUnits.map RawUnit.name).Nodup

section Combined

variable {α : Type}

/-- The rows of a manager, or none where it does not answer. -/
def managerRows (answers : Snapshot) (rows : UnitScope → List RawUnit → List α)
    (manager : UnitScope) : List α :=
  ((managerUnits answers manager).map (rows manager)).getD []

/-- The rows of all the managers that answer. -/
def answeredRows (answers : Snapshot) (rows : UnitScope → List RawUnit → List α)
    (scope : UnitScope) : List α :=
  (requestedManagers scope).flatMap (managerRows answers rows)

/-- A system row in front of a user row. -/
def SystemFirst (tag : α → String) (left right : α) : Prop :=
  tag left = "system" ∧ tag right = "user"

theorem systemFirst_asymm (tag : α → String) (left right : α) (h : SystemFirst tag left right) :
    ¬ SystemFirst tag right left := by
  intro h'
  rw [SystemFirst, h.2] at h'
  exact absurd h'.1 (by decide)

/-- The order of names. -/
def nameLE (key : α → String) (left right : α) : Bool := key left ≤ key right

/-- What a listing of both kinds comes to: an error when every manager fails, and otherwise the
rows of those that answer, by name and the system's first. -/
structure Combined (answers : Snapshot) (rows : UnitScope → List RawUnit → List α)
    (key tag : α → String) (scope : UnitScope) (answer : Except AppError (List α)) : Prop where
  fails : answer.toOption = none ↔ AllFail answers scope
  perm : ∀ listed, answer = .ok listed → listed.Perm (answeredRows answers rows scope)
  sorted : ∀ listed, answer = .ok listed →
    listed.Pairwise (Precedes (nameLE key) (SystemFirst tag))

variable {answers : Snapshot} {rows listing : UnitScope → List RawUnit → List α}
  {key tag : α → String}

/-- What is known of a manager's listing: its rows, by name, under its own tag. -/
structure ManagerListing (answers : Snapshot) (rows listing : UnitScope → List RawUnit → List α)
    (key tag : α → String) : Prop where
  perm : ∀ manager rawUnits, managerUnits answers manager = some rawUnits →
    (listing manager rawUnits).Perm (rows manager rawUnits)
  sorted : ∀ manager rawUnits, managerUnits answers manager = some rawUnits →
    (listing manager rawUnits).Pairwise (fun left right => key left < key right)
  tagged : ∀ manager rawUnits, ∀ row ∈ rows manager rawUnits, tag row = manager.asStr

theorem managerListing_rows (h : ManagerListing answers rows listing key tag)
    (manager : UnitScope) :
    (managerRows answers listing manager).Perm (managerRows answers rows manager)
      ∧ (managerRows answers listing manager).Pairwise (fun left right => key left < key right)
      ∧ ∀ row ∈ managerRows answers listing manager, tag row = manager.asStr := by
  rw [managerRows, managerRows]
  cases hunits : managerUnits answers manager with
  | none => exact ⟨List.Perm.refl _, List.Pairwise.nil, fun row hrow => by cases hrow⟩
  | some rawUnits =>
      have hperm := h.perm manager rawUnits hunits
      refine ⟨hperm, h.sorted manager rawUnits hunits, ?_⟩
      intro row hrow
      exact h.tagged manager rawUnits row (hperm.mem_iff.mp hrow)

/-- Rows in strict order do not tie. -/
theorem precedes_of_lt {Before : α → α → Prop} {left right : α} (h : key left < key right) :
    Precedes (nameLE key) Before left right :=
  ⟨decide_eq_true h.le, fun hle => absurd (of_decide_eq_true hle) (not_le.mpr h)⟩

/-- A listing of one manager. -/
theorem combined_single (h : ManagerListing answers rows listing key tag) {scope : UnitScope}
    (hscope : scope ≠ .both) {p : HostTry (List α)}
    (hp : Finds answers p ((managerUnits answers scope).map (listing scope))) :
    ∃ answer, p.run.under answers = .done answer
      ∧ Combined answers rows key tag scope answer := by
  obtain ⟨answer, hanswer, hfound⟩ := hp
  obtain ⟨hperm, hsorted, -⟩ := managerListing_rows h scope
  have hmanagers : requestedManagers scope = [scope] := by
    cases scope with
    | system => rfl
    | user => rfl
    | both => exact absurd rfl hscope
  have hlisted : ∀ listed, answer = .ok listed → listed = managerRows answers listing scope := by
    rintro listed rfl
    rw [managerRows, ← hfound]
    rfl
  refine ⟨answer, hanswer, ?_, ?_, ?_⟩
  · rw [hfound, AllFail, hmanagers]
    simp
  · intro listed heq
    rw [answeredRows, hmanagers, List.flatMap_singleton, hlisted listed heq]
    exact hperm
  · intro listed heq
    rw [hlisted listed heq]
    exact hsorted.imp precedes_of_lt

theorem combineScopeRowsByKey_eq (system user : Except AppError (List α)) (unitKind : String)
    (key : α → String) :
    (combineScopeRowsByKey system user unitKind key).toOption =
      if system.toOption = none ∧ user.toOption = none then none
      else some ((system.toOption.getD [] ++ user.toOption.getD []).mergeSort (nameLE key)) := by
  cases system with
  | error err => cases user <;> rfl
  | ok rows => cases user <;> rfl

/-- Rows that have been combined are those of both managers. -/
theorem eq_of_combineScopeRowsByKey {system user : Except AppError (List α)} {unitKind : String}
    {key : α → String} {listed : List α}
    (h : combineScopeRowsByKey system user unitKind key = .ok listed) :
    listed = (system.toOption.getD [] ++ user.toOption.getD []).mergeSort (nameLE key) := by
  have hanswer := combineScopeRowsByKey_eq system user unitKind key
  rw [h] at hanswer
  split at hanswer
  · cases hanswer
  · exact Option.some.inj hanswer

/-- Both managers are asked, whatever the first answers. -/
theorem under_bothScopes (unitKind : String) (key : α → String)
    {single : UnitScope → HostTry (List α)} {system user : Except AppError (List α)}
    (hsystem : (single .system).run.under answers = .done system)
    (huser : (single .user).run.under answers = .done user) :
    (bothScopes unitKind key single).run.under answers
      = .done (combineScopeRowsByKey system user unitKind key) :=
  (Prog.under_bind hsystem _).trans (Prog.under_bind huser _)

/-- The rows of both managers, the system's first, sorted by name. -/
theorem pairwise_mergeSort_managers {system user : List α}
    (hsystem : system.Pairwise (fun left right => key left < key right))
    (huser : user.Pairwise (fun left right => key left < key right))
    (hsystem' : ∀ row ∈ system, tag row = "system") (huser' : ∀ row ∈ user, tag row = "user") :
    ((system ++ user).mergeSort (nameLE key)).Pairwise
      (Precedes (nameLE key) (SystemFirst tag)) := by
  -- within a manager nothing ties
  have hstrict : ∀ left right, key left < key right →
      nameLE key left right = true → nameLE key right left = true →
        SystemFirst tag left right := by
    intro left right hlt _ hle
    exact absurd (of_decide_eq_true hle) (not_le.mpr hlt)
  refine pairwise_mergeSort_ties (Comparison.ofKey key) (List.pairwise_append.mpr ⟨?_, ?_, ?_⟩)
  · exact hsystem.imp (hstrict _ _)
  · exact huser.imp (hstrict _ _)
  · intro left hleft right hright _ _
    exact ⟨hsystem' left hleft, huser' right hright⟩

/-- A listing of both managers. -/
theorem combined_both (h : ManagerListing answers rows listing key tag) (unitKind : String)
    {single : UnitScope → HostTry (List α)}
    (hsingle : ∀ scope ≠ .both, Finds answers (single scope)
      ((managerUnits answers scope).map (listing scope))) :
    ∃ answer, (bothScopes unitKind key single).run.under answers = .done answer
      ∧ Combined answers rows key tag .both answer := by
  obtain ⟨system, hsystem, hsystem'⟩ := hsingle .system (by decide)
  obtain ⟨user, huser, huser'⟩ := hsingle .user (by decide)
  obtain ⟨hperm, hsorted, htag⟩ := managerListing_rows h .system
  obtain ⟨hperm', hsorted', htag'⟩ := managerListing_rows h .user
  have hlisted : ∀ listed, combineScopeRowsByKey system user unitKind key = .ok listed →
      listed = (managerRows answers listing .system ++ managerRows answers listing .user).mergeSort
        (nameLE key) := by
    intro listed heq
    have hrows := eq_of_combineScopeRowsByKey heq
    rwa [hsystem', huser'] at hrows
  refine ⟨_, under_bothScopes unitKind key hsystem huser, ?_, ?_, ?_⟩
  · rw [combineScopeRowsByKey_eq, hsystem', huser', AllFail]
    simp [requestedManagers]
  · intro listed heq
    rw [hlisted listed heq]
    refine (List.mergeSort_perm _ _).trans ?_
    simpa [answeredRows, requestedManagers] using hperm.append hperm'
  · intro listed heq
    rw [hlisted listed heq]
    exact pairwise_mergeSort_managers hsorted hsorted' htag htag'

end Combined

/-! ## Pages -/

section Pages

variable {α : Type}

/-- A page of these rows: the front of them in the one order in which each precedes the later ones,
with their number and whether they are cut. -/
structure PageOf (rows : Multiset α) (le : α → α → Bool) (Before : α → α → Prop) (limit : Nat)
    (page : Pagination α) : Prop where
  arranged : ∃! arranged : List α, (arranged : Multiset α) = rows
    ∧ arranged.Pairwise (Precedes le Before) ∧ page.rows = arranged.take limit
  total : page.total = Multiset.card rows
  returned : page.returned = min limit (Multiset.card rows)
  truncated : page.truncated = true ↔ limit < Multiset.card rows

theorem pageOf_paginateRows {arranged : List α} {rows : Multiset α} {le : α → α → Bool}
    {Before : α → α → Prop} (hasymm : ∀ left right, Before left right → ¬ Before right left)
    (hrows : (arranged : Multiset α) = rows) (h : arranged.Pairwise (Precedes le Before))
    (limit : Nat) : PageOf rows le Before limit (paginateRows arranged limit) := by
  subst hrows
  refine ⟨⟨arranged, ⟨rfl, h, rfl⟩, ?_⟩, rfl, List.length_take, ?_⟩
  · rintro other ⟨hother, hsorted, -⟩
    exact eq_of_pairwise_precedes hasymm (Multiset.coe_eq_coe.mp hother) hsorted h
  rw [paginateRows, decide_eq_true_eq, List.length_take, Multiset.coe_card]
  omega

end Pages

/-! ## Services and timers -/

section Requested

variable [Chrono] (answers : Snapshot)

def managerServices (manager : UnitScope) (rawUnits : List RawUnit) : List UnitStatus :=
  (rawUnits.filter (fun unit => endsWith ".service" unit.name)).map (serviceRow answers manager)

def managerTimers (manager : UnitScope) (rawUnits : List RawUnit) : List TimerStatus :=
  (rawUnits.filter (fun unit => endsWith ".timer" unit.name)).map
    (timerRow answers manager rawUnits)

omit [Chrono] in
/-- The filters of a `list_services` call. -/
def serviceMatches (normalized : NormalizedServicesQuery) (row : UnitStatus) : Bool :=
  normalized.stateFilter.all (fun state => eqIgnoreAsciiCase row.activeState state)
  && normalized.nameContainsFilter.all (fun needle => contains row.unit needle)

/-- An active timer whose next run is known and more than five minutes ago. -/
def pastDue (now : DateTime) (timer : TimerStatus) : Bool :=
  eqIgnoreAsciiCase timer.activeState "active"
  && (parseRfc3339Utc timer.nextRunUtc).any (fun next => next.addDelta overdueGrace < now)

/-- The filters of a `list_timers` call. -/
def timerMatches (normalized : NormalizedTimersQuery) (now : DateTime) (timer : TimerStatus) :
    Bool :=
  normalized.timerState.all (fun state => eqIgnoreAsciiCase timer.activeState state)
  && normalized.nameContains.all (fun needle => contains (toAsciiLowercase timer.unit) needle)
  && (!normalized.overdueOnly || pastDue now timer)

/-- The services that a call asks for, of all managers that answer. -/
def requestedServices (normalized : NormalizedServicesQuery) : Multiset UnitStatus :=
  (answeredRows answers (managerServices answers) normalized.scope).filter
    (serviceMatches normalized)

/-- The timers that a call asks for, of all managers that answer, with what follows from the
clock. -/
def requestedTimers (normalized : NormalizedTimersQuery) (now : DateTime) : Multiset TimerItem :=
  ((answeredRows answers (managerTimers answers) normalized.scope).filter
    (timerMatches normalized now)).map
      (fun timer => buildTimerItem timer now normalized.includePersistent)

end Requested

section Rows

variable [Chrono] {answers : Snapshot}

theorem managerListing_services (hdistinct : DistinctNames answers) :
    ManagerListing answers (managerServices answers) (serviceListing answers)
      UnitStatus.unit UnitStatus.scope where
  perm manager rawUnits hunits := (serviceListing_spec manager (hdistinct _ _ hunits)).1
  sorted manager rawUnits hunits := (serviceListing_spec manager (hdistinct _ _ hunits)).2
  tagged manager rawUnits row hrow := by
    obtain ⟨raw, -, rfl⟩ := List.mem_map.mp hrow
    rw [serviceRow, filledRow]
    cases serviceDetails answers manager raw.unitPath <;> rfl

theorem managerListing_timers (hdistinct : DistinctNames answers) :
    ManagerListing answers (managerTimers answers) (timerListing answers)
      TimerStatus.unit TimerStatus.scope where
  perm manager rawUnits hunits := (timerListing_spec manager (hdistinct _ _ hunits)).1
  sorted manager rawUnits hunits := (timerListing_spec manager (hdistinct _ _ hunits)).2
  tagged manager rawUnits row hrow := by
    obtain ⟨raw, -, rfl⟩ := List.mem_map.mp hrow
    rfl

theorem under_listServiceUnits (hdistinct : DistinctNames answers) (scope : UnitScope) :
    ∃ answer, (listServiceUnits scope).run.under answers = .done answer
      ∧ Combined answers (managerServices answers) UnitStatus.unit UnitStatus.scope scope
          answer := by
  have hmanager := managerListing_services hdistinct
  have hsingle : ∀ manager ≠ .both, Finds answers (listServiceUnitsForSingleScope manager)
      ((managerUnits answers manager).map (serviceListing answers manager)) :=
    fun _ hmanager => finds_listServiceUnitsForSingleScope answers hmanager
  cases scope with
  | system => exact combined_single hmanager (by decide) (hsingle .system (by decide))
  | user => exact combined_single hmanager (by decide) (hsingle .user (by decide))
  | both => exact combined_both hmanager _ hsingle

theorem under_listTimerUnits (hdistinct : DistinctNames answers) (scope : UnitScope) :
    ∃ answer, (listTimerUnits scope).run.under answers = .done answer
      ∧ Combined answers (managerTimers answers) TimerStatus.unit TimerStatus.scope scope
          answer := by
  have hmanager := managerListing_timers hdistinct
  have hsingle : ∀ manager ≠ .both, Finds answers (listTimerUnitsForSingleScope manager)
      ((managerUnits answers manager).map (timerListing answers manager)) :=
    fun _ hmanager => finds_listTimerUnitsForSingleScope answers hmanager
  cases scope with
  | system => exact combined_single hmanager (by decide) (hsingle .system (by decide))
  | user => exact combined_single hmanager (by decide) (hsingle .user (by decide))
  | both => exact combined_both hmanager _ hsingle

end Rows

/-! ## What is listed -/

section Listed

variable [Chrono] {answers : Snapshot}

omit [Chrono] in
theorem filterServicesByState_eq (services : List UnitStatus) (state : Option String) :
    filterServicesByState services state = services.filter
      (fun row => state.all (fun state => eqIgnoreAsciiCase row.activeState state)) := by
  cases state with
  | none => exact (List.filter_true services).symm
  | some state => rfl

omit [Chrono] in
theorem filterServices_eq (normalized : NormalizedServicesQuery) (listed : List UnitStatus) :
    filterServicesByNameContains (filterServicesByState listed normalized.stateFilter)
        normalized.nameContainsFilter
      = listed.filter (serviceMatches normalized) := by
  have hname : ∀ rows, filterServicesByNameContains rows normalized.nameContainsFilter
      = rows.filter (fun row => normalized.nameContainsFilter.all
          (fun needle => contains row.unit needle)) := by
    intro rows
    cases normalized.nameContainsFilter with
    | none => exact (List.filter_true rows).symm
    | some needle => rfl
  rw [filterServicesByState_eq, hname, List.filter_filter]
  exact List.filter_congr fun row _ => Bool.and_comm _ _

/-- The page of a `list_services` call. -/
theorem pageOf_serviceRows {normalized : NormalizedServicesQuery}
    {listed : List UnitStatus}
    (hperm : listed.Perm (answeredRows answers (managerServices answers) normalized.scope))
    (hsorted : listed.Pairwise
      (Precedes (nameLE UnitStatus.unit) (SystemFirst UnitStatus.scope))) :
    PageOf (requestedServices answers normalized)
      (serviceLE (decide (normalized.stateFilter = some "failed")))
      (SystemFirst UnitStatus.scope) normalized.limit (serviceRows normalized listed) := by
  rw [serviceRows, filterServices_eq]
  refine pageOf_paginateRows (systemFirst_asymm _) ?_ ?_ normalized.limit
  · exact Multiset.coe_eq_coe.mpr ((List.mergeSort_perm _ _).trans (hperm.filter _))
  · refine pairwise_resort (comparison_serviceLE _) ?_ (hsorted.filter _)
    intro left right hle hge
    exact decide_eq_true (unit_le_of_serviceLE_tie hle hge)

theorem overdue_buildTimerItem (timer : TimerStatus) (now : DateTime) (includePersistent : Bool) :
    (buildTimerItem timer now includePersistent).overdue = pastDue now timer := by
  rw [buildTimerItem, timerOverdueStatus, pastDue]
  cases eqIgnoreAsciiCase timer.activeState "active" with
  | false => rfl
  | true =>
      cases parseRfc3339Utc timer.nextRunUtc with
      | none => rfl
      | some next =>
          dsimp only
          by_cases hlt : next.addDelta overdueGrace < now
          · simp [hlt]
          · simp [hlt]

/-- The rows of a `list_timers` call before they are sorted. -/
theorem timerItems_eq (normalized : NormalizedTimersQuery) (listed : List TimerStatus)
    (now : DateTime) :
    timerRows normalized listed now =
      paginateRows (sortTimerItems ((listed.filter (timerMatches normalized now)).map
        (fun timer => buildTimerItem timer now normalized.includePersistent))
          normalized.sort normalized.order) normalized.limit := by
  rw [timerRows, List.filter_filter]
  refine congrArg (fun items => paginateRows (sortTimerItems items _ _) _) ?_
  split
  case isTrue hoverdue =>
    rw [List.filter_map, List.filter_filter]
    refine congrArg (List.map _) (List.filter_congr fun timer _ => ?_)
    rw [Function.comp_apply, overdue_buildTimerItem, timerMatches, hoverdue]
    cases normalized.timerState <;> cases normalized.nameContains <;>
      simp [Bool.and_comm]
  case isFalse hoverdue =>
    refine congrArg (List.map _) (List.filter_congr fun timer _ => ?_)
    rw [timerMatches, Bool.eq_false_of_not_eq_true hoverdue]
    cases normalized.timerState <;> cases normalized.nameContains <;> simp [Bool.and_comm]

/-- The page of a `list_timers` call. -/
theorem pageOf_timerRows {normalized : NormalizedTimersQuery} {listed : List TimerStatus}
    (now : DateTime)
    (hperm : listed.Perm (answeredRows answers (managerTimers answers) normalized.scope))
    (hsorted : listed.Pairwise
      (Precedes (nameLE TimerStatus.unit) (SystemFirst TimerStatus.scope))) :
    PageOf (requestedTimers answers normalized now)
      (fun left right => (compareTimerItems normalized.sort normalized.order left right).isLE)
      (SystemFirst TimerItem.scope) normalized.limit (timerRows normalized listed now) := by
  rw [timerItems_eq]
  have hcmp := transCmp_compareTimerItems normalized.sort normalized.order
  refine pageOf_paginateRows (systemFirst_asymm _) ?_ ?_ normalized.limit
  · exact Multiset.coe_eq_coe.mpr ((List.mergeSort_perm _ _).trans ((hperm.filter _).map _))
  · refine @pairwise_resort _ (nameLE TimerItem.unit) _ (Comparison.ofCmp _) ?_ _ _ ?_
    · intro left right hle hge
      have htie := eq_of_isLE_of_isLE _ hle hge
      exact decide_eq_true (unit_of_compareTimerItems_eq htie).ge
    · exact List.pairwise_map.mpr (hsorted.filter _)

end Listed

/-! ## Responses -/

section Responses

variable [McpSdk]

/-- The response of a `list_services` call with that page. -/
def servicesReport (id : Option Json) (normalized : NormalizedServicesQuery)
    (page : Pagination UnitStatus) (generatedAtUtc : String) : Json :=
  if normalized.summaryEnabled then
    toolSuccessResponse id "Returned service triage summary"
      [("summary", (buildServiceSummary page.rows).json), ("total", .int page.total),
        ("returned", .int page.returned), ("truncated", .bool page.truncated),
        ("generated_at_utc", .str generatedAtUtc)]
  else
    toolSuccessResponse id s!"Returned {page.returned} of {page.total} services"
      [("services", .arr (page.rows.map (fun row => .obj row.members))),
        ("total", .int page.total), ("returned", .int page.returned),
        ("truncated", .bool page.truncated), ("generated_at_utc", .str generatedAtUtc)]

/-- The response of a `list_timers` call with that page. -/
def timersReport (id : Option Json) (normalized : NormalizedTimersQuery)
    (page : Pagination TimerItem) (generatedAtUtc : String) : Json :=
  if normalized.summaryEnabled then
    toolSuccessResponse id "Returned timer triage summary"
      [("summary", (buildTimerSummary page.rows).json), ("total_scanned", .int page.total),
        ("returned", .int page.returned), ("truncated", .bool page.truncated),
        ("generated_at_utc", .str generatedAtUtc)]
  else
    toolSuccessResponse id s!"Returned {page.returned} of {page.total} timers"
      [("timers", .arr (page.rows.map TimerItem.json)), ("total_scanned", .int page.total),
        ("returned", .int page.returned), ("truncated", .bool page.truncated),
        ("generated_at_utc", .str generatedAtUtc)]

variable [Chrono]

/-- Where the managers of a call fail, and what is reported where they do not. -/
structure Listed {α : Type} (answers : Snapshot) (scope : UnitScope) (rows : Multiset α)
    (le : α → α → Bool) (tag : α → String) (limit : Nat) (report : Pagination α → Json)
    (response : Json) : Prop where
  fails : isJsonRpcError response = true ↔ AllFail answers scope
  reports : ¬ AllFail answers scope →
    ∃ page, PageOf rows le (SystemFirst tag) limit page ∧ response = report page

variable [LawfulMcpSdk]

omit [Chrono] in
theorem isJsonRpcError_appError (id : Option Json) (err : AppError) :
    isJsonRpcError (appErrorToJsonRpc id err) = true := by
  cases err <;>
    exact congrArg Option.isSome (get_error_jsonRpcErrorWithData id _ _ _)

omit [Chrono] in
theorem isJsonRpcError_result (id : Option Json) (result : Json) :
    isJsonRpcError (jsonRpcResult id result) = false :=
  congrArg Option.isSome (get_error_jsonRpcResult id result)

omit [Chrono] in
theorem isJsonRpcError_servicesReport (id : Option Json) (normalized : NormalizedServicesQuery)
    (page : Pagination UnitStatus) (generatedAtUtc : String) :
    isJsonRpcError (servicesReport id normalized page generatedAtUtc) = false := by
  rw [servicesReport]
  split <;> exact isJsonRpcError_result id _

omit [Chrono] in
theorem isJsonRpcError_timersReport (id : Option Json) (normalized : NormalizedTimersQuery)
    (page : Pagination TimerItem) (generatedAtUtc : String) :
    isJsonRpcError (timersReport id normalized page generatedAtUtc) = false := by
  rw [timersReport]
  split <;> exact isJsonRpcError_result id _

variable [RegexEngine] [SerdeJson] (served : (o : ServedSig.Op) → ServedSig.Ans o)

/-- A call that asks a provider for rows, and reports a page of what it answers. -/
theorem listed_respond (id : Option Json) {o : ProviderOp} {onRow : o.Row → App Json}
    {answer : Except AppError o.Row}
    (hanswer : (fulfil o).under (fun o => served (.inl o)) = .done answer)
    {α : Type} {scope : UnitScope} {rows : Multiset α} {le : α → α → Bool} {tag : α → String}
    {limit : Nat} {report : Pagination α → Json}
    (hfails : answer.toOption = none ↔ AllFail (fun o => served (.inl o)) scope)
    (hreport : ∀ row, answer = .ok row → ∃ page, PageOf rows le (SystemFirst tag) limit page
      ∧ (serve (onRow row)).under served = .done (report page))
    (hresult : ∀ page, isJsonRpcError (report page) = false) :
    ∃ response, (serve (respond id o onRow)).under served = .done response
      ∧ Listed (fun o => served (.inl o)) scope rows le tag limit report response := by
  rw [under_serve_respond id onRow hanswer]
  cases answer with
  | error err =>
      have hall := hfails.mp rfl
      exact ⟨_, rfl, iff_of_true (isJsonRpcError_appError id err) hall, fun hno => absurd hall hno⟩
  | ok row =>
      have hno := fun hall => Option.some_ne_none row (hfails.mpr hall)
      obtain ⟨page, hpage, hrun⟩ := hreport row rfl
      refine ⟨report page, hrun, iff_of_false ?_ hno, fun _ => ⟨page, hpage, rfl⟩⟩
      rw [hresult]
      exact Bool.false_ne_true

theorem under_handleListServices (hdistinct : DistinctNames (fun o => served (.inl o)))
    (id : Option Json) {arguments : Option Members} {normalized : NormalizedServicesQuery}
    (hok : normalizeServicesQuery arguments = .ok normalized) :
    ∃ response, (serve (handleListServices id arguments)).under served = .done response
      ∧ Listed (fun o => served (.inl o)) normalized.scope
          (requestedServices (fun o => served (.inl o)) normalized)
          (serviceLE (decide (normalized.stateFilter = some "failed"))) UnitStatus.scope
          normalized.limit (fun page => servicesReport id normalized page
            (Chrono.toRfc3339Millis (served (.inr .utcNow)))) response := by
  obtain ⟨answer, hanswer, hcombined⟩ := under_listServiceUnits hdistinct normalized.scope
  rw [handleListServices, hok]
  refine listed_respond served id (o := .listServiceUnits normalized.scope) hanswer
    hcombined.fails ?_ (fun page => isJsonRpcError_servicesReport id normalized page _)
  intro listed heq
  refine ⟨_, pageOf_serviceRows (hcombined.perm _ heq) (hcombined.sorted _ heq), ?_⟩
  unfold servicesResponse servicesReport
  cases normalized.summaryEnabled <;> rfl

theorem under_handleListTimers (hdistinct : DistinctNames (fun o => served (.inl o)))
    (id : Option Json) {arguments : Option Members} {normalized : NormalizedTimersQuery}
    (hok : normalizeTimersQuery arguments = .ok normalized) :
    ∃ response, (serve (handleListTimers id arguments)).under served = .done response
      ∧ Listed (fun o => served (.inl o)) normalized.scope
          (requestedTimers (fun o => served (.inl o)) normalized (served (.inr .utcNow)))
          (fun left right =>
            (compareTimerItems normalized.sort normalized.order left right).isLE) TimerItem.scope
          normalized.limit (fun page => timersReport id normalized page
            (Chrono.toRfc3339Millis (served (.inr .utcNow)))) response := by
  obtain ⟨answer, hanswer, hcombined⟩ := under_listTimerUnits hdistinct normalized.scope
  rw [handleListTimers, hok]
  refine listed_respond served id (o := .listTimerUnits normalized.scope) hanswer
    hcombined.fails ?_ (fun page => isJsonRpcError_timersReport id normalized page _)
  intro listed heq
  refine ⟨_, pageOf_timerRows (served (.inr .utcNow)) (hcombined.perm _ heq)
    (hcombined.sorted _ heq), ?_⟩
  unfold timersResponse timersReport
  cases normalized.summaryEnabled <;> rfl

/-- **`list_services` and `list_timers` return exactly the requested rows, whichever managers
answer.** -/
theorem listings_exact {σ : Type} {host : Host ServedSig σ}
    (hserved : ∀ o s, (host.answer o s).1 = served o)
    (hdistinct : DistinctNames (fun o => served (.inl o))) (s : σ) (id : Option Json)
    (arguments : Option Members) :
    (∀ normalized, normalizeServicesQuery arguments = .ok normalized →
      ∃ response, ((serve (handleListServices id arguments)).run host s).result = .done response
        ∧ Listed (fun o => served (.inl o)) normalized.scope
            (requestedServices (fun o => served (.inl o)) normalized)
            (serviceLE (decide (normalized.stateFilter = some "failed"))) UnitStatus.scope
            normalized.limit (fun page => servicesReport id normalized page
              (Chrono.toRfc3339Millis (served (.inr .utcNow)))) response)
    ∧ ∀ normalized, normalizeTimersQuery arguments = .ok normalized →
      ∃ response, ((serve (handleListTimers id arguments)).run host s).result = .done response
        ∧ Listed (fun o => served (.inl o)) normalized.scope
            (requestedTimers (fun o => served (.inl o)) normalized (served (.inr .utcNow)))
            (fun left right =>
              (compareTimerItems normalized.sort normalized.order left right).isLE) TimerItem.scope
            normalized.limit (fun page => timersReport id normalized page
              (Chrono.toRfc3339Millis (served (.inr .utcNow)))) response := by
  constructor
  · intro normalized hok
    rw [Prog.result_run_under hserved]
    exact under_handleListServices served hdistinct id hok
  · intro normalized hok
    rw [Prog.result_run_under hserved]
    exact under_handleListTimers served hdistinct id hok

end Responses

/-- A machine where both managers run a service of one name, at one moment. -/
def sharedName : (o : ServedSig.Op) → ServedSig.Ans o
  | .inl o => oneService (.ok 7) o
  | .inr .utcNow => .ofSecs 1767225600
  | .inr (.audit _) => ()

theorem distinctNames_sharedName : DistinctNames (fun o => sharedName (.inl o)) := by
  intro manager rawUnits hunits
  have hone : managerUnits (fun o => sharedName (.inl o)) manager
      = some [⟨"app.service", "App", "loaded", "active", "running", "/app"⟩] := rfl
  rw [hone] at hunits
  cases hunits
  exact List.nodup_singleton _

/-- Both services of the name are listed. -/
theorem listings_exact_sharedName :
    let normalized : NormalizedServicesQuery := ⟨.both, none, none, 200, false⟩
    ((∀ o s, ((Host.fixed sharedName).answer o s).1 = sharedName o)
      ∧ DistinctNames (fun o => sharedName (.inl o))
      ∧ normalizeServicesQuery (some [("scope", .str "both")]) = .ok normalized)
    ∧ ∃ response, ((@serve rfc3339 noRegex ⟨fun _ => none, fun _ => ""⟩ _
        (@handleListServices rfc3339 plainSdk (some (.int 1)) (some [("scope", .str "both")]))).run
          (Host.fixed sharedName) ()).result = .done response
      ∧ Listed (fun o => sharedName (.inl o)) .both
          (@requestedServices rfc3339 (fun o => sharedName (.inl o)) normalized)
          (serviceLE false) UnitStatus.scope 200
          (fun page => @servicesReport plainSdk (some (.int 1)) normalized page
            "2026-01-01T00:00:00.000Z") response :=
  ⟨⟨fun _ _ => rfl, distinctNames_sharedName, rfl⟩,
    (@listings_exact plainSdk rfc3339 lawful_plainSdk noRegex ⟨fun _ => none, fun _ => ""⟩
      sharedName Unit (Host.fixed sharedName) (fun _ _ => rfl) distinctNames_sharedName ()
      (some (.int 1)) (some [("scope", .str "both")])).1 _ rfl⟩

end SystemdMonitoring
