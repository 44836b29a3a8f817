/-
# `SystemdMonitoring.Systemd.Listings` — the rows of one manager

A listing filters the manager's units by suffix, orders them by name, looks up
the details of each at its path, and fills them in by name.  Under a snapshot
that is a plain list of rows (`serviceListing`, `timerListing`).

With distinct names every unit's row is filled in on its own
(`filledRows_spec`).  Without them the first row of a name still is, and that
is the row that is looked up (`find?_serviceListing`).
-/
import Mathlib.Data.String.Basic
import SystemdMonitoring.Lib.Arrange
import SystemdMonitoring.Systemd.Snapshot

namespace SystemdMonitoring

open Lib Lib.Text

/-! ## Filling in rows -/

section Fill

variable {α δ : Type} {name : α → String} {fill : α → δ → α}

theorem lookup_filter_ne {k k' : String} (h : k ≠ k') (entries : List (String × δ)) :
    (entries.filter (fun entry => entry.1 ≠ k')).lookup k = entries.lookup k := by
  induction entries with
  | nil => rfl
  | cons entry entries ih =>
      obtain ⟨key, value⟩ := entry
      by_cases hkey : key = k'
      · subst hkey
        rw [List.filter_cons_of_neg (by simp), ih, List.lookup_cons, beq_false_of_ne h]
      · rw [List.filter_cons_of_pos (by simp [hkey]), List.lookup_cons, List.lookup_cons, ih]

theorem mem_of_lookup {entries : List (String × δ)} {k : String} {value : δ}
    (h : entries.lookup k = some value) : (k, value) ∈ entries := by
  obtain ⟨before, after, heq, -⟩ := List.lookup_eq_some_iff.mp h
  rw [heq]
  exact List.mem_append_right _ List.mem_cons_self

/-- With distinct names each row is filled in with what is found under its own. -/
theorem fillDetails_eq_map {details : List (String × δ)} {rows : List α}
    (hnodup : (rows.map name).Nodup) :
    fillDetails name fill details rows
      = rows.map (fun row => (details.lookup (name row)).elim row (fill row)) := by
  induction rows generalizing details with
  | nil => rfl
  | cons row rows ih =>
      obtain ⟨hrow, hrows⟩ := List.nodup_cons.mp hnodup
      rw [fillDetails, List.map_cons]
      cases hlookup : details.lookup (name row) with
      | none =>
          dsimp only
          rw [ih hrows]
          rfl
      | some found =>
          dsimp only
          rw [ih hrows]
          refine congrArg (fill row found :: ·) (List.map_congr_left ?_)
          intro other hother
          have hne : name other ≠ name row :=
            fun heq => hrow (heq ▸ List.mem_map_of_mem hother)
          rw [lookup_filter_ne hne]

/-- What the details leave alone is left alone. -/
theorem map_fillDetails {β : Type} {p : α → β} (hp : ∀ row found, p (fill row found) = p row)
    (details : List (String × δ)) (rows : List α) :
    (fillDetails name fill details rows).map p = rows.map p := by
  induction rows generalizing details with
  | nil => rfl
  | cons row rows ih =>
      rw [fillDetails]
      cases details.lookup (name row) with
      | none => exact congrArg (p row :: ·) (ih details)
      | some found =>
          dsimp only
          rw [List.map_cons, List.map_cons, hp, ih]

/-- Every row that comes out is one that went in, as it was or with details of its name. -/
theorem mem_fillDetails {details : List (String × δ)} {rows : List α} {row : α}
    (h : row ∈ fillDetails name fill details rows) :
    row ∈ rows
      ∨ ∃ base ∈ rows, ∃ found, (name base, found) ∈ details ∧ row = fill base found := by
  induction rows generalizing details with
  | nil => cases h
  | cons base rows ih =>
      have hrest : ∀ {details' : List (String × δ)}, details' ⊆ details →
          row ∈ fillDetails name fill details' rows →
          row ∈ base :: rows ∨ ∃ base' ∈ base :: rows, ∃ found,
            (name base', found) ∈ details ∧ row = fill base' found := by
        intro details' hsub hrow
        refine (ih hrow).imp (List.mem_cons_of_mem base) ?_
        rintro ⟨base', hbase, found, hfound, hfill⟩
        exact ⟨base', List.mem_cons_of_mem base hbase, found, hsub hfound, hfill⟩
      rw [fillDetails] at h
      split at h
      case h_1 found hfound =>
        rcases List.mem_cons.mp h with rfl | hrow
        · exact .inr ⟨base, List.mem_cons_self, found, mem_of_lookup hfound, rfl⟩
        · exact hrest (List.filter_subset_self _) hrow
      case h_2 =>
        rcases List.mem_cons.mp h with rfl | hrow
        · exact .inl List.mem_cons_self
        · exact hrest (List.Subset.refl details) hrow

/-- Whatever the names, the first row of a name is filled in. -/
theorem find?_fillDetails (hname : ∀ row found, name (fill row found) = name row) (key : String)
    {details : List (String × δ)} {rows : List α} :
    (fillDetails name fill details rows).find? (fun row => name row == key)
      = (rows.find? (fun row => name row == key)).map
          (fun row => (details.lookup key).elim row (fill row)) := by
  induction rows generalizing details with
  | nil => rfl
  | cons row rows ih =>
      rw [fillDetails]
      by_cases hrow : name row = key
      · subst hrow
        cases hlookup : details.lookup (name row) with
        | none => simp
        | some found => simp [hname]
      · cases hlookup : details.lookup (name row) with
        | none => simpa [hrow] using ih
        | some found =>
            dsimp only
            rw [List.find?_cons_of_neg (by simpa [hname] using hrow),
              List.find?_cons_of_neg (by simpa using hrow), ih, lookup_filter_ne (Ne.symm hrow)]

/-- The entries of a partial function, one for every name it is defined at. -/
def graph (f : String → Option δ) (names : List String) : List (String × δ) :=
  names.filterMap (fun name => (f name).map (fun value => (name, value)))

theorem lookup_graph (f : String → Option δ) (k : String) (names : List String) :
    (graph f names).lookup k = if k ∈ names then f k else none := by
  induction names with
  | nil => rfl
  | cons n names ih =>
      rw [graph, List.filterMap_cons]
      cases hf : f n with
      | none =>
          refine ih.trans ?_
          by_cases hk : k = n
          · subst hk
            simp [hf]
          · simp [hk]
      | some value =>
          rw [Option.map_some]
          dsimp only
          rw [List.lookup_cons]
          by_cases hk : k = n
          · subst hk
            simp [hf]
          · rw [beq_false_of_ne hk]
            simp only [List.mem_cons, hk, false_or]
            exact ih

/-- The names of the rows that have a path, each with it. -/
def lookupTasks (name : α → String) (paths : List (String × String)) (rows : List α) :
    List (String × String) :=
  rows.filterMap (fun row => (paths.lookup (name row)).map (fun path => (name row, path)))

/-- What is found for the rows that have a path is the graph over the names of all. -/
theorem reduceOption_lookupTasks (paths : List (String × String)) (f : String → Option δ)
    (rows : List α) :
    ((lookupTasks name paths rows).map
      (fun task => (f task.2).map (fun value => (task.1, value)))).reduceOption
      = graph (fun n => (paths.lookup n).bind f) (rows.map name) := by
  show List.filterMap id _ = _
  rw [graph, lookupTasks, List.filterMap_map, List.filterMap_map, List.filterMap_filterMap]
  refine List.filterMap_congr fun row _ => ?_
  cases hpath : paths.lookup (name row) with
  | none => simp [hpath]
  | some path => simp [hpath]

theorem map_lookupTasks (paths : List (String × String)) (f : String → δ) (rows : List α) :
    (lookupTasks name paths rows).map (fun task => (task.1, f task.2))
      = graph (fun n => (paths.lookup n).map f) (rows.map name) := by
  rw [graph, lookupTasks, List.filterMap_map, List.map_filterMap]
  refine List.filterMap_congr fun row _ => ?_
  cases hpath : paths.lookup (name row) with
  | none => simp [hpath]
  | some path => simp [hpath]

theorem lookup_of_mem {entries : List (String × δ)} (hnodup : (entries.map Prod.fst).Nodup)
    {k : String} {value : δ} (h : (k, value) ∈ entries) : entries.lookup k = some value := by
  induction entries with
  | nil => cases h
  | cons entry entries ih =>
      obtain ⟨hentry, hentries⟩ := List.nodup_cons.mp hnodup
      rcases List.mem_cons.mp h with heq | hmem
      · rw [← heq, List.lookup_cons, beq_self_eq_true]
      · have hne : k ≠ entry.1 :=
          fun heq => hentry (heq ▸ List.mem_map_of_mem (f := Prod.fst) hmem)
        rw [List.lookup_cons, beq_false_of_ne hne]
        exact ih hentries hmem

end Fill

/-! ## Rows of one manager -/

section Rows

variable {α δ : Type} {suffix : String} {base : RawUnit → α} {name : α → String}
  {fill : α → δ → α} {found : String → Option δ} {rawUnits : List RawUnit}

/-- The row of a raw unit, with what is found at its path. -/
def filledRow (base : RawUnit → α) (fill : α → δ → α) (found : String → Option δ)
    (raw : RawUnit) : α :=
  (found raw.unitPath).elim (base raw) (fill (base raw))

/-- With distinct names a name's path is its unit's. -/
theorem lookup_unitPaths (hnodup : (rawUnits.map RawUnit.name).Nodup) {raw : RawUnit}
    (hraw : raw ∈ rawUnits.filter (fun unit => endsWith suffix unit.name)) :
    (unitPaths suffix rawUnits).lookup raw.name = some raw.unitPath := by
  refine lookup_of_mem ?_ (List.mem_reverse.mpr (List.mem_map.mpr ⟨raw, hraw, rfl⟩))
  rw [unitPaths, List.map_reverse, List.nodup_reverse, List.map_map]
  exact hnodup.sublist (List.filter_sublist.map RawUnit.name)

/-- **The rows of a manager with distinct names**: those of its units with the suffix, each filled
in on its own, in the order of their names. -/
theorem filledRows_spec (hbase : ∀ raw, name (base raw) = raw.name)
    (hfill : ∀ row value, name (fill row value) = name row)
    (hnodup : (rawUnits.map RawUnit.name).Nodup) :
    let services := rawUnits.filter (fun unit => endsWith suffix unit.name)
    let units := (services.map base).mergeSort (fun left right => name left ≤ name right)
    let rows := fillDetails name fill
      (graph (fun n => ((unitPaths suffix rawUnits).lookup n).bind found)
        (units.map name)).reverse units
    rows.Perm (services.map (filledRow base fill found))
      ∧ rows.Pairwise (fun left right => name left < name right) := by
  intro services units rows
  have hperm : units.Perm (services.map base) := List.mergeSort_perm _ _
  have hnames : (services.map RawUnit.name).Nodup :=
    hnodup.sublist (List.filter_sublist.map RawUnit.name)
  have hunits : (units.map name).Nodup := by
    refine (hperm.map name).nodup_iff.mpr ?_
    rw [List.map_map]
    exact (List.map_congr_left fun raw _ => hbase raw) ▸ hnames
  have hlookup : ∀ raw ∈ services,
      ((graph (fun n => ((unitPaths suffix rawUnits).lookup n).bind found)
        (units.map name)).reverse.lookup (name (base raw))) = found raw.unitPath := by
    intro raw hraw
    rw [graph, ← List.filterMap_reverse, hbase]
    refine (lookup_graph _ _ _).trans ?_
    rw [if_pos, lookup_unitPaths hnodup hraw, Option.bind_some]
    rw [List.mem_reverse, ← hbase]
    exact List.mem_map_of_mem (hperm.mem_iff.mpr (List.mem_map_of_mem hraw))
  have hrows : rows = units.map (fun row =>
      ((graph (fun n => ((unitPaths suffix rawUnits).lookup n).bind found)
        (units.map name)).reverse.lookup (name row)).elim row (fill row)) :=
    fillDetails_eq_map hunits
  rw [hrows]
  constructor
  · refine (hperm.map _).trans (List.Perm.of_eq ?_)
    rw [List.map_map]
    refine List.map_congr_left fun raw hraw => ?_
    rw [Function.comp_apply, hlookup raw hraw, filledRow]
  · have hname : ∀ row (value : Option δ), name (value.elim row (fill row)) = name row := by
      intro row value
      cases value with
      | none => rfl
      | some value => exact hfill row value
    rw [List.pairwise_map]
    simp only [hname]
    exact pairwise_lt_mergeSort_key ((hperm.map name).nodup_iff.mp hunits)

end Rows

/-! ## Listings of one manager -/

section Listings

variable [Chrono] (answers : Snapshot) (scope : UnitScope) (rawUnits : List RawUnit)

/-- The details that are found of the service of that name. -/
def serviceDetailsOf (unit : String) : Option ServiceDetails :=
  ((unitPaths ".service" rawUnits).lookup unit).bind (serviceDetails answers scope)

/-- The details of the timer of that name. -/
def timerDetailsOf (unit : String) : Option TimerDetails :=
  ((unitPaths ".timer" rawUnits).lookup unit).map
    (fun path => timerDetails answers scope path (pathToName rawUnits))

/-- The services of a manager, with the details that are found. -/
def serviceListing : List UnitStatus :=
  let units := mapAndSortServiceUnits rawUnits scope
  fillDetails UnitStatus.unit UnitStatus.withDetails
    (graph (serviceDetailsOf answers scope rawUnits) (units.map UnitStatus.unit)).reverse units

/-- The timers of a manager, with the details that are found. -/
def timerListing : List TimerStatus :=
  let timers := mapAndSortTimerUnits rawUnits scope
  fillDetails TimerStatus.unit TimerStatus.withDetails
    (graph (timerDetailsOf answers scope rawUnits) (timers.map TimerStatus.unit)).reverse timers

end Listings

section Listed

variable {answers : Snapshot}

variable (answers) in
theorem finds_dbusConnectionForScope {scope : UnitScope} (hscope : scope ≠ .both) :
    Finds answers (dbusConnectionForScope scope) (answers (.connect scope)).toOption := by
  cases scope with
  | system => exact .failing _ _ rfl
  | user => exact .failing _ _ rfl
  | both => exact absurd rfl hscope

/-- A listing begins with the manager's units. -/
theorem finds_managerUnits {α : Type} {scope : UnitScope} (hscope : scope ≠ .both)
    {listing : List RawUnit → HostTry α} {found : List RawUnit → α}
    (hlisting : ∀ rawUnits, Finds answers (listing rawUnits) (some (found rawUnits))) :
    Finds answers (dbusConnectionForScope scope >>= fun _ => listUnitsRows scope >>= listing)
      ((managerUnits answers scope).map found) := by
  have h := (finds_dbusConnectionForScope answers hscope).bind fun _ =>
    (finds_listUnitsRows scope).bind hlisting
  refine cast (congrArg (Finds answers _) ?_) h
  rw [managerUnits]
  cases (answers (.connect scope)).toOption with
  | none => rfl
  | some connection =>
      cases openProxy answers scope systemdPath .manager with
      | none => rfl
      | some proxy => exact (Option.map_eq_bind (f := found)).symm

variable [Chrono]

variable (answers) in
theorem finds_listServiceUnitsForSingleScope {scope : UnitScope} (hscope : scope ≠ .both) :
    Finds answers (listServiceUnitsForSingleScope scope)
      ((managerUnits answers scope).map (serviceListing answers scope)) := by
  refine finds_managerUnits hscope fun rawUnits => ?_
  have htask : ∀ task : String × String,
      ((do
        let details ← (fetchServiceDetails scope task.2).run
        return details.toOption.map (fun details => (task.1, details)))
          : HostProg (Option (String × ServiceDetails))).under answers
        = .done ((serviceDetails answers scope task.2).map (fun details => (task.1, details))) := by
    intro task
    obtain ⟨answer, hanswer, hfound⟩ := finds_fetchServiceDetails answers scope task.2
    rw [Prog.under_bind hanswer, hfound]
    rfl
  have hlisting := (Finds.lift (Prog.under_mapM (l := lookupTasks UnitStatus.unit
      (unitPaths ".service" rawUnits) (mapAndSortServiceUnits rawUnits scope))
      fun task _ => htask task)).map fun results =>
    fillDetails UnitStatus.unit UnitStatus.withDetails results.reduceOption.reverse
      (mapAndSortServiceUnits rawUnits scope)
  rw [Option.map_some, reduceOption_lookupTasks] at hlisting
  exact hlisting

variable (answers) in
theorem finds_listTimerUnitsForSingleScope {scope : UnitScope} (hscope : scope ≠ .both) :
    Finds answers (listTimerUnitsForSingleScope scope)
      ((managerUnits answers scope).map (timerListing answers scope)) := by
  refine finds_managerUnits hscope fun rawUnits => ?_
  have htask : ∀ task : String × String,
      ((do
        let details ← fetchTimerDetails scope task.2 (pathToName rawUnits)
        return (task.1, details)) : HostProg (String × TimerDetails)).under answers
        = .done (task.1, timerDetails answers scope task.2 (pathToName rawUnits)) := by
    intro task
    rw [Prog.under_bind (under_fetchTimerDetails scope task.2 (pathToName rawUnits))]
    rfl
  have hlisting := (Finds.lift (Prog.under_mapM (l := lookupTasks TimerStatus.unit
      (unitPaths ".timer" rawUnits) (mapAndSortTimerUnits rawUnits scope))
      fun task _ => htask task)).map fun results =>
    fillDetails TimerStatus.unit TimerStatus.withDetails results.reverse
      (mapAndSortTimerUnits rawUnits scope)
  rw [Option.map_some,
    map_lookupTasks _ (fun path => timerDetails answers scope path (pathToName rawUnits))]
    at hlisting
  exact hlisting

/-! ### With distinct names -/

/-- A service as it is listed, without its details. -/
def UnitStatus.ofRaw (scope : UnitScope) (raw : RawUnit) : UnitStatus where
  unit := raw.name
  scope := scope.asStr
  description := raw.description
  loadState := raw.loadState
  activeState := raw.activeState
  subState := raw.subState
  unitFileState := none
  sinceUtc := none
  mainPid := none
  execMainStatus := none
  result := none

/-- A timer as it is listed, without its details. -/
def TimerStatus.ofRaw (scope : UnitScope) (raw : RawUnit) : TimerStatus where
  unit := raw.name
  scope := scope.asStr
  loadState := raw.loadState
  activeState := raw.activeState
  subState := raw.subState
  unitFileState := none
  nextRunUtc := none
  lastRunUtc := none
  triggerUnit := none
  persistent := none
  result := none

def serviceRow (answers : Snapshot) (scope : UnitScope) : RawUnit → UnitStatus :=
  filledRow (UnitStatus.ofRaw scope) UnitStatus.withDetails (serviceDetails answers scope)

def timerRow (answers : Snapshot) (scope : UnitScope) (rawUnits : List RawUnit) :
    RawUnit → TimerStatus :=
  filledRow (TimerStatus.ofRaw scope) TimerStatus.withDetails
    (fun path => some (timerDetails answers scope path (pathToName rawUnits)))

/-- The services of a manager, each once, by name. -/
theorem serviceListing_spec (scope : UnitScope) {rawUnits : List RawUnit}
    (hnodup : (rawUnits.map RawUnit.name).Nodup) :
    (serviceListing answers scope rawUnits).Perm
        ((rawUnits.filter (fun unit => endsWith ".service" unit.name)).map
          (serviceRow answers scope))
      ∧ (serviceListing answers scope rawUnits).Pairwise
        (fun left right => left.unit < right.unit) :=
  filledRows_spec (fun _ => rfl) (fun _ _ => rfl) hnodup

/-- The timers of a manager, each once, by name. -/
theorem timerListing_spec (scope : UnitScope) {rawUnits : List RawUnit}
    (hnodup : (rawUnits.map RawUnit.name).Nodup) :
    (timerListing answers scope rawUnits).Perm
        ((rawUnits.filter (fun unit => endsWith ".timer" unit.name)).map
          (timerRow answers scope rawUnits))
      ∧ (timerListing answers scope rawUnits).Pairwise
        (fun left right => left.unit < right.unit) := by
  have hfound : timerDetailsOf answers scope rawUnits = fun unit =>
      ((unitPaths ".timer" rawUnits).lookup unit).bind
        (fun path => some (timerDetails answers scope path (pathToName rawUnits))) :=
    funext fun unit => Option.map_eq_bind
  rw [timerListing, hfound]
  exact filledRows_spec (fun _ => rfl) (fun _ _ => rfl) hnodup

/-! ### Looked up by name -/

variable (answers) in
/-- The row that is looked up has what is found under its name. -/
theorem find?_serviceListing (scope : UnitScope) (rawUnits : List RawUnit) (unit : String) :
    (serviceListing answers scope rawUnits).find? (fun row => row.unit == unit)
      = ((mapAndSortServiceUnits rawUnits scope).find? (fun row => row.unit == unit)).map
          (fun row => (serviceDetailsOf answers scope rawUnits unit).elim row row.withDetails) := by
  have hname : ∀ (row : UnitStatus) (details : ServiceDetails),
      (row.withDetails details).unit = row.unit := fun _ _ => rfl
  refine (find?_fillDetails hname unit).trans ?_
  cases hrow : (mapAndSortServiceUnits rawUnits scope).find? (fun row => row.unit == unit) with
  | none => rfl
  | some row =>
      have hmem := List.mem_of_find?_eq_some hrow
      have hunit : row.unit = unit := by simpa using List.find?_some hrow
      rw [graph, ← List.filterMap_reverse]
      refine congrArg (fun found => some (Option.elim found row row.withDetails)) ?_
      refine (lookup_graph _ _ _).trans (if_pos ?_)
      rw [List.mem_reverse, ← hunit]
      exact List.mem_map_of_mem hmem

end Listed

end SystemdMonitoring
