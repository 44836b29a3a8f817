/-
# `SystemdMonitoring.Systemd.Faults` — what faults take away from a listing

Every answer of the host may be a failure, independently of all others.  Held
against the answers of a sound host, such an answer is the same or it is lost
(`faults`), and so is what the unit provider makes of it: a service has all its
details or none, a timer those that could be read, and the listing of both
managers is that of both or, as a whole, that of one (`Merged`).

A listing looks details up by name, and two rows may have one name.  What has
been looked up under it depends on the name alone, so that losing the answer
for one of them cannot give the details of one unit to another
(`fillDetails_short`).
-/
import Mathlib.Data.List.ReduceOption
import SystemdMonitoring.Lib.Related
import SystemdMonitoring.Systemd.Dependencies
import SystemdMonitoring.Systemd.JournalFaults

namespace SystemdMonitoring

open Lib Lib.Text

/-! ## Faults of the host -/

/-- The process has not come to a successful end. -/
def CommandOutcome.Unsuccessful (outcome : CommandOutcome) : Prop :=
  ∀ stdout stderr, outcome ≠ .finished true stdout stderr

/-- Any answer may be lost; of a journal that is opened some operations may fail. -/
def faults : Loss HostSig
  | .openJournal _ => AtMost Journal.Short
  | .podman _ => fun outcome sound => outcome = sound ∨ outcome.Unsuccessful
  | .connect _ => AtMost Eq
  | .proxy _ _ _ => AtMost Eq
  | .listUnits _ => AtMost Eq
  | .getUnit _ _ => AtMost Eq
  | .property _ _ _ _ _ => AtMost Eq
  | .joinReader => AtMost Eq

/-! ## Less of a row -/

/-- The row of a service whose details are unknown. -/
def UnitStatus.bare (row : UnitStatus) : UnitStatus :=
  row.withDetails ⟨none, none, none, none, none⟩

/-- The service that a timer without a known trigger is said to trigger. -/
def TimerStatus.ownService (timer : TimerStatus) : Option String :=
  (timer.withDetails .default).triggerUnit

structure TimerDetails.Short (details full : TimerDetails) : Prop where
  unitFileState : OrMissing details.unitFileState full.unitFileState
  nextRunUtc : OrMissing details.nextRunUtc full.nextRunUtc
  lastRunUtc : OrMissing details.lastRunUtc full.lastRunUtc
  triggerUnit : OrMissing details.triggerUnit full.triggerUnit
  persistent : OrMissing details.persistent full.persistent
  result : OrMissing details.result full.result

/-- Every detail that could not be read is missing, but for the trigger: the timer's own service
stands in for that. -/
structure TimerStatus.Short (row full : TimerStatus) : Prop where
  unit : row.unit = full.unit
  scope : row.scope = full.scope
  loadState : row.loadState = full.loadState
  activeState : row.activeState = full.activeState
  subState : row.subState = full.subState
  unitFileState : OrMissing row.unitFileState full.unitFileState
  nextRunUtc : OrMissing row.nextRunUtc full.nextRunUtc
  lastRunUtc : OrMissing row.lastRunUtc full.lastRunUtc
  triggerUnit : row.triggerUnit = full.triggerUnit ∨ row.triggerUnit = row.ownService
  persistent : OrMissing row.persistent full.persistent
  result : OrMissing row.result full.result

theorem TimerStatus.short_refl (row : TimerStatus) : row.Short row where
  unit := rfl
  scope := rfl
  loadState := rfl
  activeState := rfl
  subState := rfl
  unitFileState := .refl _ _
  nextRunUtc := .refl _ _
  lastRunUtc := .refl _ _
  triggerUnit := .inl rfl
  persistent := .refl _ _
  result := .refl _ _

theorem TimerDetails.short_default (full : TimerDetails) : TimerDetails.default.Short full :=
  ⟨.inr rfl, .inr rfl, .inr rfl, .inr rfl, .inr rfl, .inr rfl⟩

theorem TimerStatus.short_withDetails (row : TimerStatus) {details full : TimerDetails}
    (h : details.Short full) : (row.withDetails details).Short (row.withDetails full) where
  unit := rfl
  scope := rfl
  loadState := rfl
  activeState := rfl
  subState := rfl
  unitFileState := h.unitFileState
  nextRunUtc := h.nextRunUtc
  lastRunUtc := h.lastRunUtc
  triggerUnit := by
    rcases h.triggerUnit with htrigger | htrigger
    · refine .inl ?_
      simp only [TimerStatus.withDetails, htrigger]
    · refine .inr ?_
      simp only [TimerStatus.ownService, TimerStatus.withDetails, TimerDetails.default, htrigger]
  persistent := h.persistent
  result := h.result

/-! ## Asking -/

section Asking

variable {sound : Snapshot}

theorem ask_short (o : HostOp) : Prog.Short faults sound (faults o) (ask o) (ask o) :=
  Prog.Short.call (S := HostSig) o

theorem short_failing {α : Type} {R : α → α → Prop} (context : String)
    {p p' : HostProg (Except String α)} (h : Prog.Short faults sound (AtMost R) p p') :
    Prog.ShortOk faults sound R (failing context p) (failing context p') := by
  refine .of_short (h.bind ?_)
  intro answer answer' hanswer
  exact .value (hanswer.mapError _ _)

theorem short_proxy (context : String) (scope : UnitScope) (path : String)
    (interface : Interface) :
    Prog.ShortOk faults sound Eq (failing context (ask (.proxy scope path interface)))
      (failing context (ask (.proxy scope path interface))) :=
  short_failing context (by exact ask_short _)

theorem short_property (context : String) (scope : UnitScope) (path : String)
    (interface : Interface) (name : String) (type : PropertyType) :
    Prog.ShortOk faults sound Eq (failing context (ask (.property scope path interface name type)))
      (failing context (ask (.property scope path interface name type))) :=
  short_failing context (by exact ask_short _)

theorem readOptionalProperty_short (scope : UnitScope) (path : String) (interface : Interface)
    (name : String) (type : PropertyType) :
    Prog.Short faults sound OrMissing (readOptionalProperty scope path interface name type)
      (readOptionalProperty scope path interface name type) := by
  refine Prog.Short.bind (ask_short (.property scope path interface name type)) ?_
  intro value value' hvalue
  exact .value (orMissing_toOption hvalue)

theorem dbusConnectionForScope_short (scope : UnitScope) :
    Prog.ShortOk faults sound Eq (dbusConnectionForScope scope) (dbusConnectionForScope scope) := by
  cases scope with
  | system => exact short_failing _ (by exact ask_short _)
  | user => exact short_failing _ (by exact ask_short _)
  | both => exact .throw _ _

theorem listUnitsRows_short (scope : UnitScope) :
    Prog.ShortOk faults sound Eq (listUnitsRows scope) (listUnitsRows scope) := by
  refine (short_proxy _ _ _ _).bind ?_
  rintro _ _ -
  exact short_failing _ (by exact ask_short _)

/-! ## Details -/

variable [Chrono]

/-- All details of a service are there, or none. -/
theorem fetchServiceDetails_short (scope : UnitScope) (unitPath : String) :
    Prog.ShortOk faults sound Eq (fetchServiceDetails scope unitPath)
      (fetchServiceDetails scope unitPath) := by
  have hread : ∀ {β : Type} {context : String} {interface : Interface} {name : String}
      (type : PropertyType) (read : type.Val → β),
      Prog.ShortOk faults sound Eq
        (failing context (ask (.property scope unitPath interface name type)) >>= fun value =>
          (pure (read value) : HostTry β))
        (failing context (ask (.property scope unitPath interface name type)) >>= fun value =>
          (pure (read value) : HostTry β)) := by
    intro β context interface name type read
    refine (short_property _ _ _ _ _ _).bind ?_
    rintro value _ rfl
    exact .value rfl
  refine (short_proxy _ _ _ _).bind ?_
  rintro _ _ -
  refine (hread .string nonBlank).bind ?_
  rintro unitFileState _ rfl
  refine (hread .u64 some).bind ?_
  rintro since _ rfl
  refine (short_proxy _ _ _ _).bind ?_
  rintro _ _ -
  refine (hread .u32 some).bind ?_
  rintro mainPid _ rfl
  refine (hread .u32 some).bind ?_
  rintro execMainStatus _ rfl
  refine (hread .string nonBlank).bind ?_
  rintro result _ rfl
  exact .value rfl

/-- What could be read of a timer is there. -/
theorem fetchTimerDetails_short (scope : UnitScope) (unitPath : String)
    (names : List (String × String)) :
    Prog.Short faults sound TimerDetails.Short (fetchTimerDetails scope unitPath names)
      (fetchTimerDetails scope unitPath names) := by
  have hreturns : ∀ interface name type,
      (readOptionalProperty scope unitPath interface name type).Returns (fun _ => True) := by
    intro interface name type
    refine (returns_ask _).bind ?_
    intro value _
    exact Prog.Returns.value trivial
  rw [fetchTimerDetails]
  refine (ask_short (.proxy scope unitPath .unit)).bind ?_
  intro unitProxy unitProxy' hunitProxy
  cases unitProxy with
  | error err =>
      -- the sound lookup goes on, and whatever it finds is more than nothing
      refine .of_left (Prog.Returns.mono (P := fun _ => True) (fun full _ => full.short_default) ?_)
      cases unitProxy' with
      | error err' => exact Prog.Returns.value trivial
      | ok _ => exact fetchTimerDetails_returns scope unitPath names (.ok ())
  | ok _ =>
      obtain ⟨_, rfl, -⟩ := hunitProxy () rfl
      refine (ask_short (.proxy scope unitPath .timer)).bind ?_
      intro timerProxy timerProxy' htimerProxy
      refine (readOptionalProperty_short _ _ _ _ _).bind ?_
      intro unitFileState unitFileState' hunitFileState
      refine (readOptionalProperty_short _ _ _ _ _).bind ?_
      intro triggers triggers' htriggers
      cases timerProxy with
      | error err =>
          refine .of_left ?_
          have hshort : ∀ nextRunUtc lastRunUtc persistent result,
              TimerDetails.Short
                ⟨unitFileState.bind nonBlank, none, none,
                  triggers.bind (fun paths => paths.findSome? (fun path => names.lookup path)),
                  none, none⟩
                ⟨unitFileState'.bind nonBlank, nextRunUtc, lastRunUtc,
                  triggers'.bind (fun paths => paths.findSome? (fun path => names.lookup path)),
                  persistent, result⟩ := by
            intro nextRunUtc lastRunUtc persistent result
            exact ⟨hunitFileState.bind _, .inr rfl, .inr rfl, htriggers.bind _, .inr rfl, .inr rfl⟩
          cases timerProxy' with
          | error err' => exact Prog.Returns.value (hshort _ _ _ _)
          | ok _ =>
              refine (hreturns _ _ _).bind ?_
              intro nextRun _
              refine (hreturns _ _ _).bind ?_
              intro lastRun _
              refine (hreturns _ _ _).bind ?_
              intro persistent _
              refine (hreturns _ _ _).bind ?_
              intro result _
              exact Prog.Returns.value (hshort _ _ _ _)
      | ok _ =>
          obtain ⟨_, rfl, -⟩ := htimerProxy () rfl
          refine (readOptionalProperty_short _ _ _ _ _).bind ?_
          intro nextRun nextRun' hnextRun
          refine (readOptionalProperty_short _ _ _ _ _).bind ?_
          intro lastRun lastRun' hlastRun
          refine (readOptionalProperty_short _ _ _ _ _).bind ?_
          intro persistent persistent' hpersistent
          refine (readOptionalProperty_short _ _ _ _ _).bind ?_
          intro result result' hresult
          exact .value ⟨hunitFileState.bind _, hnextRun.bind _, hlastRun.bind _, htriggers.bind _,
            hpersistent, hresult.bind _⟩

end Asking

/-! ## Filling in rows -/

section Fill

variable {α δ : Type} {name : α → String} {fill : α → δ → α}

theorem lookup_filter_self (entries : List (String × δ)) (k : String) :
    (entries.filter (fun entry => entry.1 ≠ k)).lookup k = none := by
  rw [List.lookup_eq_none_iff]
  intro entry hentry
  have hne : entry.1 ≠ k := by simpa using (List.mem_filter.mp hentry).2
  simpa using Ne.symm hne

/-- What is found under a name is what every entry of that name says. -/
theorem lookup_of_functional {entries : List (String × δ)} {k : String} {value : δ}
    (honly : ∀ other, (k, other) ∈ entries → other = value) (h : (k, value) ∈ entries) :
    entries.lookup k = some value := by
  cases hlookup : entries.lookup k with
  | none =>
      have hne := List.lookup_eq_none_iff.mp hlookup (k, value) h
      simp at hne
  | some other => rw [honly other (mem_of_lookup hlookup)]

/-- **Rows are filled in with less, one by one**, when less is found under every name. -/
theorem fillDetails_short {R : α → α → Prop} {D : δ → δ → Prop} {rows : List α}
    (hrefl : ∀ row, R row row) (hfill : ∀ row found full, D found full →
      R (fill row found) (fill row full))
    {details details' : List (String × δ)}
    (hless : ∀ k found, details.lookup k = some found →
      ∃ full, details'.lookup k = some full ∧ D found full)
    (hlost : ∀ row ∈ rows, ∀ full, details.lookup (name row) = none →
      details'.lookup (name row) = some full → R row (fill row full)) :
    List.Forall₂ R (fillDetails name fill details rows) (fillDetails name fill details' rows) := by
  induction rows generalizing details details' with
  | nil => exact .nil
  | cons row rows ih =>
      have hlost' := fun other hother => hlost other (List.mem_cons_of_mem row hother)
      rw [fillDetails, fillDetails]
      cases hfound : details.lookup (name row) with
      | some found =>
          obtain ⟨full, hfull, hD⟩ := hless _ _ hfound
          rw [hfull]
          refine .cons (hfill row found full hD) (ih ?_ ?_)
          · intro k other hother
            by_cases hk : k = name row
            · rw [hk, lookup_filter_self] at hother
              cases hother
            · rw [lookup_filter_ne hk] at hother ⊢
              exact hless k other hother
          · intro other hother full' hnone hsome
            by_cases hk : name other = name row
            · rw [hk, lookup_filter_self] at hsome
              cases hsome
            · rw [lookup_filter_ne hk] at hnone hsome
              exact hlost' other hother full' hnone hsome
      | none =>
          cases hfull : details'.lookup (name row) with
          | none => exact .cons (hrefl row) (ih hless hlost')
          | some full =>
              refine .cons (hlost row List.mem_cons_self full hfound hfull) (ih ?_ ?_)
              · intro k other hother
                have hk : k ≠ name row := by
                  rintro rfl
                  rw [hfound] at hother
                  cases hother
                rw [lookup_filter_ne hk]
                exact hless k other hother
              · intro other hother full' hnone hsome
                by_cases hk : name other = name row
                · rw [hk, lookup_filter_self] at hsome
                  cases hsome
                · rw [lookup_filter_ne hk] at hsome
                  exact hlost' other hother full' hnone hsome

end Fill

/-! ## Listings -/

/-- The rows of a listing that has suffered: of both managers', all rows of one may be missing. -/
def RowsShort {α : Type} (scope : UnitScope) (manager : α → String) (R : α → α → Prop)
    (rows full : List α) : Prop :=
  List.Forall₂ R rows full
    ∨ scope = .both ∧ ∃ left ∈ [UnitScope.system, .user],
      List.Forall₂ R rows (full.filter fun row => manager row = left.asStr)

/-- Rows of one manager: in the order of their names, and tagged with its scope. -/
structure Arranged {α : Type} (name manager : α → String) (scope : UnitScope) (rows : List α) :
    Prop where
  sorted : rows.Pairwise (fun left right => name left ≤ name right)
  tagged : ∀ row ∈ rows, manager row = scope.asStr

/-- Less is found under every name when there are fewer entries, each with less, and a name's sound
entries all say the same. -/
theorem lookup_short {δ : Type} {D : δ → δ → Prop} {entries entries' : List (String × δ)}
    (hless : ∀ k found, (k, found) ∈ entries → ∃ full, (k, full) ∈ entries' ∧ D found full)
    (honly : ∀ k full other, (k, full) ∈ entries' → (k, other) ∈ entries' → other = full)
    (k : String) (found : δ) (h : entries.lookup k = some found) :
    ∃ full, entries'.lookup k = some full ∧ D found full := by
  obtain ⟨full, hfull, hD⟩ := hless k found (mem_of_lookup h)
  exact ⟨full, lookup_of_functional (fun other => honly k full other hfull) hfull, hD⟩

/-- Tasks look up every name at its own path. -/
theorem lookup_of_mem_lookupTasks {α : Type} {name : α → String} {paths : List (String × String)}
    {rows : List α} {task : String × String} (h : task ∈ lookupTasks name paths rows) :
    paths.lookup task.1 = some task.2 := by
  obtain ⟨row, -, htask⟩ := List.mem_filterMap.mp h
  obtain ⟨path, hpath, rfl⟩ := Option.map_eq_some_iff.mp htask
  exact hpath

/-- Filling in changes neither the order of rows nor their tags. -/
theorem Arranged.fillDetails {α δ : Type} {name manager : α → String} {fill : α → δ → α}
    (hname : ∀ row found, name (fill row found) = name row)
    (hmanager : ∀ row found, manager (fill row found) = manager row) {scope : UnitScope}
    {rows : List α} (h : Arranged name manager scope rows) (details : List (String × δ)) :
    Arranged name manager scope (fillDetails name fill details rows) := by
  refine ⟨?_, ?_⟩
  · have hsorted : (rows.map name).Pairwise (fun left right => left ≤ right) :=
      List.pairwise_map.mpr h.sorted
    rw [← map_fillDetails hname details] at hsorted
    exact List.pairwise_map.mp hsorted
  · intro row hrow
    have htag : manager row ∈ rows.map manager := by
      rw [← map_fillDetails hmanager details]
      exact List.mem_map_of_mem hrow
    obtain ⟨other, hother, heq⟩ := List.mem_map.mp htag
    rw [← heq]
    exact h.tagged other hother

section Listings

variable [Chrono] {sound : Snapshot}

/-- The lookups of services, one for every name and its path. -/
theorem serviceLookups_short {α : Type} (name : α → String) (scope : UnitScope)
    (paths : List (String × String)) (rows : List α) :
    Prog.Short faults sound (fun results results' => ∀ k found,
        results.reduceOption.reverse.lookup k = some found →
        ∃ full, results'.reduceOption.reverse.lookup k = some full ∧ found = full)
      ((lookupTasks name paths rows).mapM (fun task => do
        let details ← (fetchServiceDetails scope task.2).run
        return details.toOption.map (fun details => (task.1, details))))
      ((lookupTasks name paths rows).mapM (fun task => do
        let details ← (fetchServiceDetails scope task.2).run
        return details.toOption.map (fun details => (task.1, details)))) := by
  -- an answer under a name is the one there is at its path
  let Found (k : String) (full : ServiceDetails) : Prop := ∃ path,
    paths.lookup k = some path
      ∧ (fetchServiceDetails scope path).run.under sound = .done (.ok full)
  have htask : ∀ task ∈ lookupTasks name paths rows, Prog.Short faults sound
      (fun result result' => (∀ entry, result = some entry → result' = some entry)
        ∧ ∀ k full, result' = some (k, full) → Found k full)
      ((fetchServiceDetails scope task.2).run >>= fun details =>
        pure (details.toOption.map (fun details => (task.1, details))))
      ((fetchServiceDetails scope task.2).run >>= fun details =>
        pure (details.toOption.map (fun details => (task.1, details)))) := by
    intro task htask
    refine ((fetchServiceDetails_short scope task.2).short
      (fetchServiceDetails_errors scope task.2).returns).outcome.bind ?_
    rintro details details' ⟨hdetails, hsound⟩
    refine .value ⟨?_, ?_⟩
    · intro entry hentry
      obtain ⟨found, hfound, rfl⟩ := Option.map_eq_some_iff.mp hentry
      rw [hdetails.toOption_eq_some hfound]
      rfl
    · intro k full hentry
      cases details' with
      | error err => cases hentry
      | ok found =>
          cases hentry
          exact ⟨task.2, lookup_of_mem_lookupTasks htask, hsound⟩
  refine (Prog.Short.mapM htask).mono ?_
  intro results results' hresults
  have hmem : ∀ {entries : List (Option (String × ServiceDetails))} {k : String}
      {found : ServiceDetails},
      (k, found) ∈ entries.reduceOption.reverse ↔ some (k, found) ∈ entries := by
    intro entries k found
    rw [List.mem_reverse, List.reduceOption_mem_iff]
  refine lookup_short ?_ ?_
  · intro k found hfound
    obtain ⟨result', hresult', hsame, -⟩ :=
      forall₂_mem_left hresults (hmem.mp hfound)
    exact ⟨found, hmem.mpr (hsame _ rfl ▸ hresult'), rfl⟩
  · intro k full other hfull hother
    have hsound : ∀ value, (k, value) ∈ results'.reduceOption.reverse → Found k value := by
      intro value hvalue
      obtain ⟨result, -, -, hfound⟩ := forall₂_mem_right hresults (hmem.mp hvalue)
      exact hfound k value rfl
    obtain ⟨path, hpath, houtcome⟩ := hsound full hfull
    obtain ⟨path', hpath', houtcome'⟩ := hsound other hother
    rw [hpath] at hpath'
    cases hpath'
    rw [houtcome] at houtcome'
    cases houtcome'
    rfl

omit [Chrono] in
/-- Before its details are filled in, a row is the one without them. -/
theorem eq_bare_withDetails {rawUnits : List RawUnit} {scope : UnitScope} {row : UnitStatus}
    (h : row ∈ mapAndSortServiceUnits rawUnits scope) (details : ServiceDetails) :
    row = (row.withDetails details).bare := by
  obtain ⟨raw, -, rfl⟩ := List.mem_map.mp (List.mem_mergeSort.mp h)
  rfl

theorem listServiceUnitsForSingleScope_short (scope : UnitScope) :
    Prog.ShortOk faults sound (List.Forall₂ (Spared UnitStatus.bare))
      (listServiceUnitsForSingleScope scope) (listServiceUnitsForSingleScope scope) := by
  rw [listServiceUnitsForSingleScope]
  refine (dbusConnectionForScope_short scope).bind ?_
  rintro _ _ -
  refine (listUnitsRows_short scope).bind ?_
  rintro rawUnits _ rfl
  refine (Prog.ShortOk.lift (serviceLookups_short UnitStatus.unit scope
    (unitPaths ".service" rawUnits) (mapAndSortServiceUnits rawUnits scope))).bind ?_
  intro results results' hless
  refine .value (fillDetails_short (.refl _) ?_ hless ?_)
  · rintro row found _ rfl
    exact .inl rfl
  · intro row hrow full _ _
    exact .inr (eq_bare_withDetails hrow full)

theorem arranged_serviceListing (scope : UnitScope) (rawUnits : List RawUnit) :
    Arranged UnitStatus.unit UnitStatus.scope scope (serviceListing sound scope rawUnits) := by
  have hrows : Arranged UnitStatus.unit UnitStatus.scope scope
      (mapAndSortServiceUnits rawUnits scope) := by
    refine ⟨pairwise_mergeSort_key UnitStatus.unit _, ?_⟩
    intro row hrow
    obtain ⟨raw, -, rfl⟩ := List.mem_map.mp (List.mem_mergeSort.mp hrow)
    rfl
  rw [serviceListing]
  refine hrows.fillDetails ?_ ?_ _
  · intro row details
    rfl
  · intro row details
    rfl

/-- The lookups of timers: each is there, with what could be read. -/
theorem timerLookups_short {α : Type} (name : α → String) (scope : UnitScope)
    (names paths : List (String × String)) (rows : List α) :
    Prog.Short faults sound (fun results results' =>
        (∀ k found, results.reverse.lookup k = some found →
          ∃ full, results'.reverse.lookup k = some full ∧ found.Short full)
        ∧ results.map Prod.fst = results'.map Prod.fst)
      ((lookupTasks name paths rows).mapM (fun task => do
        let details ← fetchTimerDetails scope task.2 names
        return (task.1, details)))
      ((lookupTasks name paths rows).mapM (fun task => do
        let details ← fetchTimerDetails scope task.2 names
        return (task.1, details))) := by
  let Found (k : String) (full : TimerDetails) : Prop := ∃ path,
    paths.lookup k = some path ∧ (fetchTimerDetails scope path names).under sound = .done full
  have htask : ∀ task ∈ lookupTasks name paths rows, Prog.Short faults sound
      (fun result result' => result.1 = result'.1 ∧ result.2.Short result'.2
        ∧ Found result'.1 result'.2)
      (fetchTimerDetails scope task.2 names >>= fun details => pure (task.1, details))
      (fetchTimerDetails scope task.2 names >>= fun details => pure (task.1, details)) := by
    intro task htask
    refine (fetchTimerDetails_short scope task.2 names).outcome.bind ?_
    rintro details details' ⟨hdetails, hsound⟩
    exact .value ⟨rfl, hdetails, task.2, lookup_of_mem_lookupTasks htask, hsound⟩
  refine (Prog.Short.mapM htask).mono ?_
  intro results results' hresults
  refine ⟨lookup_short ?_ ?_, ?_⟩
  · intro k found hfound
    obtain ⟨⟨k', full⟩, hfull, rfl, hdetails, -⟩ :=
      forall₂_mem_left hresults (List.mem_reverse.mp hfound)
    exact ⟨full, List.mem_reverse.mpr hfull, hdetails⟩
  · intro k full other hfull hother
    have hsound : ∀ value, (k, value) ∈ results'.reverse → Found k value := by
      intro value hvalue
      obtain ⟨result, -, -, -, hfound⟩ := forall₂_mem_right hresults (List.mem_reverse.mp hvalue)
      exact hfound
    obtain ⟨path, hpath, houtcome⟩ := hsound full hfull
    obtain ⟨path', hpath', houtcome'⟩ := hsound other hother
    rw [hpath] at hpath'
    cases hpath'
    rw [houtcome] at houtcome'
    cases houtcome'
    rfl
  · have hsame := List.rel_map (R := fun (result result' : String × TimerDetails) =>
      result.1 = result'.1) (P := Eq) (fun _ _ h => h)
      (hresults.imp fun _ _ h => h.1)
    exact List.forall₂_eq_eq_eq ▸ hsame

theorem listTimerUnitsForSingleScope_short (scope : UnitScope) :
    Prog.ShortOk faults sound (List.Forall₂ TimerStatus.Short)
      (listTimerUnitsForSingleScope scope) (listTimerUnitsForSingleScope scope) := by
  rw [listTimerUnitsForSingleScope]
  refine (dbusConnectionForScope_short scope).bind ?_
  rintro _ _ -
  refine (listUnitsRows_short scope).bind ?_
  rintro rawUnits _ rfl
  refine (Prog.ShortOk.lift (timerLookups_short TimerStatus.unit scope (pathToName rawUnits)
    (unitPaths ".timer" rawUnits) (mapAndSortTimerUnits rawUnits scope))).bind ?_
  rintro results results' ⟨hless, hnames⟩
  refine .value (fillDetails_short TimerStatus.short_refl ?_ hless ?_)
  · intro row found full hfound
    exact row.short_withDetails hfound
  · -- no lookup of a timer is lost as a whole
    intro row _ full hlost hfull
    have hmem : row.unit ∈ results'.map Prod.fst :=
      List.mem_map_of_mem (List.mem_reverse.mp (mem_of_lookup hfull))
    rw [← hnames] at hmem
    obtain ⟨⟨k, found⟩, hfound, rfl⟩ := List.mem_map.mp hmem
    have hne := List.lookup_eq_none_iff.mp hlost _ (List.mem_reverse.mpr hfound)
    simp at hne

theorem arranged_timerListing (scope : UnitScope) (rawUnits : List RawUnit) :
    Arranged TimerStatus.unit TimerStatus.scope scope (timerListing sound scope rawUnits) := by
  have hrows : Arranged TimerStatus.unit TimerStatus.scope scope
      (mapAndSortTimerUnits rawUnits scope) := by
    refine ⟨pairwise_mergeSort_key TimerStatus.unit _, ?_⟩
    intro row hrow
    obtain ⟨raw, -, rfl⟩ := List.mem_map.mp (List.mem_mergeSort.mp hrow)
    rfl
  rw [timerListing]
  refine hrows.fillDetails ?_ ?_ _
  · intro row details
    rfl
  · intro row details
    rfl

/-! ## Both managers -/

omit [Chrono] in
/-- What a program finds is what it comes to without an error. -/
theorem Finds.eq_of_ok {α : Type} {p : HostTry α} {found : Option α} (h : Finds sound p found)
    {a : α} (ha : p.run.under sound = .done (.ok a)) : found = some a := by
  obtain ⟨answer, hanswer, rfl⟩ := h
  rw [ha] at hanswer
  cases hanswer
  rfl

section Both

variable {α : Type} (key : α → String) (R : α → α → Prop)

/-- The rows of those managers that have answered, by name. -/
def bothRows (system user : Except AppError (List α)) : List α :=
  (system.toOption.getD [] ++ user.toOption.getD []).mergeSort
    (fun left right => key left ≤ key right)

/-- What is listed of both managers, held against the sound outcomes for each. -/
inductive Merged (system user : Except AppError (List α)) (rows : List α) : Prop where
  | both (h : List.Forall₂ R rows (bothRows key system user))
  | systemOnly {full : List α} (hsystem : system = .ok full) (h : List.Forall₂ R rows full)
  | userOnly {full : List α} (huser : user = .ok full) (h : List.Forall₂ R rows full)

/-- A listing of both managers: some of it, and all of it. -/
def BothShort (sound : Snapshot) (single : UnitScope → HostTry (List α)) (rows full : List α) :
    Prop :=
  ∃ system user, (single .system).run.under sound = .done system
    ∧ (single .user).run.under sound = .done user
    ∧ full = bothRows key system user ∧ Merged key R system user rows

variable {key R} (hkey : ∀ row full, R row full → key row = key full)

include hkey

omit [Chrono] in
/-- Rows of both managers: those of one that fails are left out. -/
theorem combineScopeRowsByKey_short (unitKind : String)
    {system system' user user' : Except AppError (List α)}
    (hsystem : AtMost (List.Forall₂ R) system system') (huser : AtMost (List.Forall₂ R) user user')
    (hsorted : ∀ full, system' = .ok full ∨ user' = .ok full →
      full.Pairwise (fun left right => key left ≤ key right)) :
    AtMost (fun rows full => full = bothRows key system' user' ∧ Merged key R system' user' rows)
      (combineScopeRowsByKey system user unitKind key)
      (combineScopeRowsByKey system' user' unitKind key) := by
  have halone : ∀ {rows full : List α}, List.Forall₂ R rows full →
      (system' = .ok full ∨ user' = .ok full) →
      List.Forall₂ R (rows.mergeSort (fun left right => key left ≤ key right)) full := by
    intro rows full hrows hfull
    have hmerged := forall₂_mergeSort hkey hrows
    rwa [List.mergeSort_of_pairwise ((hsorted full hfull).imp fun hle => decide_eq_true hle)]
      at hmerged
  cases system with
  | error err =>
      cases user with
      | error err' => exact .error _ _
      | ok rows =>
          obtain ⟨full, rfl, hrows⟩ := huser rows rfl
          cases system' with
          | error err' => exact .ok ⟨rfl, .userOnly rfl (halone hrows (.inr rfl))⟩
          | ok others => exact .ok ⟨rfl, .userOnly rfl (halone hrows (.inr rfl))⟩
  | ok rows =>
      obtain ⟨full, rfl, hrows⟩ := hsystem rows rfl
      cases user with
      | error err =>
          have hmerged := halone hrows (.inl rfl)
          rw [← List.append_nil rows] at hmerged
          cases user' with
          | error err' => exact .ok ⟨rfl, .systemOnly rfl hmerged⟩
          | ok others => exact .ok ⟨rfl, .systemOnly rfl hmerged⟩
      | ok rows' =>
          obtain ⟨full', rfl, hrows'⟩ := huser rows' rfl
          exact .ok ⟨rfl, .both (forall₂_mergeSort hkey (List.rel_append hrows hrows'))⟩

omit [Chrono] in
theorem bothScopes_short (unitKind : String) {manager : α → String}
    {single : UnitScope → HostTry (List α)}
    (hsingle : ∀ scope,
      Prog.ShortOk faults sound (List.Forall₂ R) (single scope) (single scope))
    (hreturns : ∀ scope, (single scope).run.Returns (fun _ => True))
    (harranged : ∀ scope ∈ [UnitScope.system, .user], ∀ full,
      (single scope).run.under sound = .done (.ok full) → Arranged key manager scope full) :
    Prog.ShortOk faults sound (BothShort key R sound single) (bothScopes unitKind key single)
      (bothScopes unitKind key single) := by
  refine .of_short ?_
  refine ((hsingle .system).short (hreturns .system)).outcome.bind ?_
  rintro system system' ⟨hsystem, hsound⟩
  refine ((hsingle .user).short (hreturns .user)).outcome.bind ?_
  rintro user user' ⟨huser, hsound'⟩
  refine .value ((combineScopeRowsByKey_short hkey unitKind hsystem huser ?_).mono ?_)
  · rintro full (rfl | rfl)
    · exact (harranged .system (by decide) full hsound).sorted
    · exact (harranged .user (by decide) full hsound').sorted
  · rintro rows full ⟨hfull, hrows⟩
    exact ⟨system', user', hsound, hsound', hfull, hrows⟩

end Both

section BothRows

variable {α : Type} {key manager : α → String} {R : α → α → Prop} {rows rows' : List α}

omit [Chrono] in
/-- The rows of one manager are found as they are among those of both. -/
theorem filter_mergeSort_manager {scope scope' : UnitScope} (h : Arranged key manager scope rows)
    (h' : Arranged key manager scope' rows') (hne : scope'.asStr ≠ scope.asStr)
    {all : List α} (hall : all = rows ++ rows' ∨ all = rows' ++ rows) :
    (all.mergeSort (fun left right => key left ≤ key right)).filter
      (fun row => manager row = scope.asStr) = rows := by
  have hown : rows.filter (fun row => manager row = scope.asStr) = rows :=
    List.filter_eq_self.mpr fun row hrow => decide_eq_true (h.tagged row hrow)
  have hother : rows'.filter (fun row => manager row = scope.asStr) = [] := by
    refine List.filter_eq_nil_iff.mpr ?_
    intro row hrow
    rw [h'.tagged row hrow, decide_eq_true_eq]
    exact hne
  have hfilter : all.filter (fun row => manager row = scope.asStr) = rows := by
    rcases hall with rfl | rfl
    · rw [List.filter_append, hown, hother, List.append_nil]
    · rw [List.filter_append, hown, hother, List.nil_append]
  rw [filter_mergeSort_of_pairwise (Comparison.ofKey key), hfilter]
  rw [hfilter]
  exact h.sorted.imp fun hle => decide_eq_true hle

variable {system user : Except AppError (List α)}

omit [Chrono] in
theorem arranged_getD {scope : UnitScope} {answer : Except AppError (List α)}
    (h : ∀ full, answer = .ok full → Arranged key manager scope full) :
    Arranged key manager scope (answer.toOption.getD []) := by
  cases answer with
  | ok full => exact h full rfl
  | error err => exact ⟨.nil, List.forall_mem_nil _⟩

omit [Chrono] in
theorem Merged.rowsShort (h : Merged key R system user rows)
    (hsystem : ∀ full, system = .ok full → Arranged key manager .system full)
    (huser : ∀ full, user = .ok full → Arranged key manager .user full) :
    RowsShort .both manager R rows (bothRows key system user) := by
  cases h with
  | both h => exact .inl h
  | @systemOnly full heq h =>
      refine .inr ⟨rfl, .system, by decide, ?_⟩
      rw [bothRows, filter_mergeSort_manager (arranged_getD hsystem) (arranged_getD huser)
        (by decide) (.inl rfl), heq]
      exact h
  | @userOnly full heq h =>
      refine .inr ⟨rfl, .user, by decide, ?_⟩
      rw [bothRows, filter_mergeSort_manager (arranged_getD huser) (arranged_getD hsystem)
        (by decide) (.inr rfl), heq]
      exact h

omit [Chrono] in
theorem BothShort.rowsShort {single : UnitScope → HostTry (List α)} {full : List α}
    (h : BothShort key R sound single rows full)
    (harranged : ∀ scope ∈ [UnitScope.system, .user], ∀ full,
      (single scope).run.under sound = .done (.ok full) → Arranged key manager scope full) :
    RowsShort .both manager R rows full := by
  obtain ⟨system, user, hsystem, huser, rfl, hrows⟩ := h
  refine hrows.rowsShort ?_ ?_
  · rintro full rfl
    exact harranged .system (by decide) full hsystem
  · rintro full rfl
    exact harranged .user (by decide) full huser

omit [Chrono] in
/-- A name is looked up among the system manager's rows first. -/
theorem find?_bothRows (name : String) :
    (bothRows key system user).find? (fun row => key row == name)
      = ((system.toOption.getD []).find? (fun row => key row == name)).or
          ((user.toOption.getD []).find? (fun row => key row == name)) := by
  have hclass : ∀ left right : α, (key left == name) = true → (key right == name) = true →
      decide (key left ≤ key right) = true := by
    intro left right hleft hright
    rw [beq_iff_eq.mp hleft, beq_iff_eq.mp hright]
    exact decide_eq_true (le_refl name)
  rw [← List.find?_append, ← List.head?_filter, ← List.head?_filter, bothRows,
    filter_mergeSort (Comparison.ofKey key) hclass]

end BothRows

theorem listServiceUnitsForSingleScope_arranged : ∀ scope ∈ [UnitScope.system, .user], ∀ full,
    (listServiceUnitsForSingleScope scope).run.under sound = .done (.ok full) →
      Arranged UnitStatus.unit UnitStatus.scope scope full := by
  intro scope hscope full hfull
  have hconcrete : scope ≠ .both := by
    rintro rfl
    exact absurd hscope (by decide)
  have hfound := (finds_listServiceUnitsForSingleScope sound hconcrete).eq_of_ok hfull
  obtain ⟨rawUnits, -, rfl⟩ := Option.map_eq_some_iff.mp hfound
  exact arranged_serviceListing scope rawUnits

theorem listTimerUnitsForSingleScope_arranged : ∀ scope ∈ [UnitScope.system, .user], ∀ full,
    (listTimerUnitsForSingleScope scope).run.under sound = .done (.ok full) →
      Arranged TimerStatus.unit TimerStatus.scope scope full := by
  intro scope hscope full hfull
  have hconcrete : scope ≠ .both := by
    rintro rfl
    exact absurd hscope (by decide)
  have hfound := (finds_listTimerUnitsForSingleScope sound hconcrete).eq_of_ok hfull
  obtain ⟨rawUnits, -, rfl⟩ := Option.map_eq_some_iff.mp hfound
  exact arranged_timerListing scope rawUnits

/-- The services of both managers. -/
theorem bothServices_short :
    Prog.ShortOk faults sound
      (BothShort UnitStatus.unit (Spared UnitStatus.bare) sound listServiceUnitsForSingleScope)
      (listServiceUnits .both) (listServiceUnits .both) :=
  bothScopes_short (fun _ _ h => h.congr fun _ => rfl) _ listServiceUnitsForSingleScope_short
    (fun scope => (listServiceUnitsForSingleScope_errors scope).returns)
    listServiceUnitsForSingleScope_arranged

/-- A listing of any scope. -/
theorem listServiceUnits_short (scope : UnitScope) :
    Prog.ShortOk faults sound (RowsShort scope UnitStatus.scope (Spared UnitStatus.bare))
      (listServiceUnits scope) (listServiceUnits scope) := by
  cases scope with
  | both =>
      exact bothServices_short.mono fun _ _ h =>
        h.rowsShort listServiceUnitsForSingleScope_arranged
  | system => exact (listServiceUnitsForSingleScope_short _).mono fun _ _ h => .inl h
  | user => exact (listServiceUnitsForSingleScope_short _).mono fun _ _ h => .inl h

theorem listTimerUnits_short (scope : UnitScope) :
    Prog.ShortOk faults sound (RowsShort scope TimerStatus.scope TimerStatus.Short)
      (listTimerUnits scope) (listTimerUnits scope) := by
  cases scope with
  | both =>
      refine (bothScopes_short (fun _ _ h => h.unit) _ listTimerUnitsForSingleScope_short
        (fun scope => (listTimerUnitsForSingleScope_errors scope).returns)
        listTimerUnitsForSingleScope_arranged).mono ?_
      intro rows full h
      exact h.rowsShort listTimerUnitsForSingleScope_arranged
  | system => exact (listTimerUnitsForSingleScope_short _).mono fun _ _ h => .inl h
  | user => exact (listTimerUnitsForSingleScope_short _).mono fun _ _ h => .inl h

omit [Chrono] in
theorem systemState_short (scope : UnitScope) :
    Prog.ShortOk faults sound Eq (systemState scope) (systemState scope) := by
  refine (dbusConnectionForScope_short scope).bind ?_
  rintro _ _ -
  refine (short_proxy _ _ _ _).bind ?_
  rintro _ _ -
  exact short_property _ _ _ _ _ _

omit [Chrono] in
/-- The first row of a name has suffered as its row has. -/
theorem find?_short {α : Type} {R : α → α → Prop} (key : α → String)
    (hkey : ∀ row full, R row full → key row = key full) {rows full : List α}
    (h : List.Forall₂ R rows full) (name : String) :
    Option.Rel R (rows.find? (fun row => key row == name))
      (full.find? (fun row => key row == name)) := by
  induction h with
  | nil => exact .none
  | @cons row other rows full hrow _ ih =>
      rw [List.find?_cons, List.find?_cons, hkey row other hrow]
      split
      · exact .some hrow
      · exact ih

end Listings

end SystemdMonitoring
