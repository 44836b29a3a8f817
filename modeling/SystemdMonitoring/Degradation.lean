/-
# `SystemdMonitoring.Degradation` — what a provider answers on a host that fails

Each answer of the host may fail or not, whatever the others do, and a monitor
is asked for answers on the very days on which that happens.  A provider that
answers nevertheless, without an error, has not made anything up: held against
the answer on the sound host its own is the same but for what was lost
(`faults_take_away`).

What may be lost is said operation by operation (`ProviderOp.Short`).  Most of
it is a field that is `null`.  Not all: a listing of both managers may lack the
rows of one, all of them, and an inspection may lack dependencies or its whole
history.

Two answers are not less, but others.  The trigger of a timer falls back to the
timer's own service, and the start of a service that both managers have is the
user manager's when the system manager does not answer.  There a reader cannot
tell what is known from what stands in for it.
-/
import SystemdMonitoring.Domain.Rejections
import SystemdMonitoring.Provider
import SystemdMonitoring.Systemd.Faults
import SystemdMonitoring.Systemd.Transitions

namespace SystemdMonitoring

open Lib Lib.Text

/-! ## Dependencies -/

/-- An entry is what its name and its relationship say. -/
theorem brokenDependency_of_mem {requires wants : List String} {rows : List RawUnit}
    {dependency : FailedDependency} (h : dependency ∈ brokenDependencies requires wants rows) :
    dependency.unit ∈ relatedNames requires wants dependency.relationship
      ∧ brokenDependency dependency.relationship dependency.unit
        ((rowsByName rows).lookup dependency.unit) = some dependency := by
  have hkey : ∀ {relationship name : String} {row : Option RawUnit},
      brokenDependency relationship name row = some dependency →
      dependency.unit = name ∧ dependency.relationship = relationship := by
    intro relationship name row hbroken
    cases row with
    | none =>
        cases hbroken
        exact ⟨rfl, rfl⟩
    | some row =>
        rw [brokenDependency] at hbroken
        split at hbroken
        · cases hbroken
          exact ⟨rfl, rfl⟩
        · cases hbroken
  rcases List.mem_append.mp h with hrequires | hwants
  · obtain ⟨name, hname, hbroken⟩ := List.mem_filterMap.mp hrequires
    obtain ⟨rfl, hrelated⟩ := hkey hbroken
    rw [hrelated]
    exact ⟨hname, hbroken⟩
  · obtain ⟨name, hname, hbroken⟩ := List.mem_filterMap.mp hwants
    obtain ⟨rfl, hrelated⟩ := hkey hbroken
    rw [hrelated]
    exact ⟨hname, hbroken⟩

theorem mem_brokenDependencies_iff {requires wants : List String} {rows : List RawUnit}
    {dependency : FailedDependency} :
    dependency ∈ brokenDependencies requires wants rows
      ↔ dependency.unit ∈ relatedNames requires wants dependency.relationship
        ∧ brokenDependency dependency.relationship dependency.unit
          ((rowsByName rows).lookup dependency.unit) = some dependency := by
  refine ⟨brokenDependency_of_mem, ?_⟩
  rintro ⟨hname, hbroken⟩
  rw [relatedNames] at hname
  split at hname
  case isTrue hrelated =>
    rw [hrelated] at hbroken
    exact List.mem_append_left _ (List.mem_filterMap.mpr ⟨_, hname, hbroken⟩)
  case isFalse =>
    split at hname
    case isTrue hrelated =>
      rw [hrelated] at hbroken
      exact List.mem_append_right _ (List.mem_filterMap.mpr ⟨_, hname, hbroken⟩)
    case isFalse => cases hname

theorem relatedNames_subset {requires requires' wants wants' : List String}
    (hrequires : requires ⊆ requires') (hwants : wants ⊆ wants') (relationship : String) :
    relatedNames requires wants relationship ⊆ relatedNames requires' wants' relationship := by
  rw [relatedNames, relatedNames]
  split
  · exact hrequires
  · split
    · exact hwants
    · exact List.Subset.refl _

/-- Names that are not known of are dependencies that are not reported; the others still are. -/
theorem classify_sublist {requires requires' wants wants' : List String} (rows : List RawUnit)
    (hrequires : requires ⊆ requires') (hwants : wants ⊆ wants') :
    (classifyFailedDependencies requires wants rows).Sublist
      (classifyFailedDependencies requires' wants' rows) := by
  have hunique : ∀ requires wants : List String,
      ∀ left ∈ brokenDependencies requires wants rows,
      ∀ right ∈ brokenDependencies requires wants rows, left.key = right.key → left = right := by
    intro requires wants left hleft right hright hkey
    obtain ⟨hunit, hrelated⟩ := key_eq_iff.mp hkey
    have heq := (mem_brokenDependencies_iff.mp hleft).2
    rw [hunit, hrelated, (mem_brokenDependencies_iff.mp hright).2] at heq
    exact (Option.some.inj heq).symm
  obtain ⟨hsorted, hmem⟩ := classify_of_unique (hunique requires wants)
  obtain ⟨hsorted', hmem'⟩ := classify_of_unique (hunique requires' wants')
  refine sublist_of_pairwise_lt hsorted hsorted' ?_
  intro dependency hdependency
  rw [hmem] at hdependency
  rw [hmem']
  obtain ⟨hname, hbroken⟩ := mem_brokenDependencies_iff.mp hdependency
  exact mem_brokenDependencies_iff.mpr
    ⟨relatedNames_subset hrequires hwants _ hname, hbroken⟩

/-! ## Inspection -/

/-- A dependency whose result is unknown. -/
def FailedDependency.bare (dependency : FailedDependency) : FailedDependency :=
  { dependency with result := none }

/-- The document of an inspection. -/
def statusDocument (row : UnitStatus) (dependencies : List FailedDependency)
    (transitions : List UnitTransition) : Json :=
  .obj (Json.setMember
    (Json.setMember row.members "failed_dependencies"
      (.arr (dependencies.map FailedDependency.json)))
    "recent_transitions" (.arr (transitions.map UnitTransition.json)))

/-- The row with all its details or none, some dependencies, and all of the history or nothing. -/
inductive StatusShort : Json → Json → Prop where
  | mk {row fullRow : UnitStatus} {dependencies fullDependencies : List FailedDependency}
      {transitions fullTransitions : List UnitTransition}
      (hrow : Spared UnitStatus.bare row fullRow)
      (hdependencies :
        List.SublistForall₂ (Spared FailedDependency.bare) dependencies fullDependencies)
      (htransitions : transitions = []
        ∨ List.Forall₂ (Spared UnitTransition.withoutCursor) transitions fullTransitions) :
      StatusShort (statusDocument row dependencies transitions)
        (statusDocument fullRow fullDependencies fullTransitions)

section Inspection

variable [Chrono] {sound : Snapshot}

theorem dependencyResult_short (scope : UnitScope) (rows : List RawUnit)
    (dependency : FailedDependency) :
    Prog.Short faults sound (Spared FailedDependency.bare) (dependencyResult scope rows dependency)
      (dependencyResult scope rows dependency) := by
  rw [dependencyResult]
  split
  · split
    · refine ((fetchServiceDetails_short scope _).short
        (fetchServiceDetails_errors scope _).returns).bind ?_
      intro details details' hdetails
      refine .value ?_
      rcases (orMissing_toOption hdetails).bind ServiceDetails.result with hresult | hresult
      · exact .inl (by rw [hresult])
      · exact .inr (by rw [hresult]; rfl)
    · exact .value (.refl _ _)
  · exact .value (.refl _ _)

theorem dependencyResult_returns (scope : UnitScope) (rows : List RawUnit)
    (dependency : FailedDependency) :
    (dependencyResult scope rows dependency).Returns (fun _ => True) := by
  rw [dependencyResult]
  split
  · split
    · refine (fetchServiceDetails_errors scope _).returns.bind ?_
      intro details _
      exact Prog.Returns.value trivial
    · exact Prog.Returns.value trivial
  · exact Prog.Returns.value trivial

theorem readFailedDependencies_short (scope : UnitScope) (unitPath : String) :
    Prog.ShortOk faults sound (List.SublistForall₂ (Spared FailedDependency.bare))
      (readFailedDependencies scope unitPath) (readFailedDependencies scope unitPath) := by
  have hsubset : ∀ {names names' : Option (List String)}, OrMissing names names' →
      names.getD [] ⊆ names'.getD [] := by
    rintro names names' (rfl | rfl)
    · exact List.Subset.refl _
    · exact List.nil_subset _
  refine (short_proxy _ _ _ _).bind ?_
  rintro _ _ -
  refine (Prog.ShortOk.lift (readOptionalProperty_short _ _ _ _ _)).bind ?_
  intro requires requires' hrequires
  refine (Prog.ShortOk.lift (readOptionalProperty_short _ _ _ _ _)).bind ?_
  intro wants wants' hwants
  refine (listUnitsRows_short scope).bind ?_
  rintro rows _ rfl
  refine .lift (Prog.Short.mapM_sublist ?_ (dependencyResult_returns scope rows) ?_)
  · exact classify_sublist rows (hsubset hrequires) (hsubset hwants)
  · intro dependency _
    exact dependencyResult_short scope rows dependency

theorem readUnitTransitions_short (unit : String) (scope : UnitScope) (limit : Nat) :
    Prog.ShortOk faults sound (List.Forall₂ (Spared UnitTransition.withoutCursor))
      (readUnitTransitions unit scope limit) (readUnitTransitions unit scope limit) := by
  rw [readUnitTransitions]
  split
  · exact .throw _ _
  · refine (Prog.ShortOk.lift (ask_short (.openJournal scope))).bind ?_
    intro opened opened' hopened
    exact .of_short (.value (transitionsOf_short hopened unit limit))

theorem recentTransitions_short (scope : UnitScope) (unit : String) (limit : Nat) :
    Prog.Short faults sound (fun transitions full => transitions = []
        ∨ List.Forall₂ (Spared UnitTransition.withoutCursor) transitions full)
      (recentTransitions scope unit limit) (recentTransitions scope unit limit) := by
  have hreturns : (readUnitTransitions unit scope limit).run.Returns (fun _ => True) := by
    rw [readUnitTransitions]
    split
    · exact Prog.Returns.value trivial
    · intro opened
      exact ⟨_, rfl, trivial⟩
  rw [recentTransitions]
  refine ((readUnitTransitions_short unit scope limit).short hreturns).bind ?_
  intro transitions transitions' htransitions
  refine (ask_short .joinReader).bind ?_
  intro joined joined' hjoined
  cases joined with
  | error err =>
      refine .of_left ?_
      cases joined' with
      | error err' => exact Prog.Returns.value (.inl rfl)
      | ok _ => exact Prog.Returns.value (.inl rfl)
  | ok _ =>
      obtain ⟨_, rfl, -⟩ := hjoined () rfl
      refine .value ?_
      cases transitions with
      | error err => exact .inl rfl
      | ok found =>
          obtain ⟨full, rfl, hfound⟩ := htransitions found rfl
          exact .inr hfound

theorem getUnitStatus_short (unit : String) (scope : UnitScope) (transitionLimit : Nat) :
    Prog.ShortOk faults sound StatusShort (getUnitStatus unit scope transitionLimit)
      (getUnitStatus unit scope transitionLimit) := by
  rw [getUnitStatus]
  split
  · exact .throw _ _
  · refine (listServiceUnitsForSingleScope_short scope).bind ?_
    intro rows full hrows
    have hfound := find?_short UnitStatus.unit (fun _ _ h => h.congr fun _ => rfl) hrows unit
    revert hfound
    generalize rows.find? (fun row => row.unit == unit) = row
    generalize full.find? (fun row => row.unit == unit) = row'
    intro hfound
    cases hfound with
    | none => exact .throw _ _
    | @some row row' hrow =>
        refine (dbusConnectionForScope_short scope).bind ?_
        rintro _ _ -
        refine (short_proxy _ _ _ _).bind ?_
        rintro _ _ -
        refine (Prog.ShortOk.lift (ask_short (.getUnit scope unit))).bind ?_
        intro unitPath unitPath' hunitPath
        cases unitPath with
        | error err => exact .throw _ _
        | ok path =>
            obtain ⟨_, rfl, rfl⟩ := hunitPath path rfl
            refine (Prog.ShortOk.lift ((readFailedDependencies_short scope path).short
              (readFailedDependencies_errors scope path).returns)).bind ?_
            intro dependencies dependencies' hdependencies
            refine (Prog.ShortOk.lift (recentTransitions_short scope unit transitionLimit)).bind ?_
            intro transitions transitions' htransitions
            refine .value (.mk hrow ?_ htransitions)
            cases dependencies with
            | error err => exact .nil
            | ok found =>
                obtain ⟨full, rfl, hfound⟩ := hdependencies found rfl
                exact hfound

/-- The start that is read off a listing. -/
def startIn (unit : String) (rows : List UnitStatus) : Option DateTime :=
  ((rows.find? (fun row => row.unit == unit)).bind UnitStatus.sinceUtc).bind
    (fun value => (Chrono.parseFromRfc3339 value).map Prod.fst)

theorem unitMainStart_eq (unit : String) (scope : UnitScope) :
    unitMainStart unit scope = listServiceUnits scope >>= fun rows => pure (startIn unit rows) :=
  rfl

/-- The start, or that it is not known.  Where both managers are asked and only the one of the user
answers, it is the start of the service that is there under this name. -/
def StartShort (sound : Snapshot) (unit : String) (scope : UnitScope)
    (start full : Option DateTime) : Prop :=
  OrMissing start full
    ∨ scope = .both ∧ ∃ other, (unitMainStart unit .user).run.under sound = .done (.ok other)
      ∧ OrMissing start other

theorem startIn_short {rows full : List UnitStatus}
    (h : List.Forall₂ (Spared UnitStatus.bare) rows full) (unit : String) :
    OrMissing (startIn unit rows) (startIn unit full) := by
  have hfound := find?_short UnitStatus.unit (fun _ _ h => h.congr fun _ => rfl) h unit
  rw [startIn, startIn]
  revert hfound
  generalize rows.find? (fun row => row.unit == unit) = row
  generalize full.find? (fun row => row.unit == unit) = row'
  intro hfound
  cases hfound with
  | none => exact .refl _ _
  | some hrow =>
      refine OrMissing.bind ?_ _
      rcases hrow with rfl | rfl
      · exact .refl _ _
      · exact .inr rfl

/-- Among the rows of both managers the start is the system manager's service's, if it has one of
that name. -/
theorem startIn_bothRows {full : List UnitStatus} {user : Except AppError (List UnitStatus)}
    {start : Option DateTime} {unit : String} (h : OrMissing start (startIn unit full)) :
    OrMissing start (startIn unit (bothRows UnitStatus.unit (.ok full) user)) := by
  rw [startIn, find?_bothRows]
  rw [startIn] at h
  have hrows : (Except.ok full : Except AppError (List UnitStatus)).toOption.getD [] = full := rfl
  rw [hrows]
  cases hrow : full.find? (fun row => row.unit == unit) with
  | some row =>
      rw [hrow] at h
      exact h
  | none =>
      rw [hrow] at h
      rcases h with rfl | rfl
      · exact .inr rfl
      · exact .inr rfl

theorem unitMainStart_short (unit : String) (scope : UnitScope) :
    Prog.ShortOk faults sound (StartShort sound unit scope) (unitMainStart unit scope)
      (unitMainStart unit scope) := by
  cases scope with
  | system =>
      refine (listServiceUnitsForSingleScope_short .system).bind ?_
      intro rows full hrows
      exact .value (.inl (startIn_short hrows unit))
  | user =>
      refine (listServiceUnitsForSingleScope_short .user).bind ?_
      intro rows full hrows
      exact .value (.inl (startIn_short hrows unit))
  | both =>
      refine bothServices_short.bind ?_
      rintro rows _ ⟨system, user, -, huser, rfl, hrows⟩
      refine .value ?_
      cases hrows with
      | both h => exact .inl (startIn_short h unit)
      | systemOnly heq h =>
          subst heq
          exact .inl (startIn_bothRows (startIn_short h unit))
      | @userOnly full heq h =>
          subst heq
          refine .inr ⟨rfl, startIn unit full, ?_, startIn_short h unit⟩
          rw [unitMainStart_eq, ExceptT.run_bind]
          exact Prog.under_bind huser _

end Inspection

/-! ## All operations -/

/-- What is left of an operation's answer. -/
def ProviderOp.Short [Chrono] (sound : Snapshot) : (o : ProviderOp) → o.Row → o.Row → Prop
  | .systemState _ => Eq
  | .listServiceUnits scope => RowsShort scope UnitStatus.scope (Spared UnitStatus.bare)
  | .getUnitStatus _ _ _ => StatusShort
  | .listTimerUnits scope => RowsShort scope TimerStatus.scope TimerStatus.Short
  | .listJournalLogs _ => LogQueryResult.Short
  -- of two managers the one that is left may have a unit of that name, too
  | .unitMainStart unit scope => StartShort sound unit scope
  | .containerStatus _ => Eq
  | .podStatus _ => Eq

section Providers

variable [Chrono] [RegexEngine] [SerdeJson] {sound : Snapshot}

omit [Chrono] [SerdeJson] in
/-- The journal operations of a page. -/
theorem listJournalLogs_short [Chrono] (query : LogQuery) :
    Prog.ShortOk faults sound LogQueryResult.Short (listJournalLogs query)
      (listJournalLogs query) := by
  refine .of_short ?_
  refine (ask_short (.openJournal query.scope)).bind ?_
  intro opened opened' hopened
  refine (ask_short .joinReader).bind ?_
  intro joined joined' hjoined
  cases joined with
  | error err =>
      refine .of_left ?_
      cases joined' with
      | error err' => exact Prog.Returns.value (.error _ _)
      | ok _ => exact Prog.Returns.value (.error _ _)
  | ok _ =>
      obtain ⟨_, rfl, -⟩ := hjoined () rfl
      exact .value (readJournalLogs_short hopened query)

omit [Chrono] [RegexEngine] in
theorem commandResult_short (notFoundCode : String) {outcome full : CommandOutcome}
    (h : outcome = full ∨ outcome.Unsuccessful) :
    AtMost Eq (Podman.commandResult notFoundCode outcome)
      (Podman.commandResult notFoundCode full) := by
  rcases h with rfl | hunsuccessful
  · exact .refl _
  · intro value hvalue
    exfalso
    cases outcome with
    | timedOut => cases hvalue
    | notFound => cases hvalue
    | failed err => cases hvalue
    | finished success stdout stderr =>
        cases success with
        | true => exact hunsuccessful stdout stderr rfl
        | false =>
            simp only [Podman.commandResult] at hvalue
            split at hvalue
            · cases hvalue
            · simp only [Bool.not_false, if_true] at hvalue
              split at hvalue
              · cases hvalue
              · split at hvalue <;> cases hvalue

omit [Chrono] [RegexEngine] in
theorem inspect_short (kind : Podman.Kind) (compact : Json → Except AppError Json)
    (value : String) :
    Prog.ShortOk faults sound Eq (Podman.inspect kind compact value)
      (Podman.inspect kind compact value) := by
  have hpure : ∀ {α : Type} (answer : Except AppError α),
      Prog.ShortOk faults sound Eq (ExceptT.mk (pure answer) : HostTry α)
        (ExceptT.mk (pure answer)) :=
    fun answer => .of_short (.value (.refl _))
  rw [Podman.inspect]
  refine (hpure _).bind ?_
  rintro _ _ -
  refine Prog.ShortOk.bind (R := Eq) ?_ ?_
  · refine .of_short ((ask_short (.podman _)).bind ?_)
    intro outcome full houtcome
    exact .value (commandResult_short _ houtcome)
  · rintro raw _ rfl
    exact hpure _

/-- Losses of the host are losses of the provider. -/
theorem fulfil_short (o : ProviderOp) :
    Prog.Short faults sound (AtMost (o.Short sound)) (fulfil o) (fulfil o) := by
  have hshort : ∀ {α : Type} {R : α → α → Prop} {p : HostTry α},
      Prog.ShortOk faults sound R p p → p.run.Returns (fun _ => True) →
      Prog.Short faults sound (AtMost R) p.run p.run := fun h => h.short
  have hreturns := fulfil_returns o
  cases o with
  | systemState scope => exact hshort (systemState_short scope) hreturns
  | listServiceUnits scope => exact hshort (listServiceUnits_short scope) hreturns
  | getUnitStatus unit scope limit => exact hshort (getUnitStatus_short unit scope limit) hreturns
  | listTimerUnits scope => exact hshort (listTimerUnits_short scope) hreturns
  | listJournalLogs query => exact hshort (listJournalLogs_short query) hreturns
  | unitMainStart unit scope => exact hshort (unitMainStart_short unit scope) hreturns
  | containerStatus container => exact hshort (inspect_short _ _ container) hreturns
  | podStatus pod => exact hshort (inspect_short _ _ pod) hreturns

/-- **A fault takes away and adds nothing.**  Whatever fails on a host, independently of all else
and differently every time: a provider that answers without an error has an answer on the sound
host, too, and its own is that one but for what was lost. -/
theorem faults_take_away {σ : Type} {host : Host HostSig σ} (o : ProviderOp)
    (hfaults : ∀ asked s, faults asked (host.answer asked s).1 (sound asked)) (s : σ) {row : o.Row}
    (h : ((fulfil o).run host s).result = .done (.ok row)) :
    ∃ full, (fulfil o).under sound = .done (.ok full) ∧ o.Short sound row full := by
  obtain ⟨answer, hanswer, answer', hsound, hshort⟩ := (fulfil_short o).run hfaults s
  rw [h] at hanswer
  cases hanswer
  obtain ⟨full, rfl, hrow⟩ := hshort row rfl
  exact ⟨full, hsound, hrow⟩

end Providers

/-- A journal of one entry, the cursor of which cannot be read. -/
def unreadableCursor : Journal where
  entries := [userServiceEntry]
  nearest := fun _ => none
  fault
    | .cursor _ => some "interrupted"
    | _ => none

/-- The page has its row, without a cursor to go on from. -/
theorem faults_take_away_cursor : ∃ result,
    ((@fulfil rfc3339 noRegex noJson (.listJournalLogs userServiceQuery)).run
        (Host.fixed (journalOnly unreadableCursor)) ()).result = .done (.ok result)
    ∧ result.entries.map JournalLogEntry.cursor = [none]
    ∧ ∃ full, (@fulfil rfc3339 noRegex noJson (.listJournalLogs userServiceQuery)).under
          (journalOnly { unreadableCursor with fault := fun _ => none }) = .done (.ok full)
        ∧ result.Short full := by
  refine ⟨_, rfl, rfl, @faults_take_away rfc3339 noRegex noJson
    (journalOnly { unreadableCursor with fault := fun _ => none }) _
    (Host.fixed (journalOnly unreadableCursor)) (.listJournalLogs userServiceQuery) ?_ () _ rfl⟩
  intro asked _
  cases asked with
  | openJournal scope => exact .ok ⟨rfl, rfl, fun _ _ => rfl⟩
  | podman args => exact .inl rfl
  | joinReader => exact .refl _
  | _ => exact .error _ _

end SystemdMonitoring
