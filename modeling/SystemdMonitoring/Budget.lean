/-
# `SystemdMonitoring.Budget` — how much work a provider makes

Counted in operations on the machine.  Each provider operation has a fixed part
(`ProviderOp.steps`), and beyond that makes work only with the rows that a
manager has handed to it: seven reads for a service, eight for a timer, and for
a failed dependency again seven.

What is not counted is the reading of a journal: opening it is one operation, and
waiting for its reader is one, however many entries the reader visits.

A row can be reported as a failed dependency twice, once required and once
wanted, and no more often than that, for the classification drops what it has
reported already (`length_classified_le`).  So fourteen operations a row pay for
everything that is done with it, whatever the machine answers, and also when it
names one unit in many rows (`fulfil_affords`).
-/
import Mathlib.Data.List.ProdSigma
import SystemdMonitoring.Lib.Credit
import SystemdMonitoring.Provider
import SystemdMonitoring.Systemd.Dependencies

namespace SystemdMonitoring

open Lib Lib.Text

/-! ## The tariff -/

/-- The rows that an answer hands out. -/
def rowsIn : Exchange HostSig → Nat
  | ⟨.listUnits _, .ok rows⟩ => rows.length
  | _ => 0

def perRow : Nat := 14

/-- Each operation counts once, and each row pays for its lookups. -/
def machineTariff : Tariff HostSig := ⟨fun _ => 1, fun exchange => perRow * rowsIn exchange⟩

/-- How many managers a scope means. -/
def UnitScope.count : UnitScope → Nat
  | .both => 2
  | _ => 1

/-- What an operation comes to without the rows, and without the moves of a journal's reader. -/
def ProviderOp.steps : ProviderOp → Nat
  | .systemState _ => 3
  | .listServiceUnits scope | .listTimerUnits scope | .unitMainStart _ scope => 3 * scope.count
  | .getUnitStatus _ _ _ => 13
  | .listJournalLogs _ => 2
  | .containerStatus _ | .podStatus _ => 1

/-- A provider's program that can be paid for. -/
abbrev Affordable {α : Type} (credit : Nat) (p : HostProg α) : Prop :=
  p.Affords machineTariff credit

namespace Affordable

variable {α β : Type} {c d : Nat}

theorem value (a : α) : Affordable c (pure a : HostProg α) := trivial

theorem ask (o : HostOp) : Affordable 1 (ask o) := .call (Nat.le_refl 1)

theorem failing (context : String) {p : HostProg (Except String α)} (hp : Affordable c p) :
    Affordable c (failing context p).run :=
  hp.map (orInternal context)

theorem andThen {p : HostTry α} {f : α → HostTry β} (hp : Affordable c p.run)
    (hf : ∀ a, Affordable d (f a).run) : Affordable (d + c) (p >>= f).run := by
  rw [ExceptT.run_bind]
  refine hp.bind ?_
  intro answer
  cases answer with
  | ok a => exact hf a
  | error err => exact value _

theorem lift {p : HostProg α} (hp : Affordable c p) :
    Affordable c (ExceptT.lift p : HostTry α).run :=
  hp.map Except.ok

/-- A value that is made of what one operation has answered. -/
theorem andValue {p : HostTry α} (hp : Affordable c p.run) (f : α → β) :
    Affordable c (p >>= fun a => (pure (f a) : HostTry β)).run := by
  have h := andThen (d := 0) hp fun a => value (Except.ok (f a))
  rwa [Nat.zero_add] at h

end Affordable

/-! ## Units -/

section Units

variable {scope : UnitScope}

theorem dbusConnectionForScope_affords : Affordable 1 (dbusConnectionForScope scope).run := by
  cases scope with
  | system => exact .failing _ (.ask _)
  | user => exact .failing _ (.ask _)
  | both => exact .value _

/-- What comes behind a list of units has its rows to pay with. -/
theorem listUnitsRows_affords {β : Type} {f : List RawUnit → HostTry β} {c : Nat}
    (hf : ∀ rows, Affordable (c + perRow * rows.length) (f rows).run) :
    Affordable (c + 1 + 1) (listUnitsRows scope >>= f).run := by
  rw [listUnitsRows, bind_assoc]
  refine .andThen (.failing _ (.ask _)) fun _ => ?_
  rw [ExceptT.run_bind]
  refine ⟨Nat.le_add_left 1 c, ?_⟩
  intro answer
  cases answer with
  | ok rows => exact hf rows
  | error err => exact .value _

theorem readOptionalProperty_affords (path : String) (interface : Interface) (name : String)
    (type : PropertyType) : Affordable 1 (readOptionalProperty scope path interface name type) :=
  (Affordable.ask _).map _

variable [Chrono]

theorem fetchServiceDetails_affords (path : String) :
    Affordable 7 (fetchServiceDetails scope path).run := by
  have hproxy : ∀ (context : String) (interface : Interface),
      Affordable 1 (failing context (ask (.proxy scope path interface))).run := by
    intro context interface
    exact .failing _ (.ask _)
  have hread : ∀ {β : Type} (name : String) (interface : Interface) (type : PropertyType)
      (read : type.Val → β),
      Affordable 1 (failing s!"failed to read systemd property {name}"
        (ask (.property scope path interface name type)) >>= fun value =>
          (pure (read value) : HostTry β)).run := by
    intro β name interface type read
    exact .andValue (.failing _ (.ask _)) read
  rw [fetchServiceDetails]
  refine .andThen (c := 1) (hproxy _ _) fun _ => ?_
  refine .andThen (c := 1) (hread "UnitFileState" .unit .string nonBlank) fun _ => ?_
  refine .andThen (c := 1) (hread "ActiveEnterTimestamp" .unit .u64 some) fun _ => ?_
  refine .andThen (c := 1) (hproxy _ _) fun _ => ?_
  refine .andThen (c := 1) (hread "MainPID" .service .u32 some) fun _ => ?_
  refine .andThen (c := 1) (hread "ExecMainStatus" .service .u32 some) fun _ => ?_
  exact .andValue (hread "Result" .service .string nonBlank) _

theorem fetchTimerDetails_affords (path : String) (names : List (String × String)) :
    Affordable 8 (fetchTimerDetails scope path names) := by
  have hread : ∀ (interface : Interface) (name : String) (type : PropertyType),
      Affordable 1 (readOptionalProperty scope path interface name type) :=
    fun interface name type => readOptionalProperty_affords path interface name type
  rw [fetchTimerDetails]
  refine Prog.Affords.bind (c := 1) (Affordable.ask _) fun answer => ?_
  split
  · exact .value _
  · refine Prog.Affords.bind (c := 1) (Affordable.ask _) fun timerProxy => ?_
    refine Prog.Affords.bind (c := 1) (hread _ _ _) fun _ => ?_
    refine Prog.Affords.bind (c := 1) (hread _ _ _) fun _ => ?_
    dsimp only
    split
    · exact .value _
    · refine Prog.Affords.bind (c := 1) (hread _ _ _) fun _ => ?_
      refine Prog.Affords.bind (c := 1) (hread _ _ _) fun _ => ?_
      refine Prog.Affords.bind (c := 1) (hread _ _ _) fun _ => ?_
      exact (hread _ _ _).map _

/-! ## Listings -/

omit [Chrono] in
/-- Lookups for some of the rows. -/
theorem lookups_affords {α β : Type} {f : α → HostProg β} {tasks : List α} {rows : List RawUnit}
    {c : Nat} (hf : ∀ task, Affordable c (f task)) (hc : c ≤ perRow)
    (htasks : tasks.length ≤ rows.length) :
    Affordable (perRow * rows.length) (tasks.mapM f) := by
  have hmapM : Affordable ((tasks.map fun _ => c).sum) (tasks.mapM f) := .mapM fun task _ => hf task
  rw [List.map_const', List.sum_replicate_nat, Nat.mul_comm] at hmapM
  exact hmapM.mono (Nat.mul_le_mul hc htasks)

omit [Chrono] in
/-- The tasks of a listing are among the rows. -/
theorem length_tasks_le {suffix : String} {α : Type} {row : RawUnit → α} {le : α → α → Bool}
    (rows : List RawUnit) (task : α → Option (String × String)) :
    ((((rows.filter fun unit => endsWith suffix unit.name).map row).mergeSort le).filterMap
      task).length ≤ rows.length := by
  refine (List.length_filterMap_le _ _).trans ?_
  rw [List.length_mergeSort, List.length_map]
  exact List.length_filter_le _ _

theorem listServiceUnitsForSingleScope_affords :
    Affordable 3 (listServiceUnitsForSingleScope scope).run := by
  rw [listServiceUnitsForSingleScope]
  refine .andThen (c := 1) dbusConnectionForScope_affords fun _ => ?_
  refine listUnitsRows_affords (c := 0) fun rows => ?_
  rw [Nat.zero_add]
  refine .andValue (.lift (lookups_affords (c := 7) ?_ (by decide) (length_tasks_le rows _))) _
  intro task
  exact (fetchServiceDetails_affords task.2).map _

theorem listTimerUnitsForSingleScope_affords :
    Affordable 3 (listTimerUnitsForSingleScope scope).run := by
  rw [listTimerUnitsForSingleScope]
  refine .andThen (c := 1) dbusConnectionForScope_affords fun _ => ?_
  refine listUnitsRows_affords (c := 0) fun rows => ?_
  rw [Nat.zero_add]
  refine .andValue (.lift (lookups_affords (c := 8) ?_ (by decide) (length_tasks_le rows _))) _
  intro task
  exact (fetchTimerDetails_affords task.2 _).map _

omit [Chrono] in
/-- One manager after the other. -/
theorem bothScopes_affords {α : Type} {unitKind : String} {key : α → String}
    {single : UnitScope → HostTry (List α)} (h : ∀ scope, Affordable 3 (single scope).run) :
    Affordable 6 (bothScopes unitKind key single).run := by
  refine Prog.Affords.bind (c := 3) (h .system) fun _ => ?_
  exact (h .user).map _

theorem listServiceUnits_affords (scope : UnitScope) :
    Affordable (3 * scope.count) (listServiceUnits scope).run := by
  cases scope with
  | both => exact bothScopes_affords fun _ => listServiceUnitsForSingleScope_affords
  | system => exact listServiceUnitsForSingleScope_affords
  | user => exact listServiceUnitsForSingleScope_affords

theorem listTimerUnits_affords (scope : UnitScope) :
    Affordable (3 * scope.count) (listTimerUnits scope).run := by
  cases scope with
  | both => exact bothScopes_affords fun _ => listTimerUnitsForSingleScope_affords
  | system => exact listTimerUnitsForSingleScope_affords
  | user => exact listTimerUnitsForSingleScope_affords

end Units

/-! ## Dependencies -/

theorem dedupFrom_subset (kept : FailedDependency) (rest : List FailedDependency) :
    dedupFrom kept rest ⊆ kept :: rest := by
  induction rest generalizing kept with
  | nil => exact List.Subset.refl _
  | cons next rest ih =>
      rw [dedupFrom]
      split
      · exact List.Subset.trans (ih kept)
          (List.cons_subset_cons kept (List.subset_cons_self next rest))
      · exact List.cons_subset_cons kept (ih next)

/-- What is reported is in strict order, and was reported of one of the two lists. -/
theorem classified_keys (requires wants : List String) (rows : List RawUnit) :
    (classifyFailedDependencies requires wants rows).Pairwise (fun left right =>
        left.key < right.key)
      ∧ classifyFailedDependencies requires wants rows
        ⊆ brokenDependencies requires wants rows := by
  have hle : FailedDependency.le = fun left right => decide (left.key ≤ right.key) :=
    funext fun left => funext fun right => le_eq_decide_key left right
  have hsorted := pairwise_mergeSort_key FailedDependency.key
    (brokenDependencies requires wants rows)
  rw [← hle] at hsorted
  have hsubset : (brokenDependencies requires wants rows).mergeSort FailedDependency.le
      ⊆ brokenDependencies requires wants rows := fun _ h => List.mem_mergeSort.mp h
  have hentries : ∀ entries, (brokenDependencies requires wants rows).mergeSort
      FailedDependency.le = entries →
      entries.Pairwise (fun left right => left.key ≤ right.key)
        ∧ entries ⊆ brokenDependencies requires wants rows := by
    rintro entries rfl
    exact ⟨hsorted, hsubset⟩
  rw [classifyFailedDependencies]
  split
  case h_1 => exact ⟨List.Pairwise.nil, List.nil_subset _⟩
  case h_2 first rest hlist =>
    obtain ⟨hsorted, hsubset⟩ := hentries _ hlist
    exact ⟨(pairwise_dedupFrom hsorted).1, List.Subset.trans (dedupFrom_subset first rest) hsubset⟩

theorem relationship_of_broken {relationship name : String} {row : Option RawUnit}
    {dependency : FailedDependency} (h : brokenDependency relationship name row = some dependency) :
    dependency.relationship = relationship := by
  cases row with
  | none =>
      cases h
      rfl
  | some row =>
      rw [brokenDependency] at h
      split at h <;> cases h
      rfl

/-- A dependency whose row is there, and is looked up. -/
def hasRow (rows : List RawUnit) (dependency : FailedDependency) : Bool :=
  (rows.find? fun row => row.name == dependency.unit).isSome

/-- **Each row is reported twice at most**: once required, and once wanted. -/
theorem length_classified_le (requires wants : List String) (rows : List RawUnit) :
    ((classifyFailedDependencies requires wants rows).filter (hasRow rows)).length
      ≤ 2 * rows.length := by
  obtain ⟨hstrict, hsubset⟩ := classified_keys requires wants rows
  have hnodup : (((classifyFailedDependencies requires wants rows).filter (hasRow rows)).map
      FailedDependency.key).Nodup :=
    List.pairwise_map.mpr ((hstrict.filter _).imp fun h => ne_of_lt h)
  have hkeys : ((classifyFailedDependencies requires wants rows).filter (hasRow rows)).map
      FailedDependency.key ⊆ (rows.map RawUnit.name ×ˢ ["requires", "wants"]).map toLex := by
    intro key hkey
    obtain ⟨dependency, hdependency, rfl⟩ := List.mem_map.mp hkey
    obtain ⟨hmem, hrow⟩ := List.mem_filter.mp hdependency
    obtain ⟨row, hfound⟩ := Option.isSome_iff_exists.mp hrow
    have hname : row.name = dependency.unit := by simpa using List.find?_some hfound
    have hrelationship : dependency.relationship ∈ ["requires", "wants"] := by
      rcases List.mem_append.mp (hsubset hmem) with h | h
      · obtain ⟨name, -, hbroken⟩ := List.mem_filterMap.mp h
        rw [relationship_of_broken hbroken]
        exact List.mem_cons_self
      · obtain ⟨name, -, hbroken⟩ := List.mem_filterMap.mp h
        rw [relationship_of_broken hbroken]
        exact List.mem_cons_of_mem _ List.mem_cons_self
    refine List.mem_map_of_mem (List.pair_mem_product.mpr ⟨?_, hrelationship⟩)
    rw [← hname]
    exact List.mem_map_of_mem (List.mem_of_find?_eq_some hfound)
  have hle := (List.subperm_of_subset hnodup hkeys).length_le
  rw [List.length_map, List.length_map, List.length_product, List.length_map] at hle
  exact hle.trans (Nat.le_of_eq (Nat.mul_comm _ _))

/-! ## Inspection -/

section Inspection

variable [Chrono] {scope : UnitScope}

/-- A dependency without a row is not looked up. -/
theorem dependencyResult_affords (rows : List RawUnit) (dependency : FailedDependency) :
    Affordable (if hasRow rows dependency then 7 else 0)
      (dependencyResult scope rows dependency) := by
  rw [dependencyResult, hasRow]
  cases rows.find? fun row => row.name == dependency.unit with
  | none => exact .value _
  | some row =>
      show Affordable 7 _
      dsimp only
      split
      · exact (fetchServiceDetails_affords row.unitPath).map _
      · exact .value _

/-- What is done with the dependencies is paid for by the rows. -/
theorem dependencyResults_afford (requires wants : List String) (rows : List RawUnit) :
    Affordable (perRow * rows.length)
      ((classifyFailedDependencies requires wants rows).mapM (dependencyResult scope rows)) := by
  have hsum : ∀ dependencies : List FailedDependency,
      (dependencies.map fun dependency => if hasRow rows dependency then 7 else 0).sum
        = 7 * (dependencies.filter (hasRow rows)).length := by
    intro dependencies
    induction dependencies with
    | nil => rfl
    | cons dependency dependencies ih =>
        rw [List.map_cons, List.sum_cons, ih, List.filter_cons]
        split
        · rw [List.length_cons, Nat.mul_succ, Nat.add_comm]
        · exact Nat.zero_add _
  have hmapM : Affordable _ ((classifyFailedDependencies requires wants rows).mapM
      (dependencyResult scope rows)) :=
    .mapM fun dependency _ => dependencyResult_affords rows dependency
  rw [hsum] at hmapM
  refine hmapM.mono ?_
  have htwice := length_classified_le requires wants rows
  rw [perRow]
  omega

theorem readFailedDependencies_affords (path : String) :
    Affordable 5 (readFailedDependencies scope path).run := by
  rw [readFailedDependencies]
  refine .andThen (c := 1) (.failing _ (.ask _)) fun _ => ?_
  refine .andThen (c := 1) (.lift (readOptionalProperty_affords _ _ _ _)) fun requires => ?_
  refine .andThen (c := 1) (.lift (readOptionalProperty_affords _ _ _ _)) fun wants => ?_
  refine listUnitsRows_affords (c := 0) fun rows => ?_
  rw [Nat.zero_add]
  exact .lift (dependencyResults_afford _ _ rows)

theorem recentTransitions_affords (unit : String) (limit : Nat) :
    Affordable 2 (recentTransitions scope unit limit) := by
  have hread : Affordable 1 (readUnitTransitions unit scope limit).run := by
    rw [readUnitTransitions]
    split
    · exact .value _
    · exact .andThen (c := 1) (d := 0) (.lift (.ask _)) fun _ => .value _
  refine Prog.Affords.bind (c := 1) hread fun transitions => ?_
  refine Prog.Affords.bind (c := 1) (d := 0) (Affordable.ask _) fun joined => ?_
  split <;> exact .value _

theorem getUnitStatus_affords (unit : String) (scope : UnitScope) (limit : Nat) :
    Affordable 13 (getUnitStatus unit scope limit).run := by
  rw [getUnitStatus]
  split
  · exact .value _
  · refine .andThen (c := 3) listServiceUnitsForSingleScope_affords fun rows => ?_
    split
    · exact .value _
    · refine .andThen (c := 1) dbusConnectionForScope_affords fun _ => ?_
      refine .andThen (c := 1) (.failing _ (.ask _)) fun _ => ?_
      refine .andThen (c := 1) (.lift (.ask _)) fun found => ?_
      cases found with
      | error _ => exact .value _
      | ok unitPath =>
          refine .andThen (c := 5) (.lift (readFailedDependencies_affords unitPath))
            fun dependencies => ?_
          exact .andValue (.lift (recentTransitions_affords unit limit)) _

end Inspection

/-! ## All providers -/

theorem inspect_affords [SerdeJson] (kind : Podman.Kind) (compact : Json → Except AppError Json)
    (value : String) : Affordable 1 (Podman.inspect kind compact value).run := by
  rw [Podman.inspect]
  refine .andThen (c := 0) ?_ fun _ => ?_
  · cases Podman.validateIdentifier value kind <;> exact .value _
  · refine .andThen (c := 1) (d := 0) ?_ fun _ => .value _
    exact (Affordable.ask _).map _

/-- **A provider makes its fixed number of steps, and fourteen for each row at most.** -/
theorem fulfil_affords [Chrono] [RegexEngine] [SerdeJson] (o : ProviderOp) :
    Affordable o.steps (fulfil o) := by
  cases o with
  | systemState scope =>
      refine .andThen (c := 1) (d := 2) dbusConnectionForScope_affords fun _ => ?_
      refine .andThen (c := 1) (d := 1) (.failing _ (.ask _)) fun _ => ?_
      exact .failing _ (.ask _)
  | listServiceUnits scope => exact listServiceUnits_affords scope
  | getUnitStatus unit scope limit => exact getUnitStatus_affords unit scope limit
  | listTimerUnits scope => exact listTimerUnits_affords scope
  | listJournalLogs query =>
      refine Prog.Affords.bind (c := 1) (d := 1) (Affordable.ask _) fun opened => ?_
      refine Prog.Affords.bind (c := 1) (d := 0) (Affordable.ask _) fun joined => ?_
      split <;> exact .value _
  | unitMainStart unit scope => exact .andValue (listServiceUnits_affords scope) _
  | containerStatus container => exact inspect_affords _ _ _
  | podStatus pod => exact inspect_affords _ _ _

end SystemdMonitoring
