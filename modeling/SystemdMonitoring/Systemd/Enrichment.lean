/-
# `SystemdMonitoring.Systemd.Enrichment` — the optional fields of a service

Five properties are read of a service, one for each optional field of its row.
The lookup stops at the first read that fails and the row is filled in as a
whole, so a field has the value of its own read when all the reads succeed and
none otherwise (`field_serviceListing`).

That is where the fields depend on one another: two assignments of outcomes
that agree on a field's own read agree on the field exactly when that read has
no value to give, or when both or neither of them read everything
(`field_degrades_iff`).
-/
import SystemdMonitoring.Systemd.Listings

namespace SystemdMonitoring

open Lib Lib.Text

/-! ## Fields and their reads -/

/-- The fields of a service row that are read property by property. -/
inductive ServiceField where
  | unitFileState
  | sinceUtc
  | mainPid
  | execMainStatus
  | result
  deriving DecidableEq, Repr

namespace ServiceField

def Val : ServiceField → Type
  | .unitFileState => String
  | .sinceUtc => String
  | .mainPid => Nat
  | .execMainStatus => Int
  | .result => String

def ofRow (row : UnitStatus) : (field : ServiceField) → Option field.Val
  | .unitFileState => row.unitFileState
  | .sinceUtc => row.sinceUtc
  | .mainPid => row.mainPid
  | .execMainStatus => row.execMainStatus
  | .result => row.result

def ofDetails (details : ServiceDetails) : (field : ServiceField) → Option field.Val
  | .unitFileState => details.unitFileState
  | .sinceUtc => details.sinceUtc
  | .mainPid => details.mainPid
  | .execMainStatus => details.execMainStatus
  | .result => details.result

/-- The read behind a field. -/
def op (scope : UnitScope) (path : String) : ServiceField → HostOp
  | .unitFileState => .property scope path .unit "UnitFileState" .string
  | .sinceUtc => .property scope path .unit "ActiveEnterTimestamp" .u64
  | .mainPid => .property scope path .service "MainPID" .u32
  | .execMainStatus => .property scope path .service "ExecMainStatus" .u32
  | .result => .property scope path .service "Result" .string

end ServiceField

section Fields

variable [Chrono] {answers answers' : Snapshot} {scope : UnitScope} {path : String}

/-- What a field's own read comes to. -/
def ownValue (answers : Snapshot) (scope : UnitScope) (path : String) (field : ServiceField) :
    Option field.Val :=
  field.ofDetails (ownDetails answers scope path)

/-- A field's own value comes from its own read. -/
theorem ownValue_congr {field : ServiceField}
    (h : answers (field.op scope path) = answers' (field.op scope path)) :
    ownValue answers scope path field = ownValue answers' scope path field := by
  cases field with
  | unitFileState =>
      exact congrArg (fun (answer : Except String String) => answer.toOption.bind nonBlank) h
  | sinceUtc =>
      exact congrArg
        (fun (answer : Except String Nat) => answer.toOption.bind formatSystemdTimestampUsec) h
  | mainPid =>
      exact congrArg
        (fun (answer : Except String Nat) => answer.toOption.filter (fun value => 0 < value)) h
  | execMainStatus =>
      exact congrArg (fun (answer : Except String Nat) =>
        (answer.toOption.filter (fun value => value < 2 ^ 31)).map (fun value => (value : Int))) h
  | result =>
      exact congrArg (fun (answer : Except String String) => answer.toOption.bind nonBlank) h

/-! ## Rows -/

omit [Chrono] in
theorem ofRow_of_mem {rawUnits : List RawUnit} {row : UnitStatus}
    (h : row ∈ mapAndSortServiceUnits rawUnits scope) (field : ServiceField) :
    field.ofRow row = none := by
  obtain ⟨raw, -, rfl⟩ := List.mem_map.mp (List.mem_mergeSort.mp h)
  cases field <;> rfl

variable (scope) in
omit [Chrono] in
/-- A name that has a path is listed. -/
theorem exists_row_of_lookup {rawUnits : List RawUnit} {unit : String}
    (h : (unitPaths ".service" rawUnits).lookup unit = some path) :
    ∃ row, (mapAndSortServiceUnits rawUnits scope).find? (fun row => row.unit == unit)
      = some row := by
  obtain ⟨raw, hraw, hname⟩ := List.mem_map.mp (List.mem_reverse.mp (mem_of_lookup h))
  cases hname
  refine Option.isSome_iff_exists.mp (List.find?_isSome.mpr ⟨UnitStatus.ofRaw scope raw, ?_, ?_⟩)
  · exact List.mem_mergeSort.mpr (List.mem_map_of_mem hraw)
  · exact beq_self_eq_true raw.name

variable (answers scope) in
/-- **A field of a listed service**: its own value, if everything is read. -/
theorem field_serviceListing {rawUnits : List RawUnit} {unit : String}
    (hpath : (unitPaths ".service" rawUnits).lookup unit = some path) :
    ∃ row, (serviceListing answers scope rawUnits).find? (fun row => row.unit == unit) = some row
      ∧ ∀ field : ServiceField, field.ofRow row
          = if AllRead answers scope path then ownValue answers scope path field else none := by
  obtain ⟨base, hbase⟩ := exists_row_of_lookup scope hpath
  have hfind := find?_serviceListing answers scope rawUnits unit
  rw [hbase, Option.map_some, serviceDetailsOf, hpath, Option.bind_some, serviceDetails] at hfind
  refine ⟨_, hfind, ?_⟩
  intro field
  split
  · cases field <;> rfl
  · exact ofRow_of_mem (List.mem_of_find?_eq_some hbase) field

/-- The manager's listing succeeds, and this is the row that is found under the name. -/
def ListedRow (answers : Snapshot) (scope : UnitScope) (unit : String) (row : UnitStatus) : Prop :=
  ∃ rows, (listServiceUnitsForSingleScope scope).run.under answers = .done (.ok rows)
    ∧ rows.find? (fun row => row.unit == unit) = some row

theorem listedRow_field (hscope : scope ≠ .both) {rawUnits : List RawUnit} {unit : String}
    (hunits : managerUnits answers scope = some rawUnits)
    (hpath : (unitPaths ".service" rawUnits).lookup unit = some path) :
    ∃ row, ListedRow answers scope unit row
      ∧ ∀ field : ServiceField, field.ofRow row
          = if AllRead answers scope path then ownValue answers scope path field else none := by
  obtain ⟨row, hfind, hfield⟩ := field_serviceListing answers scope hpath
  obtain ⟨answer, hanswer, hfound⟩ := finds_listServiceUnitsForSingleScope answers hscope
  rw [hunits, Option.map_some] at hfound
  cases answer with
  | error err => cases hfound
  | ok rows =>
      cases hfound
      exact ⟨row, ⟨_, hanswer, hfind⟩, hfield⟩

/-- **When enrichment degrades field by field**: under two assignments of outcomes that agree on a
field's read, the field is the same exactly when its read has no value to give, or when both or
neither of them read everything; and it has the value of its read exactly when there is none to
lose or everything is read. -/
theorem field_degrades_iff (hscope : scope ≠ .both) {rawUnits : List RawUnit} {unit : String}
    (hunits : managerUnits answers scope = some rawUnits)
    (hunits' : managerUnits answers' scope = some rawUnits)
    (hpath : (unitPaths ".service" rawUnits).lookup unit = some path) (field : ServiceField)
    (hagree : answers (field.op scope path) = answers' (field.op scope path)) :
    ∃ row row', ListedRow answers scope unit row ∧ ListedRow answers' scope unit row'
      ∧ (field.ofRow row = field.ofRow row'
        ↔ ownValue answers scope path field = none
          ∨ (AllRead answers scope path ↔ AllRead answers' scope path))
      ∧ (field.ofRow row = ownValue answers scope path field
        ↔ ownValue answers scope path field = none ∨ AllRead answers scope path) := by
  obtain ⟨row, hrow, hfield⟩ := listedRow_field hscope hunits hpath
  obtain ⟨row', hrow', hfield'⟩ := listedRow_field hscope hunits' hpath
  refine ⟨row, row', hrow, hrow', ?_⟩
  rw [hfield, hfield', ← ownValue_congr hagree]
  by_cases hall : AllRead answers scope path
  · by_cases hall' : AllRead answers' scope path
    · simp [hall, hall']
    · simp [hall, hall']
  · by_cases hall' : AllRead answers' scope path
    · simp [hall, hall', eq_comm]
    · simp [hall, hall', eq_comm]

end Fields

/-- One enabled service under every manager, with a main process that may be hard to find. -/
def oneService (mainPid : Except String Nat) : Snapshot
  | .connect _ => .ok ()
  | .proxy _ _ _ => .ok ()
  | .listUnits _ => .ok [⟨"app.service", "App", "loaded", "active", "running", "/app"⟩]
  | .getUnit _ _ => .ok "/app"
  | .property _ _ _ name .string => .ok (if name = "UnitFileState" then "enabled" else "success")
  | .property _ _ _ _ .u64 => .ok (1767225600000000 : Nat)
  | .property _ _ _ name .u32 => if name = "MainPID" then mainPid else .ok (0 : Nat)
  | .property _ _ _ _ .bool => .ok true
  | .property _ _ _ _ .paths => .ok []
  | .property _ _ _ _ .names => .ok []
  | .openJournal _ => .error "no journal"
  | .joinReader => .ok ()
  | .podman _ => .notFound

/-- The unit file state of a service whose main process is found, and of one where it is not. -/
theorem field_degrades_iff_mainPid :
    (UnitScope.system ≠ .both
      ∧ managerUnits (oneService (.ok 7)) .system
        = some [⟨"app.service", "App", "loaded", "active", "running", "/app"⟩]
      ∧ managerUnits (oneService (.error "gone")) .system
        = some [⟨"app.service", "App", "loaded", "active", "running", "/app"⟩]
      ∧ (unitPaths ".service"
          [⟨"app.service", "App", "loaded", "active", "running", "/app"⟩]).lookup "app.service"
        = some "/app"
      ∧ oneService (.ok 7) (ServiceField.unitFileState.op .system "/app")
        = oneService (.error "gone") (ServiceField.unitFileState.op .system "/app"))
    ∧ ∃ row row', @ListedRow rfc3339 (oneService (.ok 7)) .system "app.service" row
      ∧ @ListedRow rfc3339 (oneService (.error "gone")) .system "app.service" row'
      ∧ (ServiceField.unitFileState.ofRow row = ServiceField.unitFileState.ofRow row'
        ↔ @ownValue rfc3339 (oneService (.ok 7)) .system "/app" .unitFileState = none
          ∨ (AllRead (oneService (.ok 7)) .system "/app"
            ↔ AllRead (oneService (.error "gone")) .system "/app"))
      ∧ (ServiceField.unitFileState.ofRow row
          = @ownValue rfc3339 (oneService (.ok 7)) .system "/app" .unitFileState
        ↔ @ownValue rfc3339 (oneService (.ok 7)) .system "/app" .unitFileState = none
          ∨ AllRead (oneService (.ok 7)) .system "/app") :=
  ⟨⟨by decide, rfl, rfl, rfl, rfl⟩,
    @field_degrades_iff rfc3339 (oneService (.ok 7)) (oneService (.error "gone")) .system "/app"
      (by decide) _ "app.service" rfl rfl rfl .unitFileState rfl⟩

/-- A main process that cannot be read erases the unit file state that has been. -/
theorem mainPid_erases_unitFileState :
    oneService (.ok 7) (ServiceField.unitFileState.op .system "/app")
      = oneService (.error "gone") (ServiceField.unitFileState.op .system "/app")
    ∧ ∃ row row', @ListedRow rfc3339 (oneService (.ok 7)) .system "app.service" row
      ∧ @ListedRow rfc3339 (oneService (.error "gone")) .system "app.service" row'
      ∧ row.unitFileState = some "enabled" ∧ row'.unitFileState = none := by
  obtain ⟨row, hrow, hfield⟩ := @listedRow_field rfc3339 (oneService (.ok 7)) .system "/app"
    (by decide) _ "app.service" rfl rfl
  obtain ⟨row', hrow', hfield'⟩ := @listedRow_field rfc3339 (oneService (.error "gone")) .system
    "/app" (by decide) _ "app.service" rfl rfl
  refine ⟨rfl, row, row', hrow, hrow', ?_, ?_⟩
  · exact (hfield .unitFileState).trans (if_pos (by decide))
  · exact (hfield' .unitFileState).trans (if_neg (by decide))

end SystemdMonitoring
