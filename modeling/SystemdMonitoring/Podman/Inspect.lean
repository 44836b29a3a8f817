/-
# `SystemdMonitoring.Podman.Inspect` — the projection of an inspect document

`podman inspect` answers with a large document; `compact_container` and
`compact_pod` build a small one from an allowlist of paths.  Stated as a
two-run property, the allowlist is the whole interface: two documents whose
first objects answer every allowlisted path alike are projected alike
(`compact_noninterference`), so nothing outside it can reach a client.

The proof does not follow the thirty projections one by one.  Each of them is
an answer of `Json.at?` at a listed path; what is not an answer is the presence
of `State.Health`, whether `Config.Healthcheck` is an object, and the lengths
of the two projected lists, and the agreement relations say exactly that.
-/
import SystemdMonitoring.Errors
import SystemdMonitoring.Podman.Argv

namespace SystemdMonitoring.Podman

open Lib Lib.Text

/-! ## Reading the document -/

def firstObject (value : Json) : Except AppError (List (String × Json)) :=
  match ((value.asArray.bind List.head?).or (some value)).bind Json.asObject with
  | some object => .ok object
  | none => .error (.badRequest "podman_invalid_response" "Podman returned malformed JSON")

/-- `at`: the value at a pointer, `null` when there is none. -/
def atPointer (value : Json) (pointer : List String) : Json := (value.at? pointer).getD .null

/-- The elements of an array member; none when it is absent or no array. -/
def elements (value : Json) (name : String) : List Json :=
  ((value.get name).bind Json.asArray).getD []

/-- The health check's timing and retry fields, by public and by inspect name. -/
def healthFields : List (String × String) :=
  [("interval", "Interval"), ("timeout", "Timeout"), ("start_period", "StartPeriod"),
    ("start_interval", "StartInterval"), ("retries", "Retries")]

/-- Projects health configuration onto sanitized, non-secret fields. -/
def compactHealthConfig (config : Json) : Json :=
  match (config.get "Healthcheck").bind Json.asObject with
  | none => .null
  | some healthcheck =>
      .obj (healthFields.foldl
        (fun compact field =>
          match Json.member healthcheck field.2 with
          | some value => Json.setMember compact field.1 value
          | none => compact)
        [("test", sanitizeArgv (Json.member healthcheck "Test"))])

def compactMount (mount : Json) : Json :=
  .obj [("type", atPointer mount ["Type"]), ("destination", atPointer mount ["Destination"]),
    ("read_only", Json.ofOption ((atPointer mount ["RW"]).asBool.map (fun rw => .bool !rw)))]

/-- Maps raw container inspect JSON into the deliberately compact public DTO. -/
def compactContainer (raw : Json) : Except AppError Json := do
  let object ← firstObject raw
  let value := Json.obj object
  let state := atPointer value ["State"]
  let config := atPointer value ["Config"]
  let hostConfig := atPointer value ["HostConfig"]
  let mounts := (elements value "Mounts").map compactMount
  let health := (state.get "Health").map (fun health =>
    .obj [("status", atPointer health ["Status"])])
  return .obj [
    ("id", atPointer value ["Id"]), ("name", atPointer value ["Name"]),
    ("state", atPointer state ["Status"]), ("running", atPointer state ["Running"]),
    ("exit_code", atPointer state ["ExitCode"]), ("error", atPointer state ["Error"]),
    ("started_at", atPointer state ["StartedAt"]), ("finished_at", atPointer state ["FinishedAt"]),
    ("created_at", Json.ofOption ((value.get "Created").or (value.get "CreatedAt"))),
    ("restart_count", Json.ofOption (value.get "RestartCount")),
    ("image", .obj [("name", Json.ofOption (config.get "Image")),
      ("id", Json.ofOption ((value.get "Image").or (value.get "ImageDigest")))]),
    ("configured_user", Json.ofOption (config.get "User")),
    ("runtime_identity", .obj [("uid", atPointer value ["State", "UID"]),
      ("gid", atPointer value ["State", "GID"]), ("host_uid", atPointer value ["State", "HostUID"]),
      ("host_gid", atPointer value ["State", "HostGID"])]),
    ("read_only_rootfs", Json.ofOption (hostConfig.get "ReadonlyRootfs")),
    ("mounts", .arr mounts), ("health", Json.ofOption health),
    ("health_config", compactHealthConfig config),
    ("command", sanitizeArgv (config.get "Cmd")),
    ("pod_id", Json.ofOption ((value.get "Pod").or (value.get "PodId")))]

def compactMember (item : Json) : Json :=
  .obj [("id", atPointer item ["Id"]), ("name", atPointer item ["Name"]),
    ("state", atPointer item ["State"])]

/-- Maps raw pod inspect JSON into the compact public DTO. -/
def compactPod (raw : Json) : Except AppError Json := do
  let object ← firstObject raw
  let value := Json.obj object
  let containers := (elements value "Containers").map compactMember
  return .obj [
    ("id", Json.ofOption ((value.get "Id").or (value.get "ID"))),
    ("name", Json.ofOption (value.get "Name")), ("state", Json.ofOption (value.get "State")),
    ("created_at", Json.ofOption ((value.get "Created").or (value.get "CreatedAt"))),
    ("restart_policy", Json.ofOption (value.at? ["RestartPolicy"])),
    ("infra_container_id",
      Json.ofOption ((value.get "InfraContainerID").or (value.get "InfraContainerId"))),
    ("shared_namespaces", Json.ofOption (value.get "SharedNamespaces")),
    ("containers", .arr containers)]

/-! ## Agreement on the allowlist -/

/-- Two values answer every listed path alike. -/
def AgreeOn (paths : List (List String)) (v w : Json) : Prop :=
  ∀ path ∈ paths, v.at? path = w.at? path

/-- Two lists have one length and their elements agree in pairs. -/
def AgreeEach (paths : List (List String)) (vs ws : List Json) : Prop :=
  List.Forall₂ (AgreeOn paths) vs ws

def containerPaths : List (List String) :=
  [["Id"], ["Name"], ["State", "Status"], ["State", "Running"], ["State", "ExitCode"],
    ["State", "Error"], ["State", "StartedAt"], ["State", "FinishedAt"], ["State", "UID"],
    ["State", "GID"], ["State", "HostUID"], ["State", "HostGID"], ["State", "Health", "Status"],
    ["Created"], ["CreatedAt"], ["RestartCount"], ["Image"], ["ImageDigest"], ["Config", "Image"],
    ["Config", "User"], ["Config", "Cmd"], ["Config", "Healthcheck", "Test"],
    ["Config", "Healthcheck", "Interval"], ["Config", "Healthcheck", "Timeout"],
    ["Config", "Healthcheck", "StartPeriod"], ["Config", "Healthcheck", "StartInterval"],
    ["Config", "Healthcheck", "Retries"], ["HostConfig", "ReadonlyRootfs"], ["Pod"], ["PodId"]]

def mountPaths : List (List String) := [["Type"], ["Destination"], ["RW"]]

def podPaths : List (List String) :=
  [["Id"], ["ID"], ["Name"], ["State"], ["Created"], ["CreatedAt"], ["RestartPolicy"],
    ["InfraContainerID"], ["InfraContainerId"], ["SharedNamespaces"]]

def memberPaths : List (List String) := [["Id"], ["Name"], ["State"]]

/-- Agreement of two container objects on all that is projected. -/
structure AgreeContainer (v w : Json) : Prop where
  paths : AgreeOn containerPaths v w
  health : (v.at? ["State", "Health"]).isSome = (w.at? ["State", "Health"]).isSome
  healthcheck : (v.at? ["Config", "Healthcheck"]).any Json.isObject
    = (w.at? ["Config", "Healthcheck"]).any Json.isObject
  mounts : AgreeEach mountPaths (elements v "Mounts") (elements w "Mounts")

/-- Agreement of two pod objects on all that is projected. -/
structure AgreePod (v w : Json) : Prop where
  paths : AgreeOn podPaths v w
  members : AgreeEach memberPaths (elements v "Containers") (elements w "Containers")

/-! ## Every projection is an answer -/

/-- Projecting in two steps is following the joined path: `null` answers nothing. -/
theorem at?_atPointer (v : Json) (path : List String) (tok : String) (path' : List String) :
    (atPointer v path).at? (tok :: path') = v.at? (path ++ tok :: path') := by
  rw [Json.at?_append]
  cases h : v.at? path <;> simp [atPointer, h]

theorem atPointer_atPointer (v : Json) (path : List String) (tok : String) (path' : List String) :
    atPointer (atPointer v path) (tok :: path') = atPointer v (path ++ tok :: path') := by
  rw [atPointer, at?_atPointer, atPointer]

theorem get_eq_at? {v : Json} {k : String} (hk : Json.parseIndex k = none) :
    v.get k = v.at? [k] := by
  rw [Json.get_eq_child hk, Json.at?_singleton]

theorem get_atPointer {v : Json} {path : List String} {k : String}
    (hk : Json.parseIndex k = none) : (atPointer v path).get k = v.at? (path ++ [k]) := by
  rw [get_eq_at? hk, at?_atPointer]

/-- A projection of an optional value, by its presence and the answer below it. -/
theorem map_atPointer (x : Option Json) (path : List String) (f : Json → Json) :
    x.map (fun v => f (atPointer v path))
      = if x.isSome then some (f ((x.bind (fun v => v.at? path)).getD .null)) else none := by
  cases x <;> simp [atPointer]

/-! ## The projections are functions of the answers -/

/-- The health projection reads whether there is a health check object, and then six members. -/
theorem compactHealthConfig_congr {config config' : Json}
    (hobject : (config.get "Healthcheck").any Json.isObject
      = (config'.get "Healthcheck").any Json.isObject)
    (hmembers : ∀ name ∈ "Test" :: healthFields.map Prod.snd,
      (config.get "Healthcheck").bind (fun hc => hc.get name)
        = (config'.get "Healthcheck").bind (fun hc => hc.get name)) :
    compactHealthConfig config = compactHealthConfig config' := by
  rw [compactHealthConfig, compactHealthConfig]
  generalize config.get "Healthcheck" = hc at hobject hmembers ⊢
  generalize config'.get "Healthcheck" = hc' at hobject hmembers ⊢
  have object_iff : ∀ x : Option Json, x.any Json.isObject = (x.bind Json.asObject).isSome := by
    intro x
    cases x <;> rfl
  have get_eq : ∀ (x : Option Json) (name : String), x.bind (fun hc => hc.get name)
      = (x.bind Json.asObject).bind (fun ms => Json.member ms name) := by
    intro x name
    cases x <;> rfl
  simp only [object_iff, get_eq] at hobject hmembers
  cases h : hc.bind Json.asObject with
  | none =>
      rw [h] at hobject
      rw [Option.isSome_eq_false_iff.mp hobject.symm |> Option.isNone_iff_eq_none.mp]
  | some ms =>
      obtain ⟨ms', h'⟩ := Option.isSome_iff_exists.mp (hobject.symm.trans (by rw [h]; rfl))
      have hmember : ∀ name ∈ "Test" :: healthFields.map Prod.snd,
          Json.member ms name = Json.member ms' name := by
        intro name hname
        have hm := hmembers name hname
        rwa [h, h'] at hm
      rw [h']
      show Json.obj _ = Json.obj _
      rw [hmember "Test" (List.mem_cons_self ..)]
      congr 1
      refine List.foldl_ext _ _ _ (fun compact field hfield => ?_)
      rw [hmember field.2 (List.mem_cons_of_mem _ (List.mem_map_of_mem hfield))]

/-- A list projected element by element, under agreement of its elements in pairs. -/
theorem map_congr_of_agree {paths : List (List String)} {f : Json → Json}
    (hf : ∀ v w : Json, AgreeOn paths v w → f v = f w) {vs ws : List Json}
    (h : AgreeEach paths vs ws) : vs.map f = ws.map f := by
  induction h with
  | nil => rfl
  | cons hvw _ ih => rw [List.map_cons, List.map_cons, hf _ _ hvw, ih]

theorem compactMount_congr {v w : Json} (h : AgreeOn mountPaths v w) :
    compactMount v = compactMount w := by
  simp only [AgreeOn, mountPaths, List.forall_mem_cons] at h
  simp only [compactMount, atPointer, h]

theorem compactMember_congr {v w : Json} (h : AgreeOn memberPaths v w) :
    compactMember v = compactMember w := by
  simp only [AgreeOn, memberPaths, List.forall_mem_cons] at h
  simp only [compactMember, atPointer, h]

/-- `firstObject` only unwraps: on the object it has found it answers that object. -/
theorem compactContainer_of_firstObject {raw : Json} {object : List (String × Json)}
    (h : firstObject raw = .ok object) :
    compactContainer raw = compactContainer (.obj object) := by
  rw [compactContainer, h, compactContainer]
  rfl

theorem compactPod_of_firstObject {raw : Json} {object : List (String × Json)}
    (h : firstObject raw = .ok object) : compactPod raw = compactPod (.obj object) := by
  rw [compactPod, h, compactPod]
  rfl

/-- The names `compact_health_config` reads continue `Config.Healthcheck` to allowlisted paths. -/
theorem healthcheck_paths : ∀ name ∈ "Test" :: healthFields.map Prod.snd,
    Json.parseIndex name = none ∧ ["Config", "Healthcheck", name] ∈ containerPaths := by
  decide

theorem compactHealthConfig_agree {v w : Json} (h : AgreeContainer v w) :
    compactHealthConfig (atPointer v ["Config"])
      = compactHealthConfig (atPointer w ["Config"]) := by
  have hget : ∀ u : Json, (atPointer u ["Config"]).get "Healthcheck"
      = u.at? ["Config", "Healthcheck"] := fun u => get_atPointer (by decide)
  refine compactHealthConfig_congr ?_ ?_
  · rw [hget, hget]
    exact h.healthcheck
  · intro name hname
    obtain ⟨hindex, hpath⟩ := healthcheck_paths name hname
    have hstep : ∀ u : Json,
        ((atPointer u ["Config"]).get "Healthcheck").bind (fun hc => hc.get name)
          = u.at? ["Config", "Healthcheck", name] := by
      intro u
      simp only [hget, get_eq_at? hindex]
      exact (Json.at?_append u ["Config", "Healthcheck"] [name]).symm
    rw [hstep, hstep]
    exact h.paths _ hpath

/-- The only projection below `State` that is not an answer: is there a `Health`, and its status. -/
theorem health_agree {v w : Json} (h : AgreeContainer v w) :
    ((atPointer v ["State"]).get "Health").map
        (fun health => Json.obj [("status", atPointer health ["Status"])])
      = ((atPointer w ["State"]).get "Health").map
        (fun health => Json.obj [("status", atPointer health ["Status"])]) := by
  have hget : ∀ u : Json, (atPointer u ["State"]).get "Health" = u.at? ["State", "Health"] :=
    fun u => get_atPointer (by decide)
  have hstatus : ∀ u : Json, (u.at? ["State", "Health"]).bind (fun health => health.at? ["Status"])
      = u.at? ["State", "Health", "Status"] :=
    fun u => (Json.at?_append u ["State", "Health"] ["Status"]).symm
  rw [hget, hget, map_atPointer _ _ (fun s => Json.obj [("status", s)]),
    map_atPointer _ _ (fun s => Json.obj [("status", s)]), hstatus, hstatus, h.health,
    h.paths ["State", "Health", "Status"] (by decide)]

theorem compactContainer_agree {v w : List (String × Json)}
    (h : AgreeContainer (.obj v) (.obj w)) :
    compactContainer (.obj v) = compactContainer (.obj w) := by
  have hpaths := h.paths
  simp only [AgreeOn, containerPaths, List.forall_mem_cons] at hpaths
  have hmounts : (elements (.obj v) "Mounts").map compactMount
      = (elements (.obj w) "Mounts").map compactMount :=
    map_congr_of_agree (fun _ _ => compactMount_congr) h.mounts
  have hobject : ∀ u : List (String × Json), firstObject (.obj u) = .ok u := fun u => rfl
  simp only [compactContainer, hobject]
  show Except.ok (Json.obj _) = Except.ok (Json.obj _)
  rw [compactHealthConfig_agree h, health_agree h, hmounts]
  simp (disch := decide) only [get_eq_at?, at?_atPointer, atPointer_atPointer]
  simp only [atPointer, List.cons_append, List.nil_append, hpaths]

theorem compactPod_agree {v w : List (String × Json)} (h : AgreePod (.obj v) (.obj w)) :
    compactPod (.obj v) = compactPod (.obj w) := by
  have hpaths := h.paths
  simp only [AgreeOn, podPaths, List.forall_mem_cons] at hpaths
  have hmembers : (elements (.obj v) "Containers").map compactMember
      = (elements (.obj w) "Containers").map compactMember :=
    map_congr_of_agree (fun _ _ => compactMember_congr) h.members
  have hobject : ∀ u : List (String × Json), firstObject (.obj u) = .ok u := fun u => rfl
  simp only [compactPod, hobject]
  show Except.ok (Json.obj _) = Except.ok (Json.obj _)
  rw [hmembers]
  simp (disch := decide) only [get_eq_at?, hpaths]

/-! ## Noninterference -/

/-- **Nothing outside the allowlist reaches a client**: documents whose first objects agree on
the projected paths have one projection, whatever else they hold. -/
theorem compact_noninterference (raw raw' : Json) (object object' : List (String × Json))
    (h : firstObject raw = .ok object) (h' : firstObject raw' = .ok object') :
    (AgreeContainer (.obj object) (.obj object') → compactContainer raw = compactContainer raw')
      ∧ (AgreePod (.obj object) (.obj object') → compactPod raw = compactPod raw') := by
  constructor
  · intro hagree
    rw [compactContainer_of_firstObject h, compactContainer_of_firstObject h']
    exact compactContainer_agree hagree
  · intro hagree
    rw [compactPod_of_firstObject h, compactPod_of_firstObject h']
    exact compactPod_agree hagree

/-- Two inspections of one container that differ in an environment variable, in the place a
volume comes from, in the health log and in a second array element. -/
def inspected (secret : String) : Json :=
  .arr [.obj [("Id", .str "c1"),
      ("State", .obj [("Status", .str "running"),
        ("Health", .obj [("Status", .str "healthy"), ("Log", .arr [.str secret])])]),
      ("Config", .obj [("Env", .arr [.str secret]), ("Healthcheck", .obj [("Test", .arr [])])]),
      ("Mounts", .arr [.obj [("Source", .str secret), ("RW", .bool true)]])],
    .obj [("Id", .str secret)]]

/-- Two inspections of one pod that differ in its creation command and a member's labels. -/
def inspectedPod (secret : String) : Json :=
  .obj [("Id", .str "p1"), ("CreateCommand", .arr [.str secret]),
    ("Containers", .arr [.obj [("Id", .str "c1"), ("Labels", .obj [("key", .str secret)])]])]

theorem compact_noninterference_inspected :
    compactContainer (inspected "hunter2") = compactContainer (inspected "")
      ∧ compactPod (inspectedPod "hunter2") = compactPod (inspectedPod "") := by
  constructor
  · exact (compact_noninterference (inspected "hunter2") (inspected "") _ _ rfl rfl).1
      { paths := by unfold AgreeOn; decide
        health := by decide
        healthcheck := by decide
        mounts := List.Forall₂.cons (by unfold AgreeOn; decide) List.Forall₂.nil }
  · exact (compact_noninterference (inspectedPod "hunter2") (inspectedPod "") _ _ rfl rfl).2
      { paths := by unfold AgreeOn; decide
        members := List.Forall₂.cons (by unfold AgreeOn; decide) List.Forall₂.nil }

end SystemdMonitoring.Podman
