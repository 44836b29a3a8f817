/-
# `SystemdMonitoring.Startup` — from the environment to a server

`main` reads the configuration, makes sure that systemd is there, builds the state
of the application, binds the socket, says so in the log, and serves.  Each step
may end the process with an error; what has been done by then is all that has been
done (`StartRun`).

Nothing is bound before the configuration has been accepted and the manager has
answered, the process does not stop at the `expect` of the policy, and what is
served is what the variables say (`main_run`).
-/
import SystemdMonitoring.Config
import SystemdMonitoring.Lib.Replay
import SystemdMonitoring.Systemd.Client

namespace SystemdMonitoring

open Lib Lib.Text

/-! ## The process -/

/-- What all requests share; the providers of production are no more than their programs. -/
structure AppState where
  apiToken : String
  rateLimiter : RateLimiter

/-- Creates shared application state with an explicit validated rate policy; the limiter starts at
a reading of the clock. -/
def AppState.newWithRateLimit (apiToken : String) (rateLimitPolicy : RateLimitPolicy)
    (startedAt : Duration) : AppState where
  apiToken := apiToken
  rateLimiter := .new rateLimitPolicy startedAt

inductive StartOp where
  | booted
  | instantNow
  | bind (socket : SocketAddr)
  | serverStarting (bindAddr : String) (bindPort requestsPerSecond burst : Nat)
  | serve (socket : SocketAddr) (state : AppState)

abbrev ProcessSig : Sig where
  Op := StartOp
  Ans
    | .booted => Except String Bool
    | .instantNow => Duration
    | .bind _ => Except String Unit
    | .serverStarting _ _ _ _ => Unit
    | .serve _ _ => Except String Unit

/-- The machine, and what a process does for itself. -/
abbrev StartSig : Sig := HostSig.sum ProcessSig

abbrev Start (ε α : Type) : Type := ExceptT ε (Prog StartSig) α

inductive SystemdAvailabilityError where
  | notBooted
  | bootState (err : String)
  | dbusConnect (err : String)
  | proxyCreate (err : String)
  | managerQuery (err : String)
  deriving DecidableEq, Repr

def SystemdAvailabilityError.message : SystemdAvailabilityError → String
  | .notBooted => "systemd is not running (systemd daemon::booted returned false)"
  | .bootState err => s!"failed to detect systemd boot state: {err}"
  | .dbusConnect err => s!"failed to connect to system dbus: {err}"
  | .proxyCreate err => s!"failed to create systemd dbus proxy: {err}"
  | .managerQuery err => s!"failed to query systemd manager: {err}"

/-- What ends the process: of the machine's own errors the text. -/
inductive StartError where
  | config (err : ConfigError)
  | systemd (err : SystemdAvailabilityError)
  | io (err : String)
  deriving DecidableEq, Repr

/-- An operation that may fail, and what its failure is called. -/
def attempt {ε α : Type} (error : String → ε) (p : Prog StartSig (Except String α)) : Start ε α :=
  ExceptT.mk (p >>= fun answer => pure (answer.mapError error))

def onHost (o : HostOp) : Prog StartSig (HostSig.Ans o) := Prog.call (S := StartSig) (.inl o)

def byProcess (o : StartOp) : Prog StartSig (ProcessSig.Ans o) :=
  Prog.call (S := StartSig) (.inr o)

/-- Verifies that systemd is reachable in the current runtime environment. -/
def ensureSystemdAvailable : Start SystemdAvailabilityError Unit := do
  let isBooted ← attempt .bootState (byProcess .booted)
  if !isBooted then throw .notBooted
  attempt .dbusConnect (onHost (.connect .system))
  attempt .proxyCreate (onHost (.proxy .system systemdPath .manager))
  let _ ← attempt .managerQuery (onHost (.listUnits .system))

/-- `expect` of a configuration's policy. -/
def expectPolicy (policy : Option RateLimitPolicy) : Prog StartSig RateLimitPolicy :=
  match policy with
  | some policy => pure policy
  | none => .abort "validated configuration must produce a valid rate-limit policy"

/-- What is left of `main` once the configuration is there and systemd is: the socket, the state,
and the server. -/
def serveConfigured (config : Config) : Start StartError Unit := do
  let bindSocket ← ExceptT.mk (pure (config.bindSocket.mapError .config))
  let policy ← ExceptT.lift (expectPolicy config.rateLimitPolicy)
  let startedAt ← ExceptT.lift (byProcess .instantNow)
  let state := AppState.newWithRateLimit config.apiToken policy startedAt
  attempt .io (byProcess (.bind bindSocket))
  ExceptT.lift (byProcess (.serverStarting config.bindAddr config.bindPort
    config.rateLimitRequestsPerSecond config.rateLimitBurst))
  attempt .io (byProcess (.serve bindSocket state))

/-- Process entrypoint, but for the set-up of the log. -/
def main (var : String → Option String) : Start StartError Unit := do
  let config ← ExceptT.mk (pure ((Config.fromEnv var).mapError .config))
  ensureSystemdAvailable.adapt .systemd
  serveConfigured config

/-! ## Is systemd there? -/

/-- What a process has seen of systemd when it has found it. -/
def foundSystemd (rows : List RawUnit) : List (Exchange StartSig) :=
  [⟨.inr .booted, .ok true⟩, ⟨.inl (.connect .system), .ok ()⟩,
    ⟨.inl (.proxy .system systemdPath .manager), .ok ()⟩, ⟨.inl (.listUnits .system), .ok rows⟩]

/-- The search for systemd, as far as it goes, and its result. -/
inductive SystemdSearch :
    List (Exchange StartSig) → Except SystemdAvailabilityError Unit → Prop where
  | bootState (err : String) :
      SystemdSearch [⟨.inr .booted, .error err⟩] (.error (.bootState err))
  | notBooted : SystemdSearch [⟨.inr .booted, .ok false⟩] (.error .notBooted)
  | dbusConnect (err : String) :
      SystemdSearch [⟨.inr .booted, .ok true⟩, ⟨.inl (.connect .system), .error err⟩]
        (.error (.dbusConnect err))
  | proxyCreate (err : String) :
      SystemdSearch [⟨.inr .booted, .ok true⟩, ⟨.inl (.connect .system), .ok ()⟩,
          ⟨.inl (.proxy .system systemdPath .manager), .error err⟩]
        (.error (.proxyCreate err))
  | managerQuery (err : String) :
      SystemdSearch [⟨.inr .booted, .ok true⟩, ⟨.inl (.connect .system), .ok ()⟩,
          ⟨.inl (.proxy .system systemdPath .manager), .ok ()⟩,
          ⟨.inl (.listUnits .system), .error err⟩]
        (.error (.managerQuery err))
  | found (rows : List RawUnit) : SystemdSearch (foundSystemd rows) (.ok ())

theorem ensureSystemdAvailable_leads {history : List (Exchange StartSig)}
    {found : Except SystemdAvailabilityError Unit}
    (h : ensureSystemdAvailable.run.Leads history (pure found)) :
    SystemdSearch history found := by
  obtain ⟨booted, _, rfl, hbooted⟩ := Prog.Leads.op_inv h
  cases booted with
  | error err =>
      obtain ⟨rfl, rfl⟩ := Prog.Leads.pure_inv hbooted
      exact .bootState err
  | ok booted =>
      cases booted with
      | false =>
          obtain ⟨rfl, rfl⟩ := Prog.Leads.pure_inv hbooted
          exact .notBooted
      | true =>
          obtain ⟨connected, _, rfl, hconnected⟩ := Prog.Leads.op_inv hbooted
          cases connected with
          | error err =>
              obtain ⟨rfl, rfl⟩ := Prog.Leads.pure_inv hconnected
              exact .dbusConnect err
          | ok _ =>
              obtain ⟨proxied, _, rfl, hproxied⟩ := Prog.Leads.op_inv hconnected
              cases proxied with
              | error err =>
                  obtain ⟨rfl, rfl⟩ := Prog.Leads.pure_inv hproxied
                  exact .proxyCreate err
              | ok _ =>
                  obtain ⟨listed, _, rfl, hlisted⟩ := Prog.Leads.op_inv hproxied
                  cases listed with
                  | error err =>
                      obtain ⟨rfl, rfl⟩ := Prog.Leads.pure_inv hlisted
                      exact .managerQuery err
                  | ok rows =>
                      obtain ⟨rfl, rfl⟩ := Prog.Leads.pure_inv hlisted
                      exact .found rows

/-- Every search that can be is one of the check's. -/
theorem SystemdSearch.leads {history : List (Exchange StartSig)}
    {found : Except SystemdAvailabilityError Unit} (h : SystemdSearch history found) :
    ensureSystemdAvailable.run.Leads history (pure found) := by
  cases h with
  | bootState err => exact .op (.refl _)
  | notBooted => exact .op (.refl _)
  | dbusConnect err => exact .op (.op (.refl _))
  | proxyCreate err => exact .op (.op (.op (.refl _)))
  | managerQuery err => exact .op (.op (.op (.op (.refl _))))
  | found rows => exact .op (.op (.op (.op (.refl _))))

theorem SystemdSearch.eq_found {history : List (Exchange StartSig)}
    (h : SystemdSearch history (.ok ())) : ∃ rows, history = foundSystemd rows := by
  cases h with
  | found rows => exact ⟨rows, rfl⟩

/-! ## The whole start -/

/-- What a process has done from there until it serves. -/
def openedSocket (config : Config) (socket : SocketAddr) (startedAt : Duration) :
    List (Exchange StartSig) :=
  [⟨.inr .instantNow, startedAt⟩, ⟨.inr (.bind socket), .ok ()⟩,
    ⟨.inr (.serverStarting config.bindAddr config.bindPort config.rateLimitRequestsPerSecond
      config.rateLimitBurst), ()⟩]

/-- What an accepted configuration comes to. -/
structure Config.Sets (config : Config) (socket : SocketAddr) (policy : RateLimitPolicy) :
    Prop where
  socket : config.bindSocket = .ok socket
  policy : config.rateLimitPolicy = some policy

theorem exists_sets {raw : RawConfig} {config : Config} (h : Config.parse raw = .ok config) :
    ∃ socket policy, config.Sets socket policy := by
  obtain ⟨-, -, husable, -⟩ := parse_eq_ok h
  obtain ⟨socket, hsocket⟩ := husable.socket
  obtain ⟨policy, hpolicy⟩ := husable.policy
  exact ⟨socket, policy, hsocket, hpolicy⟩

/-- A start that has come to an end, and its result. -/
inductive StartRun (var : String → Option String) :
    List (Exchange StartSig) → Except StartError Unit → Prop where
  | misconfigured {err : ConfigError} (hconfig : Config.fromEnv var = .error err) :
      StartRun var [] (.error (.config err))
  | noSystemd {config : Config} {history : List (Exchange StartSig)}
      {err : SystemdAvailabilityError} (hconfig : Config.fromEnv var = .ok config)
      (hsearch : SystemdSearch history (.error err)) :
      StartRun var history (.error (.systemd err))
  | notBound {config : Config} {socket : SocketAddr} {policy : RateLimitPolicy}
      (hconfig : Config.fromEnv var = .ok config) (hsets : config.Sets socket policy)
      (rows : List RawUnit) (startedAt : Duration) (err : String) :
      StartRun var (foundSystemd rows ++ [⟨.inr .instantNow, startedAt⟩,
        ⟨.inr (.bind socket), .error err⟩]) (.error (.io err))
  | served {config : Config} {socket : SocketAddr} {policy : RateLimitPolicy}
      (hconfig : Config.fromEnv var = .ok config) (hsets : config.Sets socket policy)
      (rows : List RawUnit) (startedAt : Duration) (answer : Except String Unit) :
      StartRun var (foundSystemd rows ++ openedSocket config socket startedAt
          ++ [⟨.inr (.serve socket (.newWithRateLimit config.apiToken policy startedAt)), answer⟩])
        (answer.mapError .io)

theorem main_misconfigured {var : String → Option String} {err : ConfigError}
    (hconfig : Config.fromEnv var = .error err) :
    (main var).run = pure (.error (.config err)) := by
  rw [main, hconfig]
  rfl

/-- How the start goes on from the search. -/
def afterSearch (config : Config) :
    Except SystemdAvailabilityError Unit → Prog StartSig (Except StartError Unit)
  | .ok () => (serveConfigured config).run
  | .error err => pure (.error (.systemd err))

theorem main_configured {var : String → Option String} {config : Config}
    (hconfig : Config.fromEnv var = .ok config) :
    (main var).run = ensureSystemdAvailable.run >>= afterSearch config := by
  rw [main, hconfig]
  show ((ensureSystemdAvailable.run >>= fun found => pure (found.mapError StartError.systemd))
    >>= ExceptT.bindCont fun _ => serveConfigured config) = _
  rw [Prog.bind_assoc]
  congr 1
  funext found
  cases found <;> rfl

theorem serveConfigured_leads {config : Config} {socket : SocketAddr} {policy : RateLimitPolicy}
    (hsets : config.Sets socket policy) {history : List (Exchange StartSig)}
    {result : Except StartError Unit}
    (h : (serveConfigured config).run.Leads history (pure result)) :
    ∃ startedAt, (∃ err, result = .error (.io err)
        ∧ history = [⟨.inr .instantNow, startedAt⟩, ⟨.inr (.bind socket), .error err⟩])
      ∨ ∃ answer : Except String Unit, result = answer.mapError .io
        ∧ history = openedSocket config socket startedAt
          ++ [⟨.inr (.serve socket (.newWithRateLimit config.apiToken policy startedAt)),
            answer⟩] := by
  rw [serveConfigured, hsets.socket, hsets.policy] at h
  obtain ⟨startedAt, _, rfl, hstarted⟩ := Prog.Leads.op_inv h
  refine ⟨startedAt, ?_⟩
  obtain ⟨bound, _, rfl, hbound⟩ := Prog.Leads.op_inv hstarted
  cases bound with
  | error err =>
      obtain ⟨rfl, rfl⟩ := Prog.Leads.pure_inv hbound
      exact .inl ⟨err, rfl, rfl⟩
  | ok _ =>
      obtain ⟨_, _, rfl, hlogged⟩ := Prog.Leads.op_inv hbound
      obtain ⟨answer, _, rfl, hserved⟩ := Prog.Leads.op_inv hlogged
      obtain ⟨rfl, rfl⟩ := Prog.Leads.pure_inv hserved
      exact .inr ⟨answer, rfl, rfl⟩

/-- A start that ends does so in one of these ways: at the first check that fails, with that
check's error and nothing bound, or after it has served what the variables say. -/
theorem main_run {var : String → Option String} {history : List (Exchange StartSig)}
    {result : Except StartError Unit} (h : (main var).run.Leads history (pure result)) :
    StartRun var history result := by
  cases hconfig : Config.fromEnv var with
  | error err =>
      rw [main_misconfigured hconfig] at h
      obtain ⟨rfl, rfl⟩ := Prog.Leads.pure_inv h
      exact .misconfigured hconfig
  | ok config =>
      obtain ⟨socket, policy, hsets⟩ := exists_sets hconfig
      rw [main_configured hconfig] at h
      obtain ⟨found, before, rest, rfl, hbefore, hrest⟩ := Prog.Leads.bind_inv h
      have hsearch := ensureSystemdAvailable_leads hbefore
      cases found with
      | error err =>
          obtain ⟨rfl, rfl⟩ := Prog.Leads.pure_inv hrest
          rw [List.append_nil]
          exact .noSystemd hconfig hsearch
      | ok _ =>
          obtain ⟨rows, rfl⟩ := hsearch.eq_found
          obtain ⟨startedAt, hnot | hserved⟩ := serveConfigured_leads hsets hrest
          · obtain ⟨err, rfl, rfl⟩ := hnot
            exact .notBound hconfig hsets rows startedAt err
          · obtain ⟨answer, rfl, rfl⟩ := hserved
            rw [← List.append_assoc]
            exact .served hconfig hsets rows startedAt answer

theorem StartRun.leads {var : String → Option String} {history : List (Exchange StartSig)}
    {result : Except StartError Unit} (h : StartRun var history result) :
    (main var).run.Leads history (pure result) := by
  have hfound : ∀ {config : Config} {rows : List RawUnit} {rest : List (Exchange StartSig)},
      (serveConfigured config).run.Leads rest (pure result) →
      (ensureSystemdAvailable.run >>= afterSearch config).Leads (foundSystemd rows ++ rest)
        (pure result) := fun hrest =>
    .op (.op (.op (.op hrest)))
  cases h with
  | misconfigured hconfig =>
      rw [main_misconfigured hconfig]
      exact .refl _
  | @noSystemd config _ _ hconfig hsearch =>
      rw [main_configured hconfig]
      exact hsearch.leads.bind (afterSearch config)
  | notBound hconfig hsets rows startedAt err =>
      rw [main_configured hconfig]
      refine hfound ?_
      rw [serveConfigured, hsets.socket, hsets.policy]
      exact .op (.op (.refl _))
  | served hconfig hsets rows startedAt answer =>
      rw [main_configured hconfig, List.append_assoc]
      refine hfound ?_
      rw [serveConfigured, hsets.socket, hsets.policy]
      exact .op (.op (.op (.op (.refl _))))

section Only

variable {P : StartSig.Op → Prop}

end Only

/-! ### No panic -/

/-- The program comes to a value on every path. -/
abbrev Settles {α : Type} (p : Prog StartSig α) : Prop := p.Returns fun _ => True

theorem settles_call (o : StartSig.Op) : Settles (Prog.call (S := StartSig) o) :=
  fun _ => ⟨_, rfl, trivial⟩

theorem attempt_settles {ε α : Type} {error : String → ε} {p : Prog StartSig (Except String α)}
    (h : Settles p) : Settles (attempt error p).run :=
  h.bind fun _ _ => Prog.Returns.value trivial

theorem andThen_settles {ε α β : Type} {p : Start ε α} {f : α → Start ε β} (hp : Settles p.run)
    (hf : ∀ a, Settles (f a).run) : Settles (p >>= f).run := by
  refine hp.bind ?_
  intro answer _
  cases answer with
  | error err => exact Prog.Returns.value trivial
  | ok a => exact hf a

theorem ensureSystemdAvailable_settles : Settles ensureSystemdAvailable.run := by
  refine andThen_settles (attempt_settles (settles_call _)) ?_
  intro isBooted
  cases isBooted with
  | false => exact Prog.Returns.value trivial
  | true =>
      refine andThen_settles (attempt_settles (settles_call _)) fun _ => ?_
      refine andThen_settles (attempt_settles (settles_call _)) fun _ => ?_
      exact andThen_settles (attempt_settles (settles_call _)) fun _ => Prog.Returns.value trivial

theorem serveConfigured_settles {config : Config} {socket : SocketAddr} {policy : RateLimitPolicy}
    (hsets : config.Sets socket policy) : Settles (serveConfigured config).run := by
  have hlift : ∀ o : StartOp,
      Settles (ExceptT.lift (byProcess o) : Start StartError (ProcessSig.Ans o)).run :=
    fun o => (settles_call (.inr o)).bind fun _ _ => Prog.Returns.value trivial
  rw [serveConfigured, hsets.socket, hsets.policy]
  refine andThen_settles (Prog.Returns.value trivial) fun bindSocket => ?_
  refine andThen_settles (Prog.Returns.value trivial) fun policy => ?_
  refine andThen_settles (hlift .instantNow) fun startedAt => ?_
  refine andThen_settles (attempt_settles (settles_call _)) fun _ => ?_
  refine andThen_settles (hlift (.serverStarting _ _ _ _)) fun _ => ?_
  exact attempt_settles (settles_call _)

/-- The `expect` of the policy is never the end. -/
theorem main_settles (var : String → Option String) : Settles (main var).run := by
  cases hconfig : Config.fromEnv var with
  | error err =>
      rw [main_misconfigured hconfig]
      exact Prog.Returns.value trivial
  | ok config =>
      obtain ⟨socket, policy, hsets⟩ := exists_sets hconfig
      rw [main_configured hconfig]
      refine ensureSystemdAvailable_settles.bind ?_
      intro found _
      cases found with
      | error err => exact Prog.Returns.value trivial
      | ok _ => exact serveConfigured_settles hsets

end SystemdMonitoring
