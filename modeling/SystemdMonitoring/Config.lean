/-
# `SystemdMonitoring.Config` — the configuration that a start accepts

`Config::parse` checks a snapshot of the environment variable by variable, in
the order token, address, port, rate, burst, and then that address and port form
a socket address.  The port plays no part in that last check, as it has been
parsed before: it fails for the address alone (`bindSocket_isOk_iff`).

A rejection names a variable that is at fault (`names_of_parse_error`).  An
accepted configuration is what the documentation asks for with one exception: it
asks for sixteen characters of token, and sixteen bytes are counted.  A token of
fewer characters and enough bytes is accepted, unless another variable stops the
start (`meetsBounds_iff`).
-/
import SystemdMonitoring.Lib.Except
import SystemdMonitoring.Lib.SocketAddr
import SystemdMonitoring.RateLimit

namespace SystemdMonitoring

open Lib Lib.Text

/-! ## Configuration -/

/-- In bytes. -/
def minApiTokenLength : Nat := 16

structure RawConfig where
  apiToken : Option String
  bindAddr : Option String
  bindPort : Option String
  rateLimitRequestsPerSecond : Option String
  rateLimitBurst : Option String
  deriving DecidableEq, Repr

/-- Loads raw environment configuration without validation; a variable that is no text is absent. -/
def RawConfig.fromEnv (var : String → Option String) : RawConfig where
  apiToken := var "MCP_API_TOKEN"
  bindAddr := var "BIND_ADDR"
  bindPort := var "BIND_PORT"
  rateLimitRequestsPerSecond := var "RATE_LIMIT_REQUESTS_PER_SECOND"
  rateLimitBurst := var "RATE_LIMIT_BURST"

structure Config where
  apiToken : String
  bindAddr : String
  bindPort : Nat
  rateLimitRequestsPerSecond : Nat
  rateLimitBurst : Nat
  deriving DecidableEq, Repr

inductive ConfigError where
  | missingApiToken
  | tokenTooShort
  | invalidPort
  | invalidSocket
  | invalidRateLimitRequestsPerSecond
  | invalidRateLimitBurst
  deriving DecidableEq, Repr

def ConfigError.message : ConfigError → String
  | .missingApiToken => "MCP_API_TOKEN is required and must not be empty"
  | .tokenTooShort => s!"MCP_API_TOKEN must be at least {minApiTokenLength} characters"
  | .invalidPort => "BIND_PORT must be a valid u16"
  | .invalidSocket => "invalid bind address or port"
  | .invalidRateLimitRequestsPerSecond =>
      s!"RATE_LIMIT_REQUESTS_PER_SECOND must be an integer between 1 and {maxRequestsPerSecond}"
  | .invalidRateLimitBurst => s!"RATE_LIMIT_BURST must be an integer between 1 and {maxBurst}"

/-- Parses an optional positive bounded integer, applying a default when absent. -/
def parseBoundedU32 (raw : Option String) (default maximum : Nat) (error : ConfigError) :
    Except ConfigError Nat :=
  match raw with
  | none => .ok default
  | some raw =>
      match parseUnsigned 4294967295 (trim raw) with
      | none => .error error
      | some value => if value = 0 ∨ maximum < value then .error error else .ok value

/-- Converts bind host/port settings into a concrete socket address. -/
def Config.bindSocket (config : Config) : Except ConfigError SocketAddr :=
  match SocketAddr.parse s!"{config.bindAddr}:{config.bindPort}" with
  | some addr => .ok addr
  | none => .error .invalidSocket

/-- Converts validated rate settings into the runtime limiter policy; `none` is the panic of its
`expect`. -/
def Config.rateLimitPolicy (config : Config) : Option RateLimitPolicy :=
  (RateLimitPolicy.new config.rateLimitRequestsPerSecond config.rateLimitBurst).toOption

/-- The text between its whitespace, unless nothing is left. -/
def trimmedNonEmpty (raw : Option String) : Option String := (raw.map trim).filter (· ≠ "")

/-- The token's check: it is there, and it is long enough in bytes. -/
def parseApiToken (raw : Option String) : Except ConfigError String :=
  match trimmedNonEmpty raw with
  | none => .error .missingApiToken
  | some token =>
      if token.utf8ByteSize < minApiTokenLength then .error .tokenTooShort else .ok token

/-- The port's check; unlike the other numbers it may not be padded. -/
def parseBindPort (raw : Option String) : Except ConfigError Nat :=
  match raw with
  | none => .ok 8080
  | some value =>
      match parseUnsigned 65535 value with
      | none => .error .invalidPort
      | some port => .ok port

/-- Validates and normalizes a raw config snapshot. -/
def Config.parse (raw : RawConfig) : Except ConfigError Config := do
  let apiToken ← parseApiToken raw.apiToken
  let bindAddr := (trimmedNonEmpty raw.bindAddr).getD "127.0.0.1"
  let bindPort ← parseBindPort raw.bindPort
  let rateLimitRequestsPerSecond ← parseBoundedU32 raw.rateLimitRequestsPerSecond
    defaultRequestsPerSecond maxRequestsPerSecond .invalidRateLimitRequestsPerSecond
  let rateLimitBurst ← parseBoundedU32 raw.rateLimitBurst defaultBurst maxBurst
    .invalidRateLimitBurst
  let config : Config :=
    { apiToken, bindAddr, bindPort, rateLimitRequestsPerSecond, rateLimitBurst }
  let _ ← config.bindSocket
  return config

/-- Builds validated runtime config from environment variables. -/
def Config.fromEnv (var : String → Option String) : Except ConfigError Config :=
  Config.parse (RawConfig.fromEnv var)

/-! ## What is asked of the variables -/

inductive Variable where
  | apiToken
  | bindAddr
  | bindPort
  | rateLimitRequestsPerSecond
  | rateLimitBurst
  deriving DecidableEq, Repr

/-- How messages speak of a variable. -/
def Variable.phrases : Variable → List String
  | .apiToken => ["MCP_API_TOKEN"]
  | .bindAddr => ["BIND_ADDR", "bind address"]
  | .bindPort => ["BIND_PORT", "bind port"]
  | .rateLimitRequestsPerSecond => ["RATE_LIMIT_REQUESTS_PER_SECOND"]
  | .rateLimitBurst => ["RATE_LIMIT_BURST"]

/-- The message of the error names the variable. -/
def ConfigError.names (error : ConfigError) (name : Variable) : Bool :=
  name.phrases.any (contains error.message)

/-- The text is a decimal numeral between the bounds. -/
def IsDecimalIn (low high : Nat) (text : String) : Prop :=
  ∃ value, IsDecimal text value ∧ low ≤ value ∧ value ≤ high

/-- The variable is missing, malformed or out of its documented bounds. -/
def RawConfig.Faulty (raw : RawConfig) : Variable → Prop
  | .apiToken => ∀ token, raw.apiToken = some token → (trim token).length < 16
  | .bindAddr => ∃ addr, raw.bindAddr = some addr ∧ trim addr ≠ "" ∧ ¬ IsHost (trim addr)
  | .bindPort => ∃ port, raw.bindPort = some port ∧ ¬ IsDecimalIn 0 65535 port
  | .rateLimitRequestsPerSecond => ∃ rate, raw.rateLimitRequestsPerSecond = some rate
      ∧ ¬ IsDecimalIn 1 1000000 (trim rate)
  | .rateLimitBurst => ∃ burst, raw.rateLimitBurst = some burst
      ∧ ¬ IsDecimalIn 1 1000000 (trim burst)

/-- The value is the default of an absent variable, or what the variable says. -/
def IsGiven (raw : Option String) (default value : Nat) : Prop :=
  (raw = none ∧ value = default) ∨ ∃ text, raw = some text ∧ IsDecimal (trim text) value

/-- What is documented of an accepted configuration, but for the token's length. -/
structure Config.Usable (raw : RawConfig) (config : Config) : Prop where
  token_trimmed : NoMargin isWhitespace config.apiToken.toList
  rate_bounds : 1 ≤ config.rateLimitRequestsPerSecond
    ∧ config.rateLimitRequestsPerSecond ≤ 1000000
  rate_given : IsGiven raw.rateLimitRequestsPerSecond 10 config.rateLimitRequestsPerSecond
  burst_bounds : 1 ≤ config.rateLimitBurst ∧ config.rateLimitBurst ≤ 1000000
  burst_given : IsGiven raw.rateLimitBurst 20 config.rateLimitBurst
  policy : ∃ policy, config.rateLimitPolicy = some policy
  socket : ∃ addr, config.bindSocket = .ok addr

/-- Whatever is accepted is usable and has a token of sixteen characters, and whatever is rejected
is so for a variable at fault. -/
structure RawConfig.MeetsBounds (raw : RawConfig) : Prop where
  accepted : ∀ config, Config.parse raw = .ok config →
    16 ≤ config.apiToken.length ∧ config.Usable raw
  rejected : ∀ error, Config.parse raw = .error error →
    ∃ name, error.names name = true ∧ raw.Faulty name

/-! ## Address and port -/

theorem isPort_toDigits {port : Nat} (h : port ≤ 65535) : IsPort (Nat.toDigits 10 port) := by
  have hdigits : ∀ c ∈ Nat.toDigits 10 port, isAsciiDigit c = true := by
    intro c hc
    have hdigit := Nat.isDigit_of_mem_toDigits (by decide) (by decide) hc
    simp only [Char.isDigit, Bool.and_eq_true, decide_eq_true_eq] at hdigit
    simp only [isAsciiDigit, Bool.and_eq_true, decide_eq_true_eq]
    exact hdigit
  have hvalue : digitsValue (Nat.toDigits 10 port) = port := Nat.ofDigitChars_ten_toDigits
  exact ⟨Nat.toDigits_ne_nil, hdigits, hvalue.trans_le h⟩

/-- **Whether there is a socket to bind is a matter of the address.** -/
theorem bindSocket_isOk_iff {config : Config} (hport : config.bindPort ≤ 65535) :
    (∃ addr, config.bindSocket = .ok addr) ↔ IsHost config.bindAddr := by
  have htext : (s!"{config.bindAddr}:{config.bindPort}").toList
      = config.bindAddr.toList ++ ':' :: Nat.toDigits 10 config.bindPort := by
    show (config.bindAddr ++ ":" ++ config.bindPort.repr).toList = _
    rw [String.toList_append, String.toList_append, Nat.toList_repr, List.append_assoc]
    rfl
  rw [← parse_isSome_iff (isPort_toDigits hport) htext]
  unfold Config.bindSocket
  cases SocketAddr.parse s!"{config.bindAddr}:{config.bindPort}" <;> simp

theorem isHost_of_bindSocket {config : Config} {addr : SocketAddr}
    (h : config.bindSocket = .ok addr) (hport : config.bindPort ≤ 65535) :
    IsHost config.bindAddr := (bindSocket_isOk_iff hport).mp ⟨addr, h⟩

theorem bindSocket_eq_error {config : Config} {error : ConfigError}
    (h : config.bindSocket = .error error) :
    error = .invalidSocket ∧ ¬ ∃ addr, config.bindSocket = .ok addr := by
  constructor
  · unfold Config.bindSocket at h
    split at h
    · cases h
    · cases h
      rfl
  · rintro ⟨addr, haddr⟩
    rw [haddr] at h
    cases h

theorem isHost_default : IsHost "127.0.0.1" := .inl ⟨[127, 0, 0, 1], rfl⟩

/-! ## The checks, one by one -/

theorem trimmedNonEmpty_eq_some_iff {raw : Option String} {text : String} :
    trimmedNonEmpty raw = some text
      ↔ (∃ given, raw = some given ∧ trim given = text) ∧ text ≠ "" := by
  rw [trimmedNonEmpty, Option.filter_eq_some_iff, Option.map_eq_some_iff, decide_eq_true_eq]

/-- A bounded value is the default or the numeral, within the bounds. -/
theorem parseBoundedU32_eq_ok {raw : Option String} {default maximum value : Nat}
    {error : ConfigError} (hdefault : 1 ≤ default ∧ default ≤ maximum)
    (h : parseBoundedU32 raw default maximum error = .ok value) :
    (1 ≤ value ∧ value ≤ maximum) ∧ IsGiven raw default value
      ∧ ∀ text, raw = some text → IsDecimalIn 1 maximum (trim text) := by
  cases raw with
  | none =>
      cases h
      refine ⟨hdefault, .inl ⟨rfl, rfl⟩, ?_⟩
      intro text htext
      cases htext
  | some text =>
      unfold parseBoundedU32 at h
      dsimp only at h
      cases hparsed : parseUnsigned 4294967295 (trim text) with
      | none =>
          rw [hparsed] at h
          cases h
      | some number =>
          rw [hparsed] at h
          dsimp only at h
          split at h
          · cases h
          · next hin =>
              cases h
              rw [not_or, not_lt] at hin
              have hbounds : 1 ≤ value ∧ value ≤ maximum := ⟨Nat.pos_of_ne_zero hin.1, hin.2⟩
              have hdecimal := (parseUnsigned_eq_some_iff.mp hparsed).1
              refine ⟨hbounds, .inr ⟨text, rfl, hdecimal⟩, ?_⟩
              intro given hgiven
              cases hgiven
              exact ⟨value, hdecimal, hbounds⟩

/-- A value is refused when it is no numeral within the bounds. -/
theorem parseBoundedU32_eq_error {raw : Option String} {default maximum : Nat}
    {error error' : ConfigError} (hmaximum : maximum ≤ 4294967295)
    (h : parseBoundedU32 raw default maximum error = .error error') :
    error' = error ∧ ∃ text, raw = some text ∧ ¬ IsDecimalIn 1 maximum (trim text) := by
  cases raw with
  | none => cases h
  | some text =>
      have hno : (∀ value, parseUnsigned 4294967295 (trim text) = some value →
          value = 0 ∨ maximum < value) → ¬ IsDecimalIn 1 maximum (trim text) := by
        rintro hout ⟨value, hdecimal, hlow, hhigh⟩
        have := hout value (parseUnsigned_eq_some_iff.mpr ⟨hdecimal, hhigh.trans hmaximum⟩)
        omega
      unfold parseBoundedU32 at h
      dsimp only at h
      cases hparsed : parseUnsigned 4294967295 (trim text) with
      | none =>
          rw [hparsed] at h hno
          cases h
          refine ⟨rfl, text, rfl, hno ?_⟩
          intro value hvalue
          cases hvalue
      | some number =>
          rw [hparsed] at h hno
          dsimp only at h
          split at h
          · next hout =>
              cases h
              refine ⟨rfl, text, rfl, hno ?_⟩
              intro value hvalue
              cases hvalue
              exact hout
          · cases h

theorem parseApiToken_eq_ok {raw : Option String} {token : String}
    (h : parseApiToken raw = .ok token) :
    (∃ given, raw = some given ∧ trim given = token) ∧ 16 ≤ token.utf8ByteSize := by
  rw [parseApiToken] at h
  cases htoken : trimmedNonEmpty raw with
  | none =>
      rw [htoken] at h
      cases h
  | some trimmed =>
      rw [htoken] at h
      dsimp only at h
      split at h
      · cases h
      · next hlong =>
          cases h
          exact ⟨(trimmedNonEmpty_eq_some_iff.mp htoken).1, not_lt.mp hlong⟩

/-- A refused token is none, or has fewer bytes; the error is one of the token's. -/
theorem parseApiToken_eq_error {raw : Option String} {error : ConfigError}
    (h : parseApiToken raw = .error error) :
    error.names .apiToken = true
      ∧ ∀ given, raw = some given → (trim given).utf8ByteSize < 16 := by
  rw [parseApiToken] at h
  cases htoken : trimmedNonEmpty raw with
  | none =>
      rw [htoken] at h
      cases h
      refine ⟨by decide +kernel, ?_⟩
      rintro given rfl
      have hempty : trim given = "" := by
        by_contra hne
        rw [trimmedNonEmpty_eq_some_iff.mpr ⟨⟨given, rfl, rfl⟩, hne⟩] at htoken
        cases htoken
      rw [hempty]
      decide
  | some token =>
      rw [htoken] at h
      dsimp only at h
      split at h
      · next hshort =>
          cases h
          refine ⟨by decide +kernel, ?_⟩
          rintro given rfl
          obtain ⟨⟨_, hgiven, rfl⟩, -⟩ := trimmedNonEmpty_eq_some_iff.mp htoken
          cases hgiven
          exact hshort
      · cases h

theorem parseBindPort_eq_ok {raw : Option String} {port : Nat}
    (h : parseBindPort raw = .ok port) :
    port ≤ 65535 ∧ ∀ text, raw = some text → IsDecimalIn 0 65535 text := by
  cases raw with
  | none =>
      cases h
      refine ⟨by decide, ?_⟩
      intro text htext
      cases htext
  | some text =>
      unfold parseBindPort at h
      dsimp only at h
      cases hparsed : parseUnsigned 65535 text with
      | none =>
          rw [hparsed] at h
          cases h
      | some number =>
          rw [hparsed] at h
          cases h
          obtain ⟨hdecimal, hmax⟩ := parseUnsigned_eq_some_iff.mp hparsed
          refine ⟨hmax, ?_⟩
          intro given hgiven
          cases hgiven
          exact ⟨port, hdecimal, Nat.zero_le port, hmax⟩

theorem parseBindPort_eq_error {raw : Option String} {error : ConfigError}
    (h : parseBindPort raw = .error error) :
    error = .invalidPort ∧ ∃ text, raw = some text ∧ ¬ IsDecimalIn 0 65535 text := by
  cases raw with
  | none => cases h
  | some text =>
      unfold parseBindPort at h
      dsimp only at h
      cases hparsed : parseUnsigned 65535 text with
      | none =>
          rw [hparsed] at h
          cases h
          refine ⟨rfl, text, rfl, ?_⟩
          rintro ⟨value, hdecimal, -, hmax⟩
          rw [parseUnsigned_eq_some_iff.mpr ⟨hdecimal, hmax⟩] at hparsed
          cases hparsed
      | some number =>
          rw [hparsed] at h
          cases h

/-- The address that is used is a host unless the variable is at fault. -/
theorem isHost_bindAddr_iff (raw : RawConfig) :
    IsHost ((trimmedNonEmpty raw.bindAddr).getD "127.0.0.1") ↔ ¬ raw.Faulty .bindAddr := by
  cases haddr : trimmedNonEmpty raw.bindAddr with
  | none =>
      refine iff_of_true isHost_default ?_
      rintro ⟨addr, hraw, hne, -⟩
      rw [trimmedNonEmpty_eq_some_iff.mpr ⟨⟨addr, hraw, rfl⟩, hne⟩] at haddr
      cases haddr
  | some host =>
      obtain ⟨⟨addr, hraw, rfl⟩, hne⟩ := trimmedNonEmpty_eq_some_iff.mp haddr
      rw [Option.getD_some]
      constructor
      · rintro hhost ⟨addr', hraw', -, hno⟩
        rw [hraw] at hraw'
        cases hraw'
        exact hno hhost
      · intro hno
        by_contra hhost
        exact hno ⟨addr, hraw, hne, hhost⟩

/-! ## The whole snapshot -/

theorem rateLimitPolicy_isSome {config : Config}
    (hrate : 1 ≤ config.rateLimitRequestsPerSecond
      ∧ config.rateLimitRequestsPerSecond ≤ maxRequestsPerSecond)
    (hburst : 1 ≤ config.rateLimitBurst ∧ config.rateLimitBurst ≤ maxBurst) :
    ∃ policy, config.rateLimitPolicy = some policy := by
  rw [Config.rateLimitPolicy, RateLimitPolicy.new, dif_pos hrate, dif_pos hburst]
  exact ⟨_, rfl⟩

/-- What an accepted snapshot is like. -/
theorem parse_eq_ok {raw : RawConfig} {config : Config} (h : Config.parse raw = .ok config) :
    (∃ token, raw.apiToken = some token ∧ trim token = config.apiToken)
      ∧ 16 ≤ config.apiToken.utf8ByteSize ∧ config.Usable raw
      ∧ ∀ name, name ≠ .apiToken → ¬ raw.Faulty name := by
  rw [Config.parse] at h
  obtain ⟨token, htoken, h⟩ := bind_eq_ok.mp h
  obtain ⟨port, hport, h⟩ := bind_eq_ok.mp h
  obtain ⟨rate, hrate, h⟩ := bind_eq_ok.mp h
  obtain ⟨burst, hburst, h⟩ := bind_eq_ok.mp h
  obtain ⟨addr, haddr, h⟩ := bind_eq_ok.mp h
  obtain ⟨hgiven, hbytes⟩ := parseApiToken_eq_ok htoken
  obtain ⟨hportMax, hportText⟩ := parseBindPort_eq_ok hport
  have hhost := isHost_of_bindSocket haddr hportMax
  cases h
  obtain ⟨hrateBounds, hrateGiven, hrateText⟩ := parseBoundedU32_eq_ok (by decide) hrate
  obtain ⟨hburstBounds, hburstGiven, hburstText⟩ := parseBoundedU32_eq_ok (by decide) hburst
  refine ⟨hgiven, hbytes, ?_, ?_⟩
  · refine ⟨?_, hrateBounds, hrateGiven, hburstBounds, hburstGiven,
      rateLimitPolicy_isSome hrateBounds hburstBounds, addr, haddr⟩
    obtain ⟨given, -, rfl⟩ := hgiven
    exact trim_eq_self_iff.mp (trim_trim given)
  · intro name hname hfaulty
    cases name with
    | apiToken => exact hname rfl
    | bindAddr => exact (isHost_bindAddr_iff raw).mp hhost hfaulty
    | bindPort =>
        obtain ⟨text, htext, hno⟩ := hfaulty
        exact hno (hportText text htext)
    | rateLimitRequestsPerSecond =>
        obtain ⟨text, htext, hno⟩ := hfaulty
        exact hno (hrateText text htext)
    | rateLimitBurst =>
        obtain ⟨text, htext, hno⟩ := hfaulty
        exact hno (hburstText text htext)

/-- What a rejected one is like: its token has too few bytes, or another variable is at fault. -/
theorem parse_eq_error {raw : RawConfig} {error : ConfigError}
    (h : Config.parse raw = .error error) :
    (error.names .apiToken = true
        ∧ ∀ token, raw.apiToken = some token → (trim token).utf8ByteSize < 16)
      ∨ ∃ name, name ≠ .apiToken ∧ error.names name = true ∧ raw.Faulty name := by
  rw [Config.parse, bind_eq_error] at h
  rcases h with herror | ⟨token, -, h⟩
  · exact .inl (parseApiToken_eq_error herror)
  · right
    rw [bind_eq_error] at h
    rcases h with herror | ⟨port, hport, h⟩
    · obtain ⟨rfl, hfaulty⟩ := parseBindPort_eq_error herror
      exact ⟨.bindPort, by decide, by decide +kernel, hfaulty⟩
    · rw [bind_eq_error] at h
      rcases h with herror | ⟨rate, -, h⟩
      · obtain ⟨rfl, hfaulty⟩ := parseBoundedU32_eq_error (by decide) herror
        exact ⟨.rateLimitRequestsPerSecond, by decide, by decide +kernel, hfaulty⟩
      · rw [bind_eq_error] at h
        rcases h with herror | ⟨burst, -, h⟩
        · obtain ⟨rfl, hfaulty⟩ := parseBoundedU32_eq_error (by decide) herror
          exact ⟨.rateLimitBurst, by decide, by decide +kernel, hfaulty⟩
        · rw [bind_eq_error] at h
          rcases h with herror | ⟨addr, -, h⟩
          · obtain ⟨rfl, hsocket⟩ := bindSocket_eq_error herror
            refine ⟨.bindAddr, by decide, by decide +kernel, ?_⟩
            by_contra hno
            exact hsocket ((bindSocket_isOk_iff (parseBindPort_eq_ok hport).1).mpr
              ((isHost_bindAddr_iff raw).mpr hno))
          · cases h

/-- A token of sixteen bytes has sixteen characters as well. -/
def RawConfig.CountsAlike (raw : RawConfig) : Prop :=
  ∀ token, raw.apiToken = some token → 16 ≤ (trim token).utf8ByteSize → 16 ≤ (trim token).length

/-- **When the start keeps its bounds**: when bytes and characters of the token agree on sixteen, or
another variable stops it. -/
theorem meetsBounds_iff (raw : RawConfig) :
    raw.MeetsBounds ↔ raw.CountsAlike ∨ ∃ name, name ≠ .apiToken ∧ raw.Faulty name := by
  have hfew : ∀ token : String, (trim token).utf8ByteSize < 16 → (trim token).length < 16 := by
    intro token hbytes
    have hlength := length_le_utf8ByteSize (trim token)
    rw [String.length_toList] at hlength
    exact hlength.trans_lt hbytes
  constructor
  · intro hmeets
    cases hparse : Config.parse raw with
    | ok config =>
        obtain ⟨⟨token, hraw, htoken⟩, -, -, -⟩ := parse_eq_ok hparse
        left
        intro given hgiven _
        rw [hraw] at hgiven
        cases hgiven
        rw [htoken]
        exact (hmeets.accepted config hparse).1
    | error error =>
        rcases parse_eq_error hparse with ⟨-, hshort⟩ | ⟨name, hname, -, hfaulty⟩
        · left
          intro token htoken hbytes
          exact absurd hbytes (not_le.mpr (hshort token htoken))
        · exact .inr ⟨name, hname, hfaulty⟩
  · intro hcondition
    constructor
    · intro config hparse
      obtain ⟨⟨token, hraw, htoken⟩, hbytes, husable, hsound⟩ := parse_eq_ok hparse
      refine ⟨?_, husable⟩
      rcases hcondition with hcounts | ⟨name, hname, hfaulty⟩
      · rw [← htoken] at hbytes ⊢
        exact hcounts token hraw hbytes
      · exact absurd hfaulty (hsound name hname)
    · intro error hparse
      rcases parse_eq_error hparse with ⟨hnames, hshort⟩ | ⟨name, -, hnames, hfaulty⟩
      · exact ⟨.apiToken, hnames, fun token htoken => hfew token (hshort token htoken)⟩
      · exact ⟨name, hnames, hfaulty⟩

/-- Eight letters of two bytes each, and nothing else set. -/
def wideToken : RawConfig where
  apiToken := some "éééééééé"
  bindAddr := none
  bindPort := none
  rateLimitRequestsPerSecond := none
  rateLimitBurst := none

/-- A start with a token of eight characters. -/
theorem wideToken_accepted :
    Config.parse wideToken = .ok ⟨"éééééééé", "127.0.0.1", 8080, 10, 20⟩
      ∧ "éééééééé".length = 8 ∧ ¬ wideToken.MeetsBounds := by
  have hparse : Config.parse wideToken = .ok ⟨"éééééééé", "127.0.0.1", 8080, 10, 20⟩ := by
    decide +kernel
  have hlength : "éééééééé".length = 8 := by decide
  refine ⟨hparse, hlength, ?_⟩
  intro hmeets
  have hlong : 16 ≤ "éééééééé".length := (hmeets.accepted _ hparse).1
  rw [hlength] at hlong
  exact absurd hlong (by decide)

end SystemdMonitoring
