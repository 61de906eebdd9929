import AgentServe.Config.Models
import AgentServe.Lib.Yaml

/-!
# Loading the configuration

The configuration is a file whose document is a mapping with one member for each
section. Two variables of the environment are written into the telemetry section of
the raw document before it is validated, and the members of the document are then
passed as keyword arguments.

What is loaded is what the document describes, with the two fields replaced, and no
other field depends on the environment (`described_of_loadConfig`). But a telemetry
section that is no mapping cannot be written to, and a key that is no text is no
keyword. So an error outside the contract escapes exactly if a variable is set and
the section is there without being a mapping, if some key of the document is no
text, or if asking for the file itself fails (`load_contract_iff`).

How a single value is read as a text, a number, a Boolean or a tier is left to the
schema library, except that a text is read as it is. Members of a document are not
shared with each other.
-/

set_option autoImplicit false

namespace AgentServe

open Lib
open Lib.YamlValue (Entries member setMember TextKeys)

/-! ## Validation -/

/-- What the schema library decides: how a value is read, and what it says of a document that does
not validate. -/
structure ConfigLibrary where
  toStr : YamlValue → Option String
  toInt : YamlValue → Option ℤ
  toBool : YamlValue → Option Bool
  toTier : YamlValue → Option Tier
  explain : Entries → String
  toStr_str : ∀ s, toStr (.str s) = some s

section Validation

variable (lib : ConfigLibrary)

/-- A field with its default, if it has one. -/
def field {α : Type} (parse : YamlValue → Option α) (default : Option α) (entries : Entries)
    (name : String) : Option α :=
  match member entries name with
  | none => default
  | some value => parse value

def BackendConfig.validate : YamlValue → Option BackendConfig
  | .mapping entries => do
    let id ← field lib.toStr none entries "id"
    let tier ← field lib.toTier none entries "tier"
    let baseUrl ← field lib.toStr none entries "base_url"
    let gpu ← field lib.toInt none entries "gpu"
    let maxInflight ← field lib.toInt none entries "max_inflight"
    let model ← field lib.toStr (some "") entries "model"
    return { id, tier, baseUrl, gpu, maxInflight, model }
  | _ => none

def AdmissionConfig.validate : YamlValue → Option AdmissionConfig
  | .mapping entries => do
    let defaultTokenBudget ← field lib.toInt (some 100000) entries "default_token_budget"
    let budgetWindowSeconds ← field lib.toInt (some 3600) entries "budget_window_seconds"
    let maxQueueSize ← field lib.toInt (some 256) entries "max_queue_size"
    let queueTimeoutSeconds ← field lib.toInt (some 30) entries "queue_timeout_seconds"
    return { defaultTokenBudget, budgetWindowSeconds, maxQueueSize, queueTimeoutSeconds }
  | _ => none

def RoutingConfig.validate : YamlValue → Option RoutingConfig
  | .mapping entries => do
    let promptLengthThreshold ← field lib.toInt (some 2000) entries "prompt_length_threshold"
    let classifierCacheTtlSeconds ←
      field lib.toInt (some 300) entries "classifier_cache_ttl_seconds"
    let toolFollowupStaysSameTier ←
      field lib.toBool (some true) entries "tool_followup_stays_same_tier"
    return { promptLengthThreshold, classifierCacheTtlSeconds, toolFollowupStaysSameTier }
  | _ => none

def AffinityConfig.validate : YamlValue → Option AffinityConfig
  | .mapping entries => do
    let enabled ← field lib.toBool (some true) entries "enabled"
    let stickyTtlSeconds ← field lib.toInt (some 1800) entries "sticky_ttl_seconds"
    let rebalanceOnBackendRecovery ←
      field lib.toBool (some false) entries "rebalance_on_backend_recovery"
    return { enabled, stickyTtlSeconds, rebalanceOnBackendRecovery }
  | _ => none

def HealthConfig.validate : YamlValue → Option HealthConfig
  | .mapping entries => do
    let probeIntervalSeconds ← field lib.toInt (some 10) entries "probe_interval_seconds"
    let failuresToMarkDown ← field lib.toInt (some 3) entries "failures_to_mark_down"
    let successesToMarkUp ← field lib.toInt (some 2) entries "successes_to_mark_up"
    let probeTimeoutSeconds ← field lib.toInt (some 5) entries "probe_timeout_seconds"
    return { probeIntervalSeconds, failuresToMarkDown, successesToMarkUp, probeTimeoutSeconds }
  | _ => none

def TelemetryConfig.validate : YamlValue → Option TelemetryConfig
  | .mapping entries => do
    let otlpEndpoint ←
      field lib.toStr (some "http://otel-collector:4317") entries "otlp_endpoint"
    let prometheusPath ← field lib.toStr (some "/metrics") entries "prometheus_path"
    let logLevel ← field lib.toStr (some "info") entries "log_level"
    return { otlpEndpoint, prometheusPath, logLevel }
  | _ => none

/-- The backends of a document. -/
def backendsOf (value : YamlValue) : Option (List BackendConfig) :=
  value.elements?.bind (List.mapM (BackendConfig.validate lib))

def GatewayConfig.validate (entries : Entries) : Option GatewayConfig := do
  let backends ← field (backendsOf lib) none entries "backends"
  let admission ← field (AdmissionConfig.validate lib) (some {}) entries "admission"
  let routing ← field (RoutingConfig.validate lib) (some {}) entries "routing"
  let affinity ← field (AffinityConfig.validate lib) (some {}) entries "affinity"
  let health ← field (HealthConfig.validate lib) (some {}) entries "health"
  let telemetry ← field (TelemetryConfig.validate lib) (some {}) entries "telemetry"
  return { backends, admission, routing, affinity, health, telemetry }

end Validation

/-! ## The loader -/

/-- What loading raises. -/
inductive LoadError where
  | fileNotFoundError (message : String)
  | valueError (message : String)
  | typeError
  | osError (message : String)
  | runtimeError (message : String)

/-- The errors that loading promises. -/
def LoadError.InContract : LoadError → Prop
  | .fileNotFoundError _ => True
  | .valueError _ => True
  | _ => False

/-- What reading the text of a file raises: the system refuses it, or its bytes are no text. -/
inductive ReadError where
  | osError (message : String)
  | decodeError (message : String)

/-- A path, and what the system says of the file there. -/
structure ConfigFile where
  path : String
  exists_ : Except LoadError Bool
  resolve : Except LoadError String
  readText : Except ReadError String

/-- The two variables that override fields. -/
structure Environment where
  logLevel : Option String := none
  otlpEndpoint : Option String := none

/-- A variable that is set to a text that is not empty. -/
def nonempty (envValue : Option String) : Option String := envValue.filter (· ≠ "")

/-- Write a variable into a section. -/
def override (envValue : Option String) (key : String) (telemetry : YamlValue) :
    Except LoadError YamlValue :=
  match nonempty envValue with
  | none => .ok telemetry
  | some text =>
    match telemetry with
    | .mapping entries => .ok (.mapping (setMember entries key (.str text)))
    | _ => .error .typeError

/-- The telemetry section of a document. A document without one gets an empty one. -/
def telemetryOf (entries : Entries) : YamlValue := (member entries "telemetry").getD (.mapping [])

def applyOverrides (env : Environment) (entries : Entries) : Except LoadError Entries := do
  let telemetry ← override env.logLevel "log_level" (telemetryOf entries)
  let telemetry ← override env.otlpEndpoint "otlp_endpoint" telemetry
  return setMember entries "telemetry" telemetry

/-- The members of a document as keyword arguments. -/
def construct (lib : ConfigLibrary) (path : String) (entries : Entries) :
    Except LoadError GatewayConfig :=
  if TextKeys entries then
    match GatewayConfig.validate lib entries with
    | some config => .ok config
    | none =>
      .error (.valueError
        ("Config file '" ++ path ++ "' failed validation:\n" ++ lib.explain entries))
  else .error .typeError

def checkExists (file : ConfigFile) : Except LoadError Unit := do
  let found ← file.exists_
  if found then return ()
  else
    let resolved ← file.resolve
    throw (.fileNotFoundError ("Gateway config file not found: " ++ resolved))

def readText (file : ConfigFile) : Except LoadError String :=
  match file.readText with
  | .ok raw => .ok raw
  | .error (.osError message) =>
    .error (.valueError ("Could not read config file '" ++ file.path ++ "': " ++ message))
  | .error (.decodeError message) => .error (.valueError message)

/-- The mapping of a text. -/
def parse (safeLoad : String → Except String YamlValue) (path raw : String) :
    Except LoadError Entries :=
  match safeLoad raw with
  | .error message =>
    .error (.valueError ("Invalid YAML in config file '" ++ path ++ "': " ++ message))
  | .ok data =>
    match data.orEmpty with
    | .mapping entries => .ok entries
    | _ =>
      .error (.valueError
        ("Config file '" ++ path ++ "' must contain a YAML mapping at the top level."))

def loadConfig (lib : ConfigLibrary) (safeLoad : String → Except String YamlValue)
    (file : ConfigFile) (env : Environment) : Except LoadError GatewayConfig := do
  checkExists file
  let raw ← readText file
  let entries ← parse safeLoad file.path raw
  let overridden ← applyOverrides env entries
  construct lib file.path overridden

/-! ## What is loaded -/

/-- The file is there, and its text is a document with these members. -/
structure HasDocument (safeLoad : String → Except String YamlValue) (file : ConfigFile)
    (entries : Entries) : Prop where
  exists_ : file.exists_ = .ok true
  loaded : ∃ raw data, file.readText = .ok raw ∧ safeLoad raw = .ok data ∧
    data.orEmpty = .mapping entries

/-- A configuration is what a document describes, with two fields replaced by the variables that
are set. -/
structure Described (lib : ConfigLibrary) (env : Environment) (entries : Entries)
    (config : GatewayConfig) : Prop where
  backends : field (backendsOf lib) none entries "backends" = some config.backends
  admission : field (AdmissionConfig.validate lib) (some {}) entries "admission" =
    some config.admission
  routing : field (RoutingConfig.validate lib) (some {}) entries "routing" = some config.routing
  affinity : field (AffinityConfig.validate lib) (some {}) entries "affinity" =
    some config.affinity
  health : field (HealthConfig.validate lib) (some {}) entries "health" = some config.health
  telemetry : ∃ written, telemetryOf entries = .mapping written ∧
    (nonempty env.otlpEndpoint).or
      (field lib.toStr (some "http://otel-collector:4317") written "otlp_endpoint") =
        some config.telemetry.otlpEndpoint ∧
    field lib.toStr (some "/metrics") written "prometheus_path" =
      some config.telemetry.prometheusPath ∧
    (nonempty env.logLevel).or (field lib.toStr (some "info") written "log_level") =
      some config.telemetry.logLevel

section Loaded

variable {lib : ConfigLibrary} {safeLoad : String → Except String YamlValue} {file : ConfigFile}
  {env : Environment} {entries : Entries} {config : GatewayConfig}

theorem field_set_self {α : Type} (read : YamlValue → Option α) (default : Option α)
    (entries : Entries) (name : String) (value : YamlValue) :
    field read default (setMember entries name value) name = read value := by
  rw [field, YamlValue.member_set_self]

theorem field_set_of_ne {α : Type} (read : YamlValue → Option α) (default : Option α)
    (entries : Entries) {name other : String} (differ : name ≠ other) (value : YamlValue) :
    field read default (setMember entries name value) other = field read default entries other := by
  rw [field, field, YamlValue.member_set_of_ne _ _ differ]

/-- A section is written to exactly if no variable is set or it is a mapping. -/
theorem override_eq_ok_iff {envValue : Option String} {key : String} {before after : YamlValue} :
    override envValue key before = .ok after ↔
      (nonempty envValue = none ∧ after = before) ∨
        ∃ text written, nonempty envValue = some text ∧ before = .mapping written ∧
          after = .mapping (setMember written key (.str text)) := by
  unfold override
  cases nonempty envValue with
  | none => simp [eq_comm]
  | some text =>
      cases before <;> simp [eq_comm]

/-- A field of a section after a variable was written into the section. -/
theorem field_of_override (lib : ConfigLibrary) {envValue : Option String} {key : String}
    {before after : YamlValue} {written : Entries}
    (overrode : override envValue key before = .ok after) (mapping : after = .mapping written) :
    ∃ earlier, before = .mapping earlier ∧
      (∀ default, field lib.toStr default written key =
        (nonempty envValue).or (field lib.toStr default earlier key)) ∧
      ∀ default name, key ≠ name →
        field lib.toStr default written name = field lib.toStr default earlier name := by
  rcases override_eq_ok_iff.mp overrode with ⟨unset, rfl⟩ | ⟨text, earlier, set, rfl, rfl⟩
  · exact ⟨written, mapping, fun default => by rw [unset, Option.none_or], fun _ _ _ => rfl⟩
  · cases mapping
    refine ⟨earlier, rfl, fun default => ?_, fun default name differ => ?_⟩
    · rw [field_set_self, lib.toStr_str, set, Option.some_or]
    · rw [field_set_of_ne _ _ _ differ]

/-- The fields of the telemetry section after both variables were written. -/
theorem telemetry_of_overrides {overridden : Entries}
    (applied : applyOverrides env entries = .ok overridden)
    (validated : field (TelemetryConfig.validate lib) (some {}) overridden "telemetry" =
      some config.telemetry) :
    ∃ written, telemetryOf entries = .mapping written ∧
      (nonempty env.otlpEndpoint).or
        (field lib.toStr (some "http://otel-collector:4317") written "otlp_endpoint") =
          some config.telemetry.otlpEndpoint ∧
      field lib.toStr (some "/metrics") written "prometheus_path" =
        some config.telemetry.prometheusPath ∧
      (nonempty env.logLevel).or (field lib.toStr (some "info") written "log_level") =
        some config.telemetry.logLevel := by
  obtain ⟨middle, first, applied⟩ := bind_eq_ok_iff.mp applied
  obtain ⟨last, second, applied⟩ := bind_eq_ok_iff.mp applied
  cases applied
  rw [field_set_self] at validated
  cases last with
  | mapping written =>
      obtain ⟨endpoint, readEndpoint, validated⟩ := Option.bind_eq_some_iff.mp validated
      obtain ⟨path, readPath, validated⟩ := Option.bind_eq_some_iff.mp validated
      obtain ⟨level, readLevel, validated⟩ := Option.bind_eq_some_iff.mp validated
      have telemetry := Option.some.inj validated
      obtain ⟨between, rfl, endpoint', others'⟩ := field_of_override lib second rfl
      obtain ⟨before, rest, level', others⟩ := field_of_override lib first rfl
      refine ⟨before, rest, ?_, ?_, ?_⟩
      · rw [← telemetry, ← readEndpoint, endpoint', others _ _ (by decide)]
      · rw [← telemetry, ← readPath, others' _ _ (by decide), others _ _ (by decide)]
      · rw [← telemetry, ← readLevel, others' _ _ (by decide), level']
  | _ => cases validated

/-- **What is loaded.** -/
theorem described_of_construct {overridden : Entries}
    (applied : applyOverrides env entries = .ok overridden)
    (constructed : construct lib file.path overridden = .ok config) :
    Described lib env entries config := by
  have validated : GatewayConfig.validate lib overridden = some config := by
    unfold construct at constructed
    split at constructed
    · split at constructed
      · rename_i read
        rw [read, Except.ok.inj constructed]
      · cases constructed
    · cases constructed
  have others : ∀ {α : Type} (read : YamlValue → Option α) default name, "telemetry" ≠ name →
      field read default overridden name = field read default entries name := by
    intro α read default name differ
    obtain ⟨_, _, applied⟩ := bind_eq_ok_iff.mp applied
    obtain ⟨_, _, applied⟩ := bind_eq_ok_iff.mp applied
    cases applied
    exact field_set_of_ne read default entries differ _
  obtain ⟨backends, readBackends, validated⟩ := Option.bind_eq_some_iff.mp validated
  obtain ⟨admission, readAdmission, validated⟩ := Option.bind_eq_some_iff.mp validated
  obtain ⟨routing, readRouting, validated⟩ := Option.bind_eq_some_iff.mp validated
  obtain ⟨affinity, readAffinity, validated⟩ := Option.bind_eq_some_iff.mp validated
  obtain ⟨health, readHealth, validated⟩ := Option.bind_eq_some_iff.mp validated
  obtain ⟨telemetry, readTelemetry, validated⟩ := Option.bind_eq_some_iff.mp validated
  cases validated
  exact {
    backends := by rw [← others _ _ _ (by decide), readBackends]
    admission := by rw [← others _ _ _ (by decide), readAdmission]
    routing := by rw [← others _ _ _ (by decide), readRouting]
    affinity := by rw [← others _ _ _ (by decide), readAffinity]
    health := by rw [← others _ _ _ (by decide), readHealth]
    telemetry := telemetry_of_overrides applied readTelemetry }

theorem parse_eq_ok_iff {path raw : String} :
    parse safeLoad path raw = .ok entries ↔
      ∃ data, safeLoad raw = .ok data ∧ data.orEmpty = .mapping entries := by
  unfold parse
  cases safeLoad raw with
  | error message => simp
  | ok data =>
      simp only [Except.ok.injEq, exists_eq_left']
      cases data.orEmpty <;> simp

theorem checkExists_eq_ok_iff : checkExists file = .ok () ↔ file.exists_ = .ok true := by
  unfold checkExists
  constructor
  · intro checked
    obtain ⟨found, asked, rest⟩ := bind_eq_ok_iff.mp checked
    cases found with
    | true => exact asked
    | false =>
        obtain ⟨_, _, thrown⟩ := bind_eq_ok_iff.mp rest
        cases thrown
  · intro found
    rw [found]
    rfl

theorem readText_eq_ok_iff {raw : String} : readText file = .ok raw ↔ file.readText = .ok raw := by
  unfold readText
  cases file.readText with
  | ok raw => simp
  | error refused => cases refused <;> simp

/-- The documents that are found are those that the file has. -/
theorem hasDocument_iff :
    HasDocument safeLoad file entries ↔
      checkExists file = .ok () ∧
        ∃ raw, readText file = .ok raw ∧ parse safeLoad file.path raw = .ok entries := by
  simp only [checkExists_eq_ok_iff, readText_eq_ok_iff, parse_eq_ok_iff]
  constructor
  · rintro ⟨found, raw, data, read, loaded, mapping⟩
    exact ⟨found, raw, read, data, loaded, mapping⟩
  · rintro ⟨found, raw, read, data, loaded, mapping⟩
    exact ⟨found, raw, data, read, loaded, mapping⟩

/-- **What is loaded** is what the document of the file describes, with the two fields replaced. -/
theorem described_of_loadConfig (loaded : loadConfig lib safeLoad file env = .ok config) :
    ∃ entries, HasDocument safeLoad file entries ∧ Described lib env entries config := by
  obtain ⟨_, checked, loaded⟩ := bind_eq_ok_iff.mp loaded
  obtain ⟨raw, read, loaded⟩ := bind_eq_ok_iff.mp loaded
  obtain ⟨entries, parsed, loaded⟩ := bind_eq_ok_iff.mp loaded
  obtain ⟨overridden, applied, constructed⟩ := bind_eq_ok_iff.mp loaded
  exact ⟨entries, hasDocument_iff.mpr ⟨checked, raw, read, parsed⟩,
    described_of_construct applied constructed⟩

/-- Two environments give configurations that differ in the two fields only. -/
theorem Described.eq_of_env {env' : Environment} {config' : GatewayConfig}
    (one : Described lib env entries config) (two : Described lib env' entries config') :
    config' = { config with telemetry := { config.telemetry with
      otlpEndpoint := config'.telemetry.otlpEndpoint
      logLevel := config'.telemetry.logLevel } } := by
  obtain ⟨written, here, -, path, -⟩ := one.telemetry
  obtain ⟨written', here', -, path', -⟩ := two.telemetry
  obtain rfl : written = written' := YamlValue.mapping.inj (here.symm.trans here')
  have backends := Option.some.inj (two.backends.symm.trans one.backends)
  have admission := Option.some.inj (two.admission.symm.trans one.admission)
  have routing := Option.some.inj (two.routing.symm.trans one.routing)
  have affinity := Option.some.inj (two.affinity.symm.trans one.affinity)
  have health := Option.some.inj (two.health.symm.trans one.health)
  have telemetry := Option.some.inj (path'.symm.trans path)
  rcases config' with ⟨_, _, _, _, _, ⟨_, _, _⟩⟩
  simp only at backends admission routing affinity health telemetry
  subst backends admission routing affinity health telemetry
  rfl

end Loaded

/-! ## What escapes -/

/-- A computation raises an error outside the contract. -/
def Escaping {α : Type} (x : Except LoadError α) : Prop := ∃ e, x = .error e ∧ ¬ e.InContract

theorem escaping_bind_iff {α β : Type} {x : Except LoadError α} {f : α → Except LoadError β} :
    Escaping (x >>= f) ↔ Escaping x ∨ ∃ a, x = .ok a ∧ Escaping (f a) := by
  simp only [Escaping, bind_eq_error_iff]
  constructor
  · rintro ⟨e, raised | ⟨a, returned, raised⟩, outside⟩
    · exact .inl ⟨e, raised, outside⟩
    · exact .inr ⟨a, returned, e, raised, outside⟩
  · rintro (⟨e, raised, outside⟩ | ⟨a, returned, e, raised, outside⟩)
    · exact ⟨e, .inl raised, outside⟩
    · exact ⟨e, .inr ⟨a, returned, raised⟩, outside⟩

theorem not_escaping_ok {α : Type} (a : α) : ¬ Escaping (.ok a) := by
  rintro ⟨_, raised, _⟩
  cases raised

theorem not_escaping_value {α : Type} (message : String) :
    ¬ Escaping (α := α) (.error (.valueError message)) := by
  rintro ⟨_, raised, outside⟩
  cases raised
  exact outside trivial

theorem escaping_type {α : Type} : Escaping (α := α) (.error .typeError) := ⟨_, rfl, id⟩

/-- Asking for the file fails with an error outside the contract. -/
def Refused (file : ConfigFile) : Prop :=
  Escaping file.exists_ ∨ file.exists_ = .ok false ∧ Escaping file.resolve

/-- A variable is set, and the telemetry section is there but is no mapping. -/
def Unwritable (env : Environment) (entries : Entries) : Prop :=
  (nonempty env.logLevel ≠ none ∨ nonempty env.otlpEndpoint ≠ none) ∧
    ∀ written, telemetryOf entries ≠ .mapping written

section Escape

variable {lib : ConfigLibrary} {safeLoad : String → Except String YamlValue} {file : ConfigFile}
  {env : Environment} {entries : Entries}

theorem escaping_checkExists_iff : Escaping (checkExists file) ↔ Refused file := by
  simp only [checkExists, escaping_bind_iff, Refused]
  refine or_congr_right ?_
  constructor
  · rintro ⟨found, asked, escapes⟩
    cases found with
    | true => exact absurd escapes (not_escaping_ok ())
    | false =>
        rcases escaping_bind_iff.mp escapes with refused | ⟨resolved, _, e, raised, outside⟩
        · exact ⟨asked, refused⟩
        · cases raised
          exact absurd trivial outside
  · rintro ⟨asked, refused⟩
    exact ⟨false, asked, escaping_bind_iff.mpr (.inl refused)⟩

theorem not_escaping_readText : ¬ Escaping (readText file) := by
  unfold readText
  cases file.readText with
  | ok raw => exact not_escaping_ok raw
  | error refused => cases refused <;> exact not_escaping_value _

theorem not_escaping_parse {path raw : String} : ¬ Escaping (parse safeLoad path raw) := by
  unfold parse
  split
  · exact not_escaping_value _
  · split
    · exact not_escaping_ok _
    · exact not_escaping_value _

theorem escaping_override_iff {envValue : Option String} {key : String} {telemetry : YamlValue} :
    Escaping (override envValue key telemetry) ↔
      nonempty envValue ≠ none ∧ ∀ written, telemetry ≠ .mapping written := by
  unfold override
  cases nonempty envValue with
  | none => exact iff_of_false (not_escaping_ok _) (fun set => set.1 rfl)
  | some text =>
      cases telemetry with
      | mapping written =>
          exact iff_of_false (not_escaping_ok _) (fun set => set.2 written rfl)
      | _ => exact iff_of_true escaping_type ⟨nofun, fun _ same => by cases same⟩

theorem not_inContract_of_override {envValue : Option String} {key : String}
    {telemetry : YamlValue} {e : LoadError} (raised : override envValue key telemetry = .error e) :
    ¬ e.InContract := by
  unfold override at raised
  split at raised
  · cases raised
  · split at raised
    · cases raised
    · cases raised
      exact id

/-- **Overrides.** Writing the variables fails exactly if one is set and the section is no
mapping. -/
theorem escaping_applyOverrides_iff :
    Escaping (applyOverrides env entries) ↔ Unwritable env entries := by
  simp only [applyOverrides, escaping_bind_iff, escaping_override_iff, Unwritable]
  constructor
  · rintro (⟨set, noMapping⟩ | ⟨middle, first, ⟨set, noMapping⟩ | ⟨_, _, escapes⟩⟩)
    · exact ⟨.inl set, noMapping⟩
    · refine ⟨.inr set, fun written here => ?_⟩
      rcases override_eq_ok_iff.mp first with ⟨_, rfl⟩ | ⟨_, _, _, _, rfl⟩
      · exact noMapping written here
      · exact noMapping _ rfl
    · exact absurd escapes (not_escaping_ok _)
  · rintro ⟨set, noMapping⟩
    by_cases level : nonempty env.logLevel = none
    · refine .inr ⟨_, override_eq_ok_iff.mpr (.inl ⟨level, rfl⟩), .inl ⟨?_, noMapping⟩⟩
      exact set.resolve_left fun other => other level
    · exact .inl ⟨level, noMapping⟩

/-- If the variables can be written, they are, and the other keys stay as they were. -/
theorem applyOverrides_of_writable (writable : ¬ Unwritable env entries) :
    ∃ overridden, applyOverrides env entries = .ok overridden ∧
      (TextKeys overridden ↔ TextKeys entries) := by
  cases applied : applyOverrides env entries with
  | error e =>
      have outside : ¬ e.InContract := by
        rcases bind_eq_error_iff.mp applied with raised | ⟨middle, _, rest⟩
        · exact not_inContract_of_override raised
        · rcases bind_eq_error_iff.mp rest with raised | ⟨last, _, returned⟩
          · exact not_inContract_of_override raised
          · cases returned
      exact absurd (escaping_applyOverrides_iff.mp ⟨e, applied, outside⟩) writable
  | ok overridden =>
      obtain ⟨_, _, applied⟩ := bind_eq_ok_iff.mp applied
      obtain ⟨last, _, applied⟩ := bind_eq_ok_iff.mp applied
      cases applied
      exact ⟨_, rfl, YamlValue.textKeys_set entries last "telemetry"⟩

theorem escaping_construct_iff {path : String} :
    Escaping (construct lib path entries) ↔ ¬ TextKeys entries := by
  unfold construct
  split
  · rename_i texts
    refine iff_of_false ?_ (not_not.mpr texts)
    split
    · exact not_escaping_ok _
    · exact not_escaping_value _
  · rename_i other
    exact iff_of_true escaping_type other

/-- Loading keeps its contract: it raises the errors that it promises only, and what it returns is
what the document describes with two fields replaced. All other fields are the same in every
environment. -/
structure KeepsContract (lib : ConfigLibrary) (safeLoad : String → Except String YamlValue)
    (file : ConfigFile) (env : Environment) : Prop where
  raises : ∀ e, loadConfig lib safeLoad file env = .error e → e.InContract
  returns : ∀ config, loadConfig lib safeLoad file env = .ok config →
    ∃ entries, HasDocument safeLoad file entries ∧ Described lib env entries config
  unaffected : ∀ config, loadConfig lib safeLoad file env = .ok config →
    ∀ env' config', loadConfig lib safeLoad file env' = .ok config' →
      config' = { config with telemetry := { config.telemetry with
        otlpEndpoint := config'.telemetry.otlpEndpoint, logLevel := config'.telemetry.logLevel } }

theorem HasDocument.unique {others : Entries} (one : HasDocument safeLoad file entries)
    (two : HasDocument safeLoad file others) : entries = others := by
  obtain ⟨raw, data, read, loaded, mapping⟩ := one.loaded
  obtain ⟨raw', data', read', loaded', mapping'⟩ := two.loaded
  obtain rfl := Except.ok.inj (read.symm.trans read')
  obtain rfl := Except.ok.inj (loaded.symm.trans loaded')
  exact YamlValue.mapping.inj (mapping.symm.trans mapping')

theorem escaping_loadConfig_iff :
    Escaping (loadConfig lib safeLoad file env) ↔
      Refused file ∨ ∃ entries, HasDocument safeLoad file entries ∧
        (Unwritable env entries ∨ ¬ TextKeys entries) := by
  -- Between the document and the construction only the telemetry member changes.
  have writes : ∀ entries, (Unwritable env entries ∨ ∃ overridden,
      applyOverrides env entries = .ok overridden ∧ ¬ TextKeys overridden) ↔
        Unwritable env entries ∨ ¬ TextKeys entries := by
    intro entries
    by_cases unwritable : Unwritable env entries
    · exact iff_of_true (.inl unwritable) (.inl unwritable)
    · obtain ⟨overridden, applied, keys⟩ := applyOverrides_of_writable unwritable
      simp only [unwritable, false_or, applied, Except.ok.injEq, exists_eq_left', keys]
  simp only [loadConfig, escaping_bind_iff, escaping_checkExists_iff, not_escaping_readText,
    not_escaping_parse, escaping_applyOverrides_iff, escaping_construct_iff, false_or, writes,
    hasDocument_iff]
  refine or_congr_right ?_
  constructor
  · rintro ⟨_, checked, raw, read, entries, parsed, escapes⟩
    exact ⟨entries, ⟨checked, raw, read, parsed⟩, escapes⟩
  · rintro ⟨entries, ⟨checked, raw, read, parsed⟩, escapes⟩
    exact ⟨(), checked, raw, read, entries, parsed, escapes⟩

/-- **The contract.** Loading keeps it exactly if asking for the file does not fail and, where the
file has a document, all of its keys are texts and its telemetry section can be written to if a
variable is set. -/
theorem load_contract_iff (lib : ConfigLibrary) (safeLoad : String → Except String YamlValue)
    (file : ConfigFile) (env : Environment) :
    KeepsContract lib safeLoad file env ↔
      ¬ Refused file ∧ ∀ entries, HasDocument safeLoad file entries →
        ¬ Unwritable env entries ∧ TextKeys entries := by
  have contract : KeepsContract lib safeLoad file env ↔
      ¬ Escaping (loadConfig lib safeLoad file env) := by
    constructor
    · rintro keeps ⟨e, raised, outside⟩
      exact outside (keeps.raises e raised)
    · intro never
      refine ⟨fun e raised => ?_, fun config loaded => described_of_loadConfig loaded, ?_⟩
      · by_contra outside
        exact never ⟨e, raised, outside⟩
      · intro config loaded env' config' loaded'
        obtain ⟨entries, document, one⟩ := described_of_loadConfig loaded
        obtain ⟨entries', document', two⟩ := described_of_loadConfig loaded'
        obtain rfl := document.unique document'
        exact one.eq_of_env two
  rw [contract, escaping_loadConfig_iff]
  simp only [not_or, not_exists, not_and, not_not]

end Escape

/-- A library that reads texts as they are, whole numbers, Booleans and the names of tiers. -/
def plainConfigLibrary : ConfigLibrary where
  toStr := YamlValue.text?
  toInt
    | .int n => some n
    | _ => none
  toBool
    | .bool b => some b
    | _ => none
  toTier value := value.text?.bind Tier.ofValue?
  explain _ := "1 validation error for GatewayConfig"
  toStr_str _ := rfl

/-- One backend, and a telemetry section that is empty. -/
def emptySection : YamlValue := .mapping [
  (.str "backends", .list [.mapping [
    (.str "id", .str "b1"), (.str "tier", .str "small"), (.str "base_url", .str "http://x"),
    (.str "gpu", .int 0), (.str "max_inflight", .int 1)]]),
  (.str "telemetry", .null)]

def emptySectionFile : ConfigFile where
  path := "config.yaml"
  exists_ := .ok true
  resolve := .ok "/app/config.yaml"
  readText := .ok
    ("backends:\n  - id: b1\n    tier: small\n    base_url: http://x\n    gpu: 0\n" ++
      "    max_inflight: 1\ntelemetry:\n")

/-- Null is no mapping, and the level is written into it. -/
theorem empty_section_escapes :
    ¬ KeepsContract plainConfigLibrary (fun _ => .ok emptySection) emptySectionFile
      { logLevel := some "debug" } := by
  intro keeps
  exact keeps.raises .typeError rfl

end AgentServe
