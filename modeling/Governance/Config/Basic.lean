import Governance.Config.Address
import Governance.Json.Coded
import Governance.Time.Instant

/-!
# Configuration

Everything about a gateway that can be set. Every setting has a usual value, so that a configuration
says only what is different. Some numbers may not be nought.
-/

namespace Governance

open Json

/-- How auditing is set up: the queue, the batches, and where entries are kept. -/
structure AuditSettings where
  queueCapacity : Nat
  batchSize : Nat
  flushSeconds : Nat
  journalPath : Option String
  databaseUrl : Option String
  deriving DecidableEq, Repr

structure MetricsSettings where
  window : Nat
  failureThreshold : UInt32
  errorSeconds : Nat
  deriving DecidableEq, Repr

/-- How many policies a tenant may have, and where they are kept. -/
structure PolicySettings where
  communityLimit : Nat
  databaseUrl : Option String
  deriving DecidableEq, Repr

/-- Where requests come in, and how many at once for how long. -/
structure ServerSettings where
  bind : SocketAddress
  timeoutSeconds : Nat
  maxConcurrent : Nat
  deriving DecidableEq, Repr

structure LoggingSettings where
  level : String
  format : String
  deriving DecidableEq, Repr

structure GatewayConfig where
  deploymentMode : String
  audit : AuditSettings
  metrics : MetricsSettings
  policy : PolicySettings
  server : ServerSettings
  logging : LoggingSettings
  deriving DecidableEq, Repr

/-- The usual values. -/
def GatewayConfig.standard : GatewayConfig where
  deploymentMode := "community"
  audit := ⟨10000, 100, 5, none, none⟩
  metrics := ⟨1000, 5, 60⟩
  policy := ⟨30, none⟩
  server := ⟨.standard, 30, 256⟩
  logging := ⟨"info", "plain"⟩

namespace GatewayConfig

/-! ### Which values are usable -/

/-- The settings that may not be nought, by their names. -/
def positives (c : GatewayConfig) : List (String × Nat) := [
  ("audit.queue_capacity", c.audit.queueCapacity), ("audit.batch_size", c.audit.batchSize),
  ("audit.flush_interval_secs", c.audit.flushSeconds), ("metrics.window", c.metrics.window),
  ("server.request_timeout_secs", c.server.timeoutSeconds),
  ("server.max_concurrent_requests", c.server.maxConcurrent)]

/-- The name of the first setting that is nought and may not be. -/
def fault? (c : GatewayConfig) : Option String :=
  (c.positives.find? fun setting => setting.2 = 0).map (·.1)

/-- What is said about a setting that may not be nought. -/
def faultMessage (setting : String) : String :=
  "invalid config value for `" ++ setting ++ "`: must be positive"

/-- A configuration is usable when no setting is nought that may not be. -/
theorem fault?_eq_none_iff (c : GatewayConfig) :
    c.fault? = none ↔ ∀ setting ∈ c.positives, setting.2 ≠ 0 := by
  simp [fault?]

/-- How often the audit worker writes. -/
def flushInterval (c : GatewayConfig) : Duration := .ofSeconds c.audit.flushSeconds

/-- The deadline of a request. -/
def requestTimeout (c : GatewayConfig) : Duration := .ofSeconds c.server.timeoutSeconds

/-! ### In JSON -/

def toJson (c : GatewayConfig) : Json := .object [
  ("license", .object [("deployment_mode", .string c.deploymentMode)]),
  ("audit", .object [("queue_capacity", ofNat c.audit.queueCapacity),
    ("batch_size", ofNat c.audit.batchSize),
    ("flush_interval_secs", ofNat c.audit.flushSeconds),
    ("journal_path", ofOption c.audit.journalPath .string),
    ("database_url", ofOption c.audit.databaseUrl .string)]),
  ("metrics", .object [("window", ofNat c.metrics.window),
    ("failure_threshold", ofNat c.metrics.failureThreshold.toNat),
    ("error_window_secs", ofNat c.metrics.errorSeconds)]),
  ("policy", .object [("community_limit", ofNat c.policy.communityLimit),
    ("database_url", ofOption c.policy.databaseUrl .string)]),
  ("server", .object [("bind", .string c.server.bind.render),
    ("request_timeout_secs", ofNat c.server.timeoutSeconds),
    ("max_concurrent_requests", ofNat c.server.maxConcurrent)]),
  ("logging", .object [("level", .string c.logging.level),
    ("format", .string c.logging.format)])]

def asAddress : Decoder SocketAddress
  | .string s => match SocketAddress.parse? s with
    | some a => .ok a
    | none => refuse .malformed
  | _ => refuse .wrongKind

def auditFields : List String :=
  ["queue_capacity", "batch_size", "flush_interval_secs", "journal_path", "database_url"]

/-- How auditing is set up. What is said first about a wrong setting goes by the names. -/
def auditOfJson : Decoder AuditSettings := fun j => do
  let usual := standard.audit
  let f ← asFields auditFields j
  let batchSize ← f.orElse "batch_size" usual.batchSize Coded.asCount
  let databaseUrl ← f.optional "database_url" asString
  let flushSeconds ← f.orElse "flush_interval_secs" usual.flushSeconds Coded.asCount
  let journalPath ← f.optional "journal_path" asString
  let queueCapacity ← f.orElse "queue_capacity" usual.queueCapacity Coded.asCount
  return ⟨queueCapacity, batchSize, flushSeconds, journalPath, databaseUrl⟩

def metricsFields : List String := ["window", "failure_threshold", "error_window_secs"]

def metricsOfJson : Decoder MetricsSettings := fun j => do
  let usual := standard.metrics
  let f ← asFields metricsFields j
  let errorSeconds ← f.orElse "error_window_secs" usual.errorSeconds Coded.asCount
  let failureThreshold ← f.orElse "failure_threshold" usual.failureThreshold asUInt32
  let window ← f.orElse "window" usual.window Coded.asCount
  return ⟨window, failureThreshold, errorSeconds⟩

def policyFields : List String := ["community_limit", "database_url"]

def policyOfJson : Decoder PolicySettings := fun j => do
  let usual := standard.policy
  let f ← asFields policyFields j
  let communityLimit ← f.orElse "community_limit" usual.communityLimit Coded.asCount
  let databaseUrl ← f.optional "database_url" asString
  return ⟨communityLimit, databaseUrl⟩

def serverFields : List String := ["bind", "request_timeout_secs", "max_concurrent_requests"]

def serverOfJson : Decoder ServerSettings := fun j => do
  let usual := standard.server
  let f ← asFields serverFields j
  let bind ← f.orElse "bind" usual.bind asAddress
  let maxConcurrent ← f.orElse "max_concurrent_requests" usual.maxConcurrent Coded.asCount
  let timeoutSeconds ← f.orElse "request_timeout_secs" usual.timeoutSeconds Coded.asCount
  return ⟨bind, timeoutSeconds, maxConcurrent⟩

def loggingFields : List String := ["level", "format"]

def loggingOfJson : Decoder LoggingSettings := fun j => do
  let usual := standard.logging
  let f ← asFields loggingFields j
  let format ← f.orElse "format" usual.format asString
  let level ← f.orElse "level" usual.level asString
  return ⟨level, format⟩

def licenseFields : List String := ["deployment_mode"]

def licenseOfJson : Decoder String := fun j => do
  let f ← asFields licenseFields j
  f.orElse "deployment_mode" standard.deploymentMode asString

/-- A configuration; what it does not say has its usual value. -/
def ofJson : Decoder GatewayConfig := fun j => do
  let usual := standard
  let f ← asFields ["license", "audit", "metrics", "policy", "server", "logging"] j
  let audit ← f.orElse "audit" usual.audit auditOfJson
  let mode ← f.orElse "license" usual.deploymentMode licenseOfJson
  let logging ← f.orElse "logging" usual.logging loggingOfJson
  let metrics ← f.orElse "metrics" usual.metrics metricsOfJson
  let policy ← f.orElse "policy" usual.policy policyOfJson
  let server ← f.orElse "server" usual.server serverOfJson
  return ⟨mode, audit, metrics, policy, server, logging⟩

end GatewayConfig

/-! ### Log formats -/

inductive LogFormat where
  | plain
  | json
  deriving DecidableEq, Repr

namespace LogFormat

def word : LogFormat → String
  | .plain => "plain"
  | .json => "json"

def ofWord? : String → Option LogFormat
  | "plain" => some .plain
  | "json" => some .json
  | _ => none

/-- The format that a name stands for; case does not matter, and there are names for the plain format
besides its word. -/
def ofName (name : String) : Except String LogFormat :=
  match name.toLower with
  | "plain" | "text" | "pretty" => .ok .plain
  | "json" => .ok .json
  | other => .error ("unknown log format: " ++ other)

end LogFormat

/-! ### Coded types -/

instance : Coded GatewayConfig := ⟨GatewayConfig.toJson, GatewayConfig.ofJson⟩

instance : Coded LogFormat := ⟨fun f => .string f.word, asWord LogFormat.ofWord?⟩

end Governance
