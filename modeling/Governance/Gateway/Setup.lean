import Governance.Audit.Journal
import Governance.Config.Basic
import Governance.Gateway.Basic
import Governance.Health

/-!
# Setting up a gateway

A configuration says where policies and audit entries are kept, unless they are given places. What can
be set up here are stores in memory and journals; a database has to be given.
-/

namespace Governance

/-- Why a gateway could not be set up. -/
inductive SetupError where
  | config (reason : String)
  | audit (error : AuditError)
  deriving DecidableEq, Repr

def SetupError.message : SetupError → String
  | .config reason => "invalid gateway configuration: " ++ reason
  | .audit error => error.message

/-- Where a gateway keeps its audit entries: where it is told to, in a journal, or nowhere. -/
inductive AuditPlace where
  | given
  | journal (path : String)
  | nowhere
  deriving DecidableEq, Repr

namespace GatewayConfig

abbrev SetupStep (α : Type) := ExceptT SetupError (StateM Ambient) α

/-- What is said about a database, which cannot be set up here. -/
def databaseMessage (setting : String) : String :=
  setting ++ ".database_url requires the `postgres` feature"

/-- Checks that policies can be kept in memory. -/
def choosePolicyStore (c : GatewayConfig) : SetupStep Unit :=
  match c.policy.databaseUrl with
  | some _ => throw (.config (databaseMessage "policy"))
  | none => ExceptT.lift (Ambient.emit .info "using in-memory policy store" [])

/-- Opens the journal at a path, which must not be empty. -/
def openJournal (path : String) : SetupStep AuditPlace :=
  if path.isEmpty then throw (.audit (.io missingFileMessage))
  else do
    ExceptT.lift (Ambient.emit .info "using journal audit store" [("path", .string path)])
    return .journal path

/-- Chooses where audit entries are kept. -/
def chooseAuditPlace (c : GatewayConfig) : SetupStep AuditPlace :=
  match c.audit.databaseUrl, c.audit.journalPath with
  | some _, _ => throw (.config (databaseMessage "audit"))
  | none, some path => openJournal path
  | none, none => do
    ExceptT.lift (Ambient.emit .info "no audit store configured; audit entries are discarded" [])
    return .nowhere

def auditConfig (c : GatewayConfig) : Except AuditError AuditConfig :=
  AuditConfig.make c.audit.queueCapacity c.audit.batchSize c.flushInterval

def collectorConfig (c : GatewayConfig) : CollectorConfig :=
  ⟨c.metrics.window, c.metrics.failureThreshold, .ofSeconds c.metrics.errorSeconds⟩

/-- The gate in front of the policies. A licence that is given counts, and otherwise the mode of
deployment tells whether there is one. -/
def gate (c : GatewayConfig) (licence : Option Bool) : Gate :=
  ⟨licence.getD (isEnterpriseMode c.deploymentMode), c.policy.communityLimit⟩

/-- Checks a configuration and chooses where things are kept. A store of policies and a place for audit
entries that are given are taken instead of the configured ones. -/
def plan (c : GatewayConfig) (givenStore givenAudit : Bool) (licence : Option Bool) :
    SetupStep (AuditPlace × AuditConfig) := do
  if let some setting := c.fault? then throw (.config (faultMessage setting))
  if !givenStore then c.choosePolicyStore
  let place ← if givenAudit then pure .given else c.chooseAuditPlace
  match c.auditConfig with
  | .error e => throw (.audit e)
  | .ok config =>
    ExceptT.lift (Ambient.emit .info "gateway context ready"
      [("deployment_mode", .string c.deploymentMode),
        ("enterprise", .bool (c.gate licence).enterprise)])
    return (place, config)

end GatewayConfig

namespace Gateway

variable {σ τ : Type}

def ofConfig (c : GatewayConfig) (audit : AuditConfig) (store : MemoryStore) (kept : σ) :
    StateM Ambient (Gateway σ) := do
  let started ← Ambient.now
  return make store (.ofConfig audit kept) c.collectorConfig c.server.maxConcurrent started

/-- Looks at the parts of a gateway. Looking at the audit entries takes time. -/
def health (b : Option (AuditBackend σ τ)) : Acting (Gateway σ) HealthReport := do
  let g ← get
  passTo b ⟨g.elapsed.nanos + (AuditLine.healthTime b g.line).nanos⟩
  let audit ← onLine (AuditLine.isHealthy b)
  let problem (healthy : Bool) (text : String) : Option String :=
    if healthy then none else some text
  return ⟨[⟨"audit", problem audit "audit store unreachable"⟩,
    ⟨"metrics", problem (← get).metrics.healthy "consecutive request failures over threshold"⟩]⟩

end Gateway

end Governance
