import Governance.Api.Answer
import Governance.Audit.Journal
import Governance.Audit.Memory
import Governance.Console.Scheduler
import Governance.Console.Service
import Governance.Gateway.Setup

/-!
# The console of the gateway

Requests to a pipeline whose collaborators follow a script, and to a gateway that is set up from a
configuration.
-/

namespace Governance.Console

variable {σ τ α : Type}

/-! ### Engines -/

/-- Decides by policies that never change. -/
def engineOf (policies : List Policy) : DecisionEngine := fun r =>
  (Engine.decideAmong (policies.filter fun p => p.tenant = r.tenant && p.enabled) r).translate
    fun c => Program.perform (I := gatewayInterface) (.service c)

/-- Always decides the same. -/
def engineOfVerdict (verdict : Except EvaluationError Decision) : DecisionEngine := fun _ =>
  .done verdict

def engineFailure (j : Json) : Session Unit EvaluationError :=
  let reason := text "reason" j
  match text "fail" j with
  | "database" => return .storage (.database reason)
  | "transaction" => return .storage (.transaction reason)
  | "corrupt" => return .storage (.corrupt reason)
  | "rule" => return .invalidRule reason
  | "backend" => return .backend reason
  | other => fail "UnknownKind" other

/-- The policies that drafts describe, kept in a store. -/
def createdPolicies (drafts : List PolicyDraft) : Session Unit (List Policy) :=
  inSession MemoryStore.empty do
    for draft in drafts do
      if let .error e ← acting (MemoryStore.create ⟨"acme"⟩ draft "system") then
        throw (storeFailure e)
    return (← get).contents.policies.values

def engineOfCommand (j : Json) : Session Unit DecisionEngine := do
  match text "kind" j with
  | "store" => return engineOf (← createdPolicies (← fieldOr "policies" [] j))
  | "remote" =>
    if (text? "fail" j).isSome then return engineOfVerdict (.error (← engineFailure j))
    return engineOfVerdict (.ok (← field "verdict" j))
  | other => fail "UnknownKind" other

/-! ### Collaborators -/

/-- What is known about an answer; what is missing is unknown. -/
def metadataOf (j : Json) : Session Unit ProviderMetadata := do
  return ⟨text "provider" j, text "model" j, ← fieldOr "response_time_ms" 0 j,
    ← fieldOr "tokens_used" 0 j, ← fieldOr "cost" 0.0 j⟩

def delayOf (j : Json) : Duration := .ofMillis (natOr "delay_ms" 0 j)

def routerOf (j : Json) : Session Unit (Request → Reaction ProviderResponse) := do
  if j == .null then return noProvider
  let response : ProviderResponse := ⟨text "content" j, ← metadataOf (member "metadata" j)⟩
  let result := match text? "fail" j with
    | some reason => .error (.routing reason)
    | none => .ok response
  return fun _ => ⟨delayOf j, some result⟩

def redactorOf (j : Json) : Session Unit (Request → ProviderResponse → Reaction RedactedResponse) := do
  if j == .null then return redactNothing
  let redacted : List String ← fieldOr "redacted_fields" [] j
  return fun _ response => ⟨delayOf j, some (match text? "fail" j with
    | some reason => .error (.redaction reason)
    | none => .ok ⟨textOr "content" response.content j, redacted⟩)⟩

/-! ### A pipeline -/

def onGateway (act : Acting (Gateway σ) α) : Session (Gateway σ) α := acting act

/-- Governs a request. A breakdown ends the session. -/
def governed (b : Option (AuditBackend σ τ)) (c : Collaborators) (pipeline : Pipeline)
    (r : Request) : Session (Gateway σ) (Except Failure PipelineOutcome) := do
  match ← onGateway (Gateway.govern b c pipeline r).run with
  | .ok (.ok outcome) => return .ok outcome
  | .ok (.error e) =>
    report e.events
    return .error (pipelineFailure e)
  | .error _ => failBare "Panic"

/-- Starts the audit worker, asks it to stop, and waits until it has. -/
def drain (b : Option (AuditBackend σ τ)) : Acting (Gateway σ) Unit := do
  let now := (← get).elapsed
  Gateway.onLine (AuditLine.act (BatchWriter.write b) (.start now))
  Gateway.shutdown b
  Gateway.settle b

def scripted (j : Json) : Session Unit (Request × Collaborators) := do
  let r : Request ← field "request" j
  return (r, ⟨← routerOf (member "route" j), ← redactorOf (member "process" j)⟩)

/-- The answers to requests, and which outcome each had. -/
def pipelineAnswers (b : Option (AuditBackend σ τ)) (pipeline : Pipeline) :
    List (Request × Collaborators) → Session (Gateway σ) (List (Failure × Option RequestId))
  | [] => return []
  | (r, c) :: rest => do
    let outcome ← governed b c pipeline r
    let g ← get
    let calls := ("calls", Json.array [g.routed, g.redacted])
    let answer := match outcome with
      | .ok outcome => ([calls, ("ok", outcome.toJson)], some outcome.request)
      | .error e => (calls :: e, none)
    return answer :: (← pipelineAnswers b pipeline rest)

/-- An answer with the place of its audit entry. -/
def located (entries : List AuditEntry) (answer : Failure × Option RequestId) : Json :=
  match answer with
  | (members, none) => obj members
  | (members, some id) =>
    let place := match entries.findIdx? fun e => e.request = id with
      | some n => .ofNat n
      | none => .null
    obj (("audited_as", place) :: members)

def pipelineSession (j : Json) : Session Unit Json := do
  let b := some MemoryAudit.backend
  let engine ← engineOfCommand (member "engine" j)
  let config ← orFail (AuditConfig.make (natOr "queue_capacity" 100 j) 10 (.ofSeconds 5))
  let deadline := match nat? "deadline_ms" j with
    | some n => Duration.ofMillis n
    | none => Pipeline.defaultDeadline
  let requests ← (items "requests" j).mapM scripted
  let started ← ambient Ambient.now
  let start := Gateway.make .empty (.ofConfig config MemoryAudit.empty) .standard
    Scheduler.defaultLimit started
  inSession start do
    let answers ← pipelineAnswers b ⟨engine, deadline⟩ requests
    let metrics := (← get).metrics.snapshot (← onGateway Gateway.uptime)
    onGateway (drain b)
    let line := (← get).line
    let entries := line.store.committed
    return obj [("deadline_ms", deadline.toMillis),
      ("outcomes", .array (answers.map (located entries))), ("entries", entries),
      ("enqueued", line.queue.enqueued), ("dropped", line.queue.dropped),
      ("metrics", metrics)]

/-! ### A gateway from a configuration -/

def setupFailure : SetupError → Failure
  | .config reason => failure "Config" (SetupError.config reason).message
  | .audit e => auditFailure e

def outcomeWord (o : PipelineOutcome) : String := if o.isBlocked then "blocked" else "served"

def outcomeWords (b : Option (AuditBackend σ τ)) (pipeline : Pipeline) :
    List Request → Session (Gateway σ) (List Json)
  | [] => return []
  | r :: rest => do
    let answer := match ← governed b ⟨noProvider, redactNothing⟩ pipeline r with
      | .ok outcome => (outcomeWord outcome : Json)
      | .error e => obj e
    return answer :: (← outcomeWords b pipeline rest)

/-- What can be seen of a gateway that governs requests and is shut down. -/
def gatewayView (b : Option (AuditBackend σ τ)) (c : GatewayConfig) (gate : Gate)
    (pipeline : Pipeline) (requests : List Request) :
    Session (Gateway σ) (List (String × Json)) := do
  let outcomes ← outcomeWords b pipeline requests
  let before := (← get).scheduler
  let health ← onGateway (Gateway.health b)
  let healthy := (← get).metrics.healthy
  onGateway (drain b)
  let after := (← get).scheduler
  return [("enterprise", gate.enterprise), ("community_limit", gate.limit),
    ("deadline_ms", pipeline.deadline.toMillis), ("max_concurrency", before.limit),
    ("available", before.available), ("closed", .array [before.closed, after.closed]),
    ("mode", c.deploymentMode), ("healthy", healthy), ("health", health.toJson),
    ("outcomes", .array outcomes)]

/-- A session with a gateway whose audit entries are kept somewhere. -/
def keptSession (b : Option (AuditBackend σ τ)) (c : GatewayConfig) (audit : AuditConfig)
    (kept : σ) (gate : Gate) (engine : DecisionEngine) (requests : List Request) :
    Session Unit (List (String × Json) × σ × Nat) := do
  let start ← ambient (Gateway.ofConfig c audit .empty kept)
  inSession start do
    let view ← gatewayView b c gate ⟨engine, c.requestTimeout⟩ requests
    let found ← onGateway (Gateway.onLine (AuditLine.search b .all))
    let count := match found with
      | .ok entries => entries.length
      | .error _ => 0
    return (view, (← get).line.store, count)

def gatewaySession (j : Json) : Session Unit Json := do
  let c : GatewayConfig ← fieldOr "config" .standard j
  let journal := flag "journal" j
  let c := if journal then { c with audit.journalPath := some "journal" } else c
  let requests : List Request ← fieldOr "requests" [] j
  let engine ← match member "engine" j with
    | .null => pure DecisionEngine.ofStore
    | engine => engineOfCommand engine
  let licence := (text? "license" j).map (· == "enterprise")
  let givenAudit := flag "memory_audit" j
  match ← ambient (c.plan false givenAudit licence).run with
  | .error e => throw (setupFailure e)
  | .ok (place, audit) =>
    let gate := c.gate licence
    let counts (inMemory found : Nat) : List (String × Json) :=
      [("memory_entries", inMemory), ("journal_entries", if journal then found else .null)]
    match place with
    | .given =>
      let kept := { MemoryAudit.empty with failsPing := flag "fail_ping" j }
      let (view, kept, found) ← keptSession (some MemoryAudit.backend) c audit kept gate engine
        requests
      return obj (view ++ counts kept.committed.length found)
    | .journal path =>
      let (view, _, found) ← keptSession (some Journal.backend) c audit
        (.openAt (.absent path)) gate engine requests
      return obj (view ++ counts 0 found)
    | .nowhere =>
      let (view, _, found) ← keptSession (none : Option (AuditBackend Unit Unit)) c audit () gate
        engine requests
      return obj (view ++ counts 0 found)

end Governance.Console
