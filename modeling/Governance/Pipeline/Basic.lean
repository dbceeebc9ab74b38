import Governance.Audit.Queue
import Governance.Decision.Basic
import Governance.Decision.Engine
import Governance.Metrics.Collector
import Governance.Pipeline.Lifecycle
import Governance.Pipeline.Provider

/-!
# Governing a request

A request is evaluated, then blocked or routed, and its response is redacted. However that ends, one
audit entry is offered to the queue and one sample is given to the metrics. Routing and redaction share
one deadline, and nothing is tried twice.

All of it is a program over the calls below. What answers them is open: the store, the queue, the
metrics, the clock and the collaborators.
-/

namespace Governance

/-- Something that the metrics are told. -/
inductive Measurement where
  | sample (s : Sample)
  | stage (name : String) (elapsed : Duration)
  | evaluation (elapsed : Duration) (risk : Float) (applied : List String) (blocked : Bool)
  | redaction (fields : Nat)
  deriving Repr

/-- What governing a request asks for: what the engine asks for, when it will be so much later, the
collaborators until a deadline, the time that has passed, identifiers, a place in the audit queue, and that
something be measured. -/
inductive GatewayCall where
  | service (c : ServiceCall)
  | deadline (allowed : Duration)
  | route (r : Request) (deadline : Duration)
  | redact (r : Request) (response : ProviderResponse) (deadline : Duration)
  | elapsed
  | requestId
  | auditId
  | offer (e : AuditEntry)
  | measure (m : Measurement)

/-- The type of an answer. A collaborator that is not ready at its deadline has none. -/
abbrev GatewayCall.Answer : GatewayCall → Type
  | .service c => c.Answer
  | .deadline _ => Duration
  | .route .. => Option (Except CollaboratorError ProviderResponse)
  | .redact .. => Option (Except CollaboratorError RedactedResponse)
  | .elapsed => Duration
  | .requestId => RequestId
  | .auditId => AuditId
  | .offer _ => OfferOutcome
  | .measure _ => Unit

/-- The surroundings of the pipeline as programs see them. -/
abbrev gatewayInterface : Interface := ⟨GatewayCall, GatewayCall.Answer⟩

/-- Why a request could not be governed. -/
inductive PipelineError where
  | policy (error : EvaluationError)
  | collaborator (error : CollaboratorError)
  | timeout (stage : String) (after : Duration)
  | lifecycle (error : InvalidTransition)
  deriving DecidableEq, Repr

def PipelineError.message : PipelineError → String
  | .policy error => error.message
  | .collaborator error => error.message
  | .timeout stage after => stage ++ " timed out after " ++ after.render
  | .lifecycle error => error.message

structure ServedResponse where
  request : RequestId
  content : String
  metadata : ProviderMetadata
  redacted : List String
  decision : Decision
  deriving BEq, Repr

structure BlockedResponse where
  request : RequestId
  reason : String
  applied : List String
  riskScore : Float
  deriving BEq, Repr

/-- What became of a request. -/
inductive PipelineOutcome where
  | served (response : ServedResponse)
  | blocked (response : BlockedResponse)
  deriving BEq, Repr

namespace PipelineOutcome

def request : PipelineOutcome → RequestId
  | .served response => response.request
  | .blocked response => response.request

def isBlocked : PipelineOutcome → Bool
  | .served _ => false
  | .blocked _ => true

def toJson : PipelineOutcome → Json
  | .served s => .object [("status", .string "served"), ("request_id", .string s.request.text),
      ("content", .string s.content), ("provider", s.metadata.toJson),
      ("redacted_fields", .ofStrings s.redacted), ("evaluation", s.decision.toJson)]
  | .blocked b => .object [("status", .string "blocked"), ("request_id", .string b.request.text),
      ("reason", .string b.reason), ("applied_policies", .ofStrings b.applied),
      ("risk_score", .ofFloat b.riskScore)]

end PipelineOutcome

/-- What decides on requests. -/
abbrev DecisionEngine := Request → Program gatewayInterface (Except EvaluationError Decision)

/-- A computation of the pipeline, which may fail. -/
abbrev GovernedProgram (α : Type) := ExceptT PipelineError (Program gatewayInterface) α

namespace GovernedProgram

def ask (c : GatewayCall) : GovernedProgram c.Answer :=
  ExceptT.lift (Program.perform (I := gatewayInterface) c)

def report (e : Event) : GovernedProgram Unit := ask (.service (.report e))

end GovernedProgram

/-- Decides by the policies of the store. -/
def DecisionEngine.ofStore : DecisionEngine := fun r =>
  (Engine.decideByStore r).translate fun c => Program.perform (I := gatewayInterface) (.service c)

/-- A request on its way. -/
structure Progress where
  id : RequestId
  state : RequestState
  deriving DecidableEq, Repr

/-- How requests are governed. -/
structure Pipeline where
  engine : DecisionEngine
  deadline : Duration

namespace Pipeline

open GovernedProgram

def policyStage : String := "policy_evaluation"

/-- The name of the stage in which a request is routed and its response redacted. -/
def routingStage : String := "routing"

/-- The name that a deadline has when it passes while a response is redacted. -/
def redactionStage : String := "redaction"

/-- The kind of a request that names none. -/
def defaultKind : String := "llm_chat"

/-- The deadline of a request unless it is configured. -/
def defaultDeadline : Duration := .ofSeconds 30

def kindOf (r : Request) : String := if r.kind.isEmpty then defaultKind else r.kind

/-- Goes on to the next state. -/
def advance (p : Progress) (event : RequestEvent) : GovernedProgram Progress :=
  match p.state.next? event with
  | some next => do
    report (transitionEvent p.id p.state next event)
    return { p with state := next }
  | none => throw (.lifecycle ⟨p.id, p.state, event⟩)

/-- What is recorded of a request at a time. -/
def recordOf (r : Request) (id : RequestId) (verdict : Verdict) (time : Instant) : AuditRecord :=
  { AuditRecord.bare id r.tenant verdict time with
    actor := ⟨r.user.id, r.user.email, r.user.role⟩
    client := r.client
    requestKind := kindOf r
    query := r.query }

/-- Makes the entry of a request, offers it to the audit queue and goes on. -/
def audit (p : Progress) (r : Request) (verdict : Verdict)
    (complete : AuditRecord → AuditRecord) : GovernedProgram Progress := do
  let time ← ask (.service .now)
  let record := complete (recordOf r p.id verdict time)
  let outcome ← ask (.offer (record.toEntry (← ask .auditId)))
  if outcome ≠ .enqueued then
    report ⟨.debug, "audit entry not queued",
      [("request_id", .string p.id.text), ("outcome", .string outcome.name)]⟩
  advance p .audit

/-- Measures the request as a whole and completes it. -/
def finish (p : Progress) (started : Duration) (sample : Duration → Sample) :
    GovernedProgram Unit := do
  let now ← ask .elapsed
  ask (.measure (.sample (sample ⟨now.nanos - started.nanos⟩)))
  let _ ← advance p .complete

def about (p : Progress) : List (String × Json) := [("request_id", .string p.id.text)]

/-- Ends a request that could not be governed. -/
def giveUp {α : Type} (p : Progress) (r : Request) (started : Duration) (e : PipelineError)
    (complete : AuditRecord → AuditRecord) : GovernedProgram α := do
  let p ← audit p r .error fun record =>
    complete { record with errorMessage := some e.message }
  finish p started fun latency => .ofRequest (kindOf r) latency .failure
  throw e

/-- Adds what an entry keeps of a decision. -/
def withDecision (d : Decision) (record : AuditRecord) : AuditRecord :=
  { record with details := some (.ofDecision d) }

/-- The reason for refusing a request. -/
def reasonOf (d : Decision) : String := d.blockReason.getD "blocked by policy"

def refuse (p : Progress) (r : Request) (started : Duration) (d : Decision) :
    GovernedProgram PipelineOutcome := do
  let p ← advance p .block
  let reason := reasonOf d
  let p ← audit p r .blocked fun record =>
    { withDecision d record with errorMessage := some reason }
  finish p started fun latency => .ofRequest (kindOf r) latency .blocked
  report ⟨.info, "request blocked by policy", about p ++ [("reason", .string reason)]⟩
  return .blocked ⟨p.id, reason, d.applied, d.riskScore⟩

/-- What was returned until a deadline, or the failure. -/
def inTime {α : Type} (stage : String) (allowed : Duration) :
    Option (Except CollaboratorError α) → Except PipelineError α
  | none => .error (.timeout stage allowed)
  | some (.error e) => .error (.collaborator e)
  | some (.ok a) => .ok a

/-- Routes a request and redacts the response, both until one deadline. When that will be is asked before
anything else, and where it cannot be told nobody is asked for anything any more. -/
def routeAndRedact (pipeline : Pipeline) (r : Request) :
    GovernedProgram (Except PipelineError (ProviderResponse × RedactedResponse)) := do
  let deadline ← ask (.deadline pipeline.deadline)
  match inTime routingStage pipeline.deadline (← ask (.route r deadline)) with
  | .error e => return .error e
  | .ok response =>
    match inTime redactionStage pipeline.deadline (← ask (.redact r response deadline)) with
    | .error e => return .error e
    | .ok redacted => return .ok (response, redacted)

/-- What an entry keeps of the answer of a provider. -/
def usageOf (m : ProviderMetadata) : Usage := ⟨m.provider, m.model, m.millis, m.tokens, m.cost⟩

/-- Returns a response that was redacted. -/
def deliver (p : Progress) (r : Request) (started : Duration) (d : Decision)
    (m : ProviderMetadata) (redacted : RedactedResponse) : GovernedProgram PipelineOutcome := do
  let verdict := if redacted.redacted.isEmpty then Verdict.allowed else .redacted
  let p ← audit p r verdict fun record =>
    { withDecision d record with
      usage := some (usageOf m)
      response := some redacted.content
      redacted := redacted.redacted }
  ask (.measure (.redaction redacted.redacted.length))
  finish p started fun latency =>
    { Sample.ofRequest (kindOf r) latency .success with
      provider := some m.provider, tokens := m.tokens, cost := m.cost }
  report ⟨.debug, "request served", about p ++ [("provider", .string m.provider),
    ("redacted", .ofNat redacted.redacted.length)]⟩
  return .served ⟨p.id, redacted.content, m, redacted.redacted, d⟩

/-- Routes a request that may pass. -/
def serve (pipeline : Pipeline) (p : Progress) (r : Request) (started : Duration)
    (d : Decision) : GovernedProgram PipelineOutcome := do
  let p ← advance p .route
  let begun ← ask .elapsed
  let routed ← pipeline.routeAndRedact r
  let done ← ask .elapsed
  ask (.measure (.stage routingStage ⟨done.nanos - begun.nanos⟩))
  match routed with
  | .error e =>
    report ⟨.warn, "request routing failed", about p ++ [("error", .string e.message)]⟩
    giveUp p r started e (withDecision d)
  | .ok (response, redacted) => deliver p r started d response.metadata redacted

def process (pipeline : Pipeline) (r : Request) : GovernedProgram PipelineOutcome := do
  let started ← ask .elapsed
  let p : Progress := ⟨← ask .requestId, .received⟩
  match ← ExceptT.lift (pipeline.engine r) with
  | .error e =>
    report ⟨.error, "policy evaluation failed", about p ++ [("error", .string e.message)]⟩
    giveUp p r started (.policy e) id
  | .ok d =>
    let now ← ask .elapsed
    let spent : Duration := ⟨now.nanos - started.nanos⟩
    ask (.measure (.stage policyStage spent))
    ask (.measure (.evaluation spent d.riskScore d.applied (!d.allowed)))
    let p ← advance p .evaluate
    if d.allowed then pipeline.serve p r started d else refuse p r started d

end Pipeline

end Governance
