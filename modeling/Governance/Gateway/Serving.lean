import Governance.Api.Answer
import Governance.Gateway.Setup

/-!
# Serving requests

A gateway answers requests over HTTP one after the other. Calls to the policies and questions about the
gateway itself are answered at once. A query to be governed is a task of the scheduler; the audit
worker, which runs beside the tasks, gets its turn before and after it.
-/

namespace Governance

/-- What a gateway serves requests with: whatever holds the audit entries, the collaborators, the
pipeline, the gate, and the metrics in text form if somebody collects them. -/
structure Serving (σ τ : Type) where
  backend : Option (AuditBackend σ τ)
  collaborators : Collaborators
  pipeline : Pipeline
  gate : Gate
  exposition : Option String

namespace Serving

variable {σ τ : Type}

/-- Gives the audit worker a turn; it starts in its first one. -/
def turnOfWorker (s : Serving σ τ) : Acting (Gateway σ) Unit := do
  let now := (← get).elapsed
  Gateway.onLine (AuditLine.act (BatchWriter.write s.backend) (.start now))
  Gateway.settle s.backend

def schedule (action : SchedulerAction) : Acting (Gateway σ) Unit :=
  modify fun g => { g with scheduler := g.scheduler.act action }

/-- What is known of a task that broke down. -/
def brokenDown : SchedulerError := .failed "task panicked"

/-- Governs a request as a task, which gives its permit back however it ends. -/
def runTask (s : Serving σ τ) (task : Nat) (r : Request) : Acting (Gateway σ) HttpResponse := do
  schedule (.grant task)
  let outcome ← (Gateway.govern s.backend s.collaborators s.pipeline r).run
  schedule (.complete task)
  s.turnOfWorker
  match outcome with
  | .ok (.ok outcome) => return outcome.response
  | .ok (.error e) =>
    StateT.lift (Ambient.emitAll e.events)
    return e.response
  | .error _ =>
    StateT.lift (Ambient.emitAll brokenDown.events)
    return brokenDown.response

/-- Governs a request unless the scheduler is closed. -/
def govern (s : Serving σ τ) (r : Request) : Acting (Gateway σ) HttpResponse := do
  let scheduler := (← get).scheduler
  if scheduler.closed then return SchedulerError.closed.response
  schedule .spawn
  s.turnOfWorker
  s.runTask scheduler.tasks.length r

/-- Looks at the parts of the gateway. -/
def health (s : Serving σ τ) : Acting (Gateway σ) HttpResponse := do
  let report ← Gateway.health s.backend
  return .json (if report.healthy then 200 else 503) report.toJson

def metrics : Acting (Gateway σ) HttpResponse := do
  let uptime ← Gateway.uptime
  return .json 200 ((← get).metrics.snapshot uptime)

def answer (s : Serving σ τ) : ApiCall → Acting (Gateway σ) HttpResponse
  | .policies caller call =>
    Gateway.onStore (Program.run Service.answer (call.answer s.gate caller))
  | .govern caller query => s.govern (query.toRequest caller.tenant caller.actor)
  | .health => s.health
  | .metrics => metrics
  | .exposition => return match s.exposition with
    | some text => ⟨200, .text text⟩
    | none => noExposition

def serve (s : Serving σ τ) (r : HttpRequest) : Acting (Gateway σ) HttpResponse := do
  let response ← match ApiCall.ofRequest r with
    | .ok call => s.answer call
    | .error response => pure response
  return if r.method = .head then response.headOnly else response

end Serving

end Governance
