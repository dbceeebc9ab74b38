import Governance.Api.Call
import Governance.Api.Envelope
import Governance.Pipeline.Basic
import Governance.Pipeline.Scheduler
import Governance.Service.Basic

/-!
# Answers and failures over HTTP

How calls are answered, and what a caller learns of a failure.
-/

namespace Governance

/-!
## Failures of governed requests over HTTP

Whatever keeps a request from being governed is answered with a status and an envelope. A caller
learns that the request could not be served or took too long, and nothing of what happened inside;
that is reported.
-/

/-- The report of a failure inside. -/
def internalEvent (cause : String) : Event :=
  ⟨.error, "request failed", [("error", .string cause)]⟩

namespace PipelineError

def status : PipelineError → Nat
  | .collaborator _ => 502
  | .timeout .. => 504
  | .policy _ => 500
  | .lifecycle _ => 500

def envelope : PipelineError → Envelope
  | .collaborator _ => .plain "ROUTING_FAILED" "The request could not be served"
  | .timeout stage after =>
    .plain "TIMEOUT" (stage ++ " did not finish within " ++ toString after.toMillis ++ "ms")
  | .policy _ => .internal
  | .lifecycle _ => .internal

def events : PipelineError → List Event
  | .collaborator e =>
    [⟨.warn, "governed request failed downstream", [("error", .string e.message)]⟩]
  | .timeout .. => []
  | .policy e => [internalEvent e.message]
  | .lifecycle e => [internalEvent e.message]

end PipelineError

namespace SchedulerError

def status : SchedulerError → Nat
  | .closed => 503
  | .failed _ => 500

def envelope : SchedulerError → Envelope
  | .closed => .plain "SERVICE_UNAVAILABLE" "The gateway is shutting down"
  | .failed _ => .internal

def events : SchedulerError → List Event
  | .closed => []
  | .failed reason => [internalEvent (SchedulerError.failed reason).message]

end SchedulerError

/-!
## Answers over HTTP

How calls to the policies are answered, as programs over the calls of the service, so that they can be
answered by any store. Whatever fails is answered with an envelope, and what a store says of its
failures is reported and not answered.
-/

open Json

/-- A computation that ends in a response and cannot fail. -/
abbrev Answering := Program serviceInterface HttpResponse

def reportEvents : List Event → Program serviceInterface Unit
  | [] => pure ()
  | e :: rest => do
    Program.perform (I := serviceInterface) (.report e)
    reportEvents rest

def ServiceError.response (e : ServiceError) : HttpResponse := .failure e.status e.envelope

/-- The response to what the service returns. -/
def answering {α : Type} (p : ServiceProgram α) (response : α → HttpResponse) : Answering := do
  match ← p.run with
  | .ok a => return response a
  | .error e =>
    reportEvents e.events
    return e.response

def policyResponse (status : Nat) (p : Policy) : HttpResponse :=
  .json status (PolicyPayload.mk p).toJson

def PolicyCall.answer (gate : Gate) (caller : Caller) : PolicyCall → Answering
  | .list query => answering (Service.list caller.tenant query) fun page => .json 200 page.toJson
  | .create draft =>
    answering (Service.create gate caller.tenant draft caller.actor) (policyResponse 201)
  | .fetch id => answering (Service.fetch caller.tenant id) (policyResponse 200)
  | .update id patch =>
    answering (Service.update caller.tenant id patch caller.actor) (policyResponse 200)
  | .delete id => answering (Service.delete caller.tenant id caller.actor) fun _ => .bare 204
  | .tryOut id trial =>
    answering (Service.tryOut caller.tenant id trial) fun result => .json 200 result.toJson
  | .history id =>
    answering (Service.revisions caller.tenant id) fun revisions =>
      .json 200 (HistoryPayload.mk id revisions).toJson
  | .importAll request =>
    answering (Service.importAll gate caller.tenant request caller.actor) fun done =>
      .json 200 done.toJson
  | .exportAll =>
    answering (Service.exportAll caller.tenant) fun policies => .json 200 policies.toJson

def PipelineOutcome.response (o : PipelineOutcome) : HttpResponse :=
  .json (if o.isBlocked then 403 else 200) o.toJson

def PipelineError.response (e : PipelineError) : HttpResponse := .failure e.status e.envelope

/-- The response to a request that the scheduler did not run to its end. -/
def SchedulerError.response (e : SchedulerError) : HttpResponse := .failure e.status e.envelope

/-- The response when nobody collects the metrics in text form. -/
def noExposition : HttpResponse :=
  .failure 404 (.plain "NOT_FOUND" "Prometheus exporter is not installed")

end Governance
