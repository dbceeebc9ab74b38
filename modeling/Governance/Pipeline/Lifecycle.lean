import Governance.Ambient

/-!
# The life of a request

A request is received, its policies are evaluated, and then it is either blocked or routed. However it
goes on, it is audited before it is completed. A request whose evaluation failed is audited at once. A
blocked request is never routed, and nothing happens to a completed one.
-/

namespace Governance

/-- How far a request has come. -/
inductive RequestState where
  | received
  | policyEvaluated
  | blocked
  | routed
  | audited
  | completed
  deriving DecidableEq, Repr

/-- What happens to a request. -/
inductive RequestEvent where
  | evaluate
  | block
  | route
  | audit
  | complete
  deriving DecidableEq, Repr

namespace RequestState

def name : RequestState → String
  | .received => "Received"
  | .policyEvaluated => "PolicyEvaluated"
  | .blocked => "Blocked"
  | .routed => "Routed"
  | .audited => "Audited"
  | .completed => "Completed"

def word : RequestState → String
  | .received => "received"
  | .policyEvaluated => "policy_evaluated"
  | .blocked => "blocked"
  | .routed => "routed"
  | .audited => "audited"
  | .completed => "completed"

/-- Whether nothing more happens. -/
def isTerminal : RequestState → Bool
  | .completed => true
  | _ => false

/-- The state after an event, unless the event cannot happen. -/
def next? : RequestState → RequestEvent → Option RequestState
  | .received, .evaluate => some .policyEvaluated
  | .policyEvaluated, .block => some .blocked
  | .policyEvaluated, .route => some .routed
  | .received, .audit | .blocked, .audit | .routed, .audit => some .audited
  | .audited, .complete => some .completed
  | _, _ => none

end RequestState

def RequestEvent.name : RequestEvent → String
  | .evaluate => "Evaluate"
  | .block => "Block"
  | .route => "Route"
  | .audit => "Audit"
  | .complete => "Complete"

def RequestEvent.ofWord? : String → Option RequestEvent
  | "evaluate" => some .evaluate
  | "block" => some .block
  | "route" => some .route
  | "audit" => some .audit
  | "complete" => some .complete
  | _ => none

/-- An event that cannot happen in the state a request is in. -/
structure InvalidTransition where
  request : RequestId
  state : RequestState
  event : RequestEvent
  deriving DecidableEq, Repr

def InvalidTransition.message (e : InvalidTransition) : String :=
  "invalid request transition from " ++ e.state.name ++ " via " ++ e.event.name ++
    " for request " ++ e.request.text

/-- The event of going from one state to the next. -/
def transitionEvent (request : RequestId) (state next : RequestState) (event : RequestEvent) :
    Event :=
  ⟨.debug, "request transition", [("request_id", .string request.text),
    ("from", .string state.name), ("to", .string next.name), ("event", .string event.name)]⟩

end Governance
