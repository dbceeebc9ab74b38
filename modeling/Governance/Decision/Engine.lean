import Governance.Decision.Basic
import Governance.Pattern.Reader
import Governance.Policy.Matching
import Governance.Request.Basic
import Governance.Service.Gate
import Governance.Text.Lowercase

/-!
# Deciding on requests

Every request has a risk, whatever the policies say, and the policies that match it take their actions. The
engine puts a request before the policies of its tenant.
-/

namespace Governance.Risk

/-!
## The risk of a request

A request is risky for what it asks and for who asks. Each family of sensitive words that the query
touches weighs the same, an administrator adds half as much, and reading whole tables a third; the
sum is cut off at one.
-/

/-- Words of either case, one of which has to occur. -/
def sensitivePatterns : List String := [
  "(?i)(password|secret|key|token)",
  "(?i)(drop\\s+table|delete\\s+from|truncate)",
  "(?i)(union\\s+select|or\\s+1=1)"]

def patternWeight : Float := 0.9

def administratorWeight : Float := 0.5

/-- The weight of reading whole tables. -/
def selectAllWeight : Float := 0.3

/-- Whether a pattern that is given as text occurs in a query. -/
def touches (query source : String) : Bool :=
  match Pattern.ofText source with
  | .ok pattern => Pattern.occursIn pattern query
  | .error _ => false

/-- The families of sensitive words that a query touches. -/
def touched (query : String) : List String := sensitivePatterns.filter (touches query)

/-- Whether a query reads whole tables. -/
def readsWholeTables (query : String) : Bool := Text.occursFolded "select *" query

/-- The risk score of a request before any policy changes it. -/
def score (r : Request) : Float :=
  let words := (touched r.query).foldl (fun sum _ => sum + patternWeight) 0.0
  let asker := if r.user.role = "admin" then words + administratorWeight else words
  let total := if readsWholeTables r.query then asker + selectAllWeight else asker
  if total < 1.0 then total else 1.0

end Governance.Risk

namespace Governance

/-!
## Assessing a request

The enabled policies of a tenant are put in order, the highest priority first and equal priorities
by name, and each policy that matches takes its actions. Nothing that one policy does keeps another
one from being tested, and nothing takes a refusal back.
-/

open Json

/-- Whether a policy is assessed before another one or could be. -/
def Policy.precedes (a b : Policy) : Bool :=
  b.priority < a.priority || (a.priority = b.priority && a.name ≤ b.name)

/-- Policies in the order in which they are assessed. -/
def assessmentOrder (policies : List Policy) : List Policy := policies.mergeSort Policy.precedes

/-- The decision so far and the risk that the policies have made of it. -/
structure Assessment where
  decision : Decision
  risk : Float
  deriving Repr

/-- The reason that a blocking action gives: its own, or its message, or the name of the policy. -/
def blockReasonOf (policy : Policy) (a : Action) : String :=
  (a.text? "reason").getD ((a.text? "message").getD policy.name)

/-- The texts among the values of a list. -/
def textsAmong (items : List Json) : List String :=
  items.filterMap fun
    | .string s => some s
    | _ => none

/-- The fields that an action redacts, with commas between them. -/
def redactedFields (a : Action) : String :=
  match lookup "fields" a.config with
  | some (.array items) => ",".intercalate (textsAmong items)
  | some (.string field) => field
  | _ => ""

/-- The factor by which an action changes the risk. -/
def riskModifier? (a : Action) : Option Float :=
  match lookup "modifier" a.config with
  | some (.number n) => some n.toFloat
  | _ => none

/-- Takes an action of a policy that matched. -/
def Assessment.take (s : Assessment) (policy : Policy) (a : Action) : Assessment :=
  match a.kind? with
  | some .block => { s with decision := s.decision.block (blockReasonOf policy a) }
  | some .redact => { s with decision := s.decision.oblige ("redact: " ++ redactedFields a) }
  | some .modifyRisk => match riskModifier? a with
    | some modifier => { s with risk := s.risk * modifier }
    | none => s
  | some .route => match a.text? "provider" with
    | some provider => { s with decision := s.decision.oblige ("route: " ++ provider) }
    | none => s
  | _ => s

/-- Takes the actions of a policy if it matches the request. -/
def Assessment.consider (r : Request) (s : Assessment) (policy : Policy) : Assessment :=
  if policy.appliesTo r then
    policy.actions.foldl (fun s a => s.take policy a)
      { s with decision := s.decision.apply policy.name }
  else s

/-- Assesses a request against policies in their order. -/
def assess (policies : List Policy) (r : Request) : Assessment :=
  policies.foldl (Assessment.consider r) ⟨Decision.allow, Risk.score r⟩

/-- The decision on a request, given the enabled policies of its tenant in any order. -/
def Decision.ofPolicies (policies : List Policy) (r : Request) : Decision :=
  let s := assess (assessmentOrder policies) r
  s.decision.withRisk s.risk

/-! ### Events -/

/-- What an action reports. -/
def actionEvents (policy : Policy) (a : Action) : List Event :=
  let named := [("policy", Json.string policy.name), ("policy_id", .string policy.id.text)]
  match a.kind? with
  | some .alert => [⟨.warn, "policy alert triggered", named⟩]
  | some .log => [⟨.info, "policy log action triggered", named⟩]
  | none => [⟨.debug, "ignoring unknown action type", [("action", .string a.word)]⟩]
  | _ => []

/-- What testing a policy and taking its actions reports. -/
def policyEvents (r : Request) (policy : Policy) : List Event :=
  conditionEvents r 0 policy.conditions ++
    if policy.appliesTo r then
      ⟨.debug, "policy matched", [("policy", .string policy.name),
        ("priority", ofInt policy.priority.toInt)]⟩ ::
          policy.actions.flatMap (actionEvents policy)
    else []

/-- What assessing a request reports. -/
def decisionEvents (policies : List Policy) (r : Request) : List Event :=
  let d := Decision.ofPolicies policies r
  (assessmentOrder policies).flatMap (policyEvents r) ++
    [⟨.debug, "policy evaluation complete", [("tenant", .string r.tenant.text),
      ("allowed", .bool d.allowed), ("applied", ofNat d.applied.length),
      ("risk", ofFloat d.riskScore)]⟩]

end Governance

/-!
## The engine

Deciding on a request means loading the enabled policies of its tenant and assessing the request against
them. When they cannot be loaded there is no decision.
-/

namespace Governance

/-- Why there is no decision. -/
inductive EvaluationError where
  | storage (error : StoreError)
  | invalidRule (rule : String)
  | backend (reason : String)
  deriving DecidableEq, Repr

def EvaluationError.message : EvaluationError → String
  | .storage error => error.message
  | .invalidRule rule => "invalid policy rule: " ++ rule
  | .backend reason => "policy backend failure: " ++ reason

namespace Engine

def report : List Event → Program serviceInterface Unit
  | [] => .done ()
  | e :: rest => .call (.report e) fun _ => report rest

/-- Decides on a request by the enabled policies of its tenant. -/
def decideAmong (policies : List Policy) (r : Request) :
    Program serviceInterface (Except EvaluationError Decision) :=
  (report (decisionEvents policies r)).andThen fun _ =>
    .done (.ok (Decision.ofPolicies policies r))

/-- Decides on a request by the policies of its tenant in the store. -/
def decideByStore (r : Request) : Program serviceInterface (Except EvaluationError Decision) :=
  .call (.store (.enabledPolicies r.tenant)) fun
    | .error e => .done (.error (.storage e))
    | .ok policies => decideAmong policies r

end Engine

end Governance
