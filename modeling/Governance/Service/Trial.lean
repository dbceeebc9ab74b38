import Governance.Policy.Matching
import Governance.Request.Codec

/-!
# Trials

A trial puts a made-up request before one policy and tells what would happen. Nothing is changed.
-/

namespace Governance

open Json

/-- A made-up request. -/
structure TrialRequest where
  query : String
  kind : Option String
  user : Option User
  client : Option String
  context : List (String × Json)
  deriving BEq, Repr

/-- The request that a tenant would have sent. -/
def TrialRequest.toRequest (t : TrialRequest) (tenant : TenantId) : Request :=
  ⟨tenant, t.query, t.kind.getD "", t.user.getD User.unknown, t.client, t.context⟩

/-- What a policy would do. -/
structure TrialResult where
  matched : Bool
  blocked : Bool
  actions : List Action
  explanation : String
  millis : Float
  blockMessage : Option String
  deriving BEq, Repr

/-- What a policy did or did not do, in words. -/
def trialExplanation (p : Policy) (matched : Bool) : String :=
  if matched then
    "Policy '" ++ p.name ++ "' matched: all " ++ toString p.conditions.length ++
      " conditions evaluated to true"
  else
    "Policy '" ++ p.name ++ "' did not match: one or more conditions evaluated to false"

/-- Puts a request before a policy. -/
def Policy.tryOn (p : Policy) (r : Request) : TrialResult :=
  let actions := p.actionsFor r
  let matched := p.appliesTo r
  ⟨matched, blocks actions, actions, trialExplanation p matched, 0.0, blockMessage? actions⟩

def TrialRequest.toJson (t : TrialRequest) : Json := ofEntries [
  entry "query" (.string t.query),
  entryIfSome "request_type" t.kind .string,
  entryIfSome "user" t.user User.toJson,
  entryIfSome "client_id" t.client .string,
  entryUnless t.context.isEmpty "context" (.object t.context)]

def TrialRequest.fieldNames : List String :=
  ["query", "request_type", "user", "client_id", "context"]

/-- A made-up request; everything may be left out. -/
def TrialRequest.ofJson : Decoder TrialRequest := fun j => do
  let f ← asFields TrialRequest.fieldNames j
  return {
    query := ← f.orElse "query" "" asString
    kind := ← f.optional "request_type" asString
    user := ← f.optional "user" User.ofJson
    client := ← f.optional "client_id" asString
    context := ← f.orElse "context" [] asMembers }

def TrialResult.toJson (t : TrialResult) : Json := ofEntries [
  entry "matched" (.bool t.matched),
  entry "blocked" (.bool t.blocked),
  entry "actions" (ofList t.actions Action.toJson),
  entry "explanation" (.string t.explanation),
  entry "eval_time_ms" (ofFloat t.millis),
  entryIfSome "block_message" t.blockMessage .string]

def TrialResult.ofJson : Decoder TrialResult := fun j => do
  let f ← asFields
    ["matched", "blocked", "actions", "explanation", "eval_time_ms", "block_message"] j
  return {
    matched := ← f.required "matched" asBool
    blocked := ← f.required "blocked" asBool
    actions := ← f.required "actions" (asList Action.ofJson)
    explanation := ← f.required "explanation" asString
    millis := ← f.required "eval_time_ms" asFloat
    blockMessage := ← f.optional "block_message" asString }

/-! ### Coded types -/

instance : Coded TrialRequest := ⟨TrialRequest.toJson, TrialRequest.ofJson⟩

instance : Coded TrialResult := ⟨TrialResult.toJson, TrialResult.ofJson⟩

end Governance
