import Governance.Audit.Entry
import Governance.Policy.Codec

/-!
# Audit entries in JSON

The written form of entries and their parts, and the readers of these forms.
-/

namespace Governance

open Json

def Verdict.toJson (v : Verdict) : Json := .string v.word

def Verdict.ofJson : Decoder Verdict := asWord Verdict.ofWord?

def ComplianceFlag.toJson (f : ComplianceFlag) : Json := .string f.word

def ComplianceFlag.ofJson : Decoder ComplianceFlag := asWord ComplianceFlag.ofWord?

def Complexity.toJson (c : Complexity) : Json := .string c.word

def Complexity.ofJson : Decoder Complexity := asWord Complexity.ofWord?

def PolicyDetails.toJson (d : PolicyDetails) : Json := ofEntries [
  entry "applied_policies" (ofStrings d.applied),
  entry "risk_score" (ofFloat d.riskScore),
  entryUnless d.obligations.isEmpty "required_actions" (ofStrings d.obligations),
  entry "processing_time_ms" (ofNat d.millis.toNat)]

def PolicyDetails.fieldNames : List String :=
  ["applied_policies", "risk_score", "required_actions", "processing_time_ms"]

def PolicyDetails.ofJson : Decoder PolicyDetails := fun j => do
  let f ← asFields PolicyDetails.fieldNames j
  return {
    applied := ← f.orElse "applied_policies" [] (asList asString)
    riskScore := ← f.required "risk_score" asFloat
    obligations := ← f.orElse "required_actions" [] (asList asString)
    millis := ← f.required "processing_time_ms" asUInt64 }

def SecurityMetrics.toJson (m : SecurityMetrics) : Json := ofEntries [
  entry "risk_score" (ofFloat m.riskScore),
  entry "policies_applied" (ofNat m.policiesApplied),
  entry "query_complexity" m.complexity.toJson,
  entry "sensitive_access" (.bool m.sensitive)]

def SecurityMetrics.fieldNames : List String :=
  ["risk_score", "policies_applied", "query_complexity", "sensitive_access"]

def SecurityMetrics.ofJson : Decoder SecurityMetrics := fun j => do
  let f ← asFields SecurityMetrics.fieldNames j
  return {
    riskScore := ← f.required "risk_score" asFloat
    policiesApplied := ← f.required "policies_applied" Coded.asCount
    complexity := ← f.required "query_complexity" Complexity.ofJson
    sensitive := ← f.required "sensitive_access" asBool }

def AuditActor.toJson (a : AuditActor) : Json := ofEntries [
  entry "user_id" (.string a.user),
  entry "email" (.string a.email),
  entry "role" (.string a.role)]

def AuditActor.fieldNames : List String :=
  ["user_id", "email", "role"]

def AuditActor.ofJson : Decoder AuditActor := fun j => do
  let f ← asFields AuditActor.fieldNames j
  return {
    user := ← f.required "user_id" asString
    email := ← f.required "email" asString
    role := ← f.required "role" asString }

def Usage.toJson (u : Usage) : Json := ofEntries [
  entry "provider" (.string u.provider),
  entry "model" (.string u.model),
  entry "response_time_ms" (ofNat u.millis.toNat),
  entry "tokens_used" (ofNat u.tokens.toNat),
  entry "cost" (ofFloat u.cost)]

def Usage.fieldNames : List String :=
  ["provider", "model", "response_time_ms", "tokens_used", "cost"]

def Usage.ofJson : Decoder Usage := fun j => do
  let f ← asFields Usage.fieldNames j
  return {
    provider := ← f.required "provider" asString
    model := ← f.required "model" asString
    millis := ← f.required "response_time_ms" asUInt64
    tokens := ← f.required "tokens_used" asUInt64
    cost := ← f.required "cost" asFloat }

def AuditEntry.toJson (e : AuditEntry) : Json := ofEntries [
  entry "id" e.id.toJson,
  entry "request_id" e.request.toJson,
  entry "timestamp" (ofInstant e.timestamp),
  entry "actor" e.actor.toJson,
  entryIfSome "client_id" e.client .string,
  entry "tenant_id" e.tenant.toJson,
  entry "request_type" (.string e.requestKind),
  entry "query_hash" (.string e.queryHash),
  entry "decision" e.verdict.toJson,
  entryIfSome "policy_details" e.details PolicyDetails.toJson,
  entryIfSome "usage" e.usage Usage.toJson,
  entryIfSome "response_sample" e.sample .string,
  entry "redacted_fields" (ofStrings e.redacted),
  entryIfSome "error_message" e.errorMessage .string,
  entry "compliance_flags" (ofList e.flags ComplianceFlag.toJson),
  entryIfSome "security_metrics" e.security SecurityMetrics.toJson]

def AuditEntry.fieldNames : List String :=
  ["id", "request_id", "timestamp", "actor", "client_id", "tenant_id", "request_type",
    "query_hash", "decision", "policy_details", "usage", "response_sample", "redacted_fields",
    "error_message", "compliance_flags", "security_metrics"]

def AuditEntry.ofJson : Decoder AuditEntry := fun j => do
  let f ← asFields AuditEntry.fieldNames j
  return {
    id := ← f.required "id" Identifier.ofJson
    request := ← f.required "request_id" Identifier.ofJson
    timestamp := ← f.required "timestamp" asInstant
    actor := ← f.required "actor" AuditActor.ofJson
    client := ← f.optional "client_id" asString
    tenant := ← f.required "tenant_id" Identifier.ofJson
    requestKind := ← f.required "request_type" asString
    queryHash := ← f.required "query_hash" asString
    verdict := ← f.required "decision" Verdict.ofJson
    details := ← f.optional "policy_details" PolicyDetails.ofJson
    usage := ← f.optional "usage" Usage.ofJson
    sample := ← f.optional "response_sample" asString
    redacted := ← f.orElse "redacted_fields" [] (asList asString)
    errorMessage := ← f.optional "error_message" asString
    flags := ← f.orElse "compliance_flags" [] (asList ComplianceFlag.ofJson)
    security := ← f.optional "security_metrics" SecurityMetrics.ofJson }

/-- What matters of an entry in a text. -/
def AuditEntry.interest : Interest := .ofFields AuditEntry.fieldNames [
  ("actor", .ofFields AuditActor.fieldNames []),
  ("policy_details", .ofFields PolicyDetails.fieldNames []),
  ("usage", .ofFields Usage.fieldNames []),
  ("security_metrics", .ofFields SecurityMetrics.fieldNames [])]

/-! ### Coded types -/

instance : Coded Verdict := ⟨Verdict.toJson, Verdict.ofJson⟩

instance : Coded ComplianceFlag := ⟨ComplianceFlag.toJson, ComplianceFlag.ofJson⟩

instance : Coded Complexity := ⟨Complexity.toJson, Complexity.ofJson⟩

instance : Coded PolicyDetails := ⟨PolicyDetails.toJson, PolicyDetails.ofJson⟩

instance : Coded SecurityMetrics := ⟨SecurityMetrics.toJson, SecurityMetrics.ofJson⟩

instance : Coded AuditActor := ⟨AuditActor.toJson, AuditActor.ofJson⟩

instance : Coded Usage := ⟨Usage.toJson, Usage.ofJson⟩

instance : Coded AuditEntry := ⟨AuditEntry.toJson, AuditEntry.ofJson⟩

end Governance
