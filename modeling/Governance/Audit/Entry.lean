import Governance.Decision.Basic
import Governance.Digest.Sha256
import Governance.Identifier
import Governance.Text.Lowercase
import Governance.Time.Instant

/-!
# Audit entries

An entry records what became of one governed request. It does not hold the query: what it shows of it
is a digest, flags that follow from keywords, and classes of how it is built.
-/

namespace Governance

/-- What became of a request. -/
inductive Verdict where
  | allowed
  | blocked
  | redacted
  | error
  deriving DecidableEq, Repr

def Verdict.word : Verdict → String
  | .allowed => "allowed"
  | .blocked => "blocked"
  | .redacted => "redacted"
  | .error => "error"

def Verdict.ofWord? : String → Option Verdict
  | "allowed" => some .allowed
  | "blocked" => some .blocked
  | "redacted" => some .redacted
  | "error" => some .error
  | _ => none

@[simp] theorem Verdict.ofWord?_word (v : Verdict) : ofWord? v.word = some v := by
  cases v <;> rfl

def Verdict.unknownMessage (word : String) : String := "unknown audit decision: " ++ word

/-! ### What is derived from a query -/

/-- A regime that a request may fall under. -/
inductive ComplianceFlag where
  | hipaaRelevant
  | gdprApplicable
  | soxRelevant
  | piiAccess
  deriving DecidableEq, Repr

def ComplianceFlag.word : ComplianceFlag → String
  | .hipaaRelevant => "hipaa_relevant"
  | .gdprApplicable => "gdpr_applicable"
  | .soxRelevant => "sox_relevant"
  | .piiAccess => "pii_access"

def ComplianceFlag.ofWord? : String → Option ComplianceFlag
  | "hipaa_relevant" => some .hipaaRelevant
  | "gdpr_applicable" => some .gdprApplicable
  | "sox_relevant" => some .soxRelevant
  | "pii_access" => some .piiAccess
  | _ => none

@[simp] theorem ComplianceFlag.ofWord?_word (f : ComplianceFlag) : ofWord? f.word = some f := by
  cases f <;> rfl

/-- Whether one of the keywords stands somewhere in a query, upper and lower case being the same. -/
def mentionsAny (keywords : List String) (query : String) : Bool :=
  let lowered := Text.lowercase query.toList
  keywords.any fun keyword => Text.occurs keyword.toList lowered

/-- Words for patients and their data. -/
def medicalKeywords : List String := ["patient", "medical"]

/-- Words for accounts and what happens to them. -/
def accountKeywords : List String := ["account", "transaction"]

/-- Words for what identifies a person. -/
def personalKeywords : List String := ["ssn", "email", "phone", "address", "credit_card"]

/-- Words for credentials and identity numbers. -/
def sensitiveKeywords : List String :=
  ["password", "secret", "key", "token", "ssn", "social_security", "credit_card"]

/-- Whether a tenant is hosted in the European Union, which its identifier tells. -/
def isEuropean (tenant : TenantId) : Bool := "eu_".toList.isPrefixOf tenant.text.toList

def complianceFlags (query : String) (tenant : TenantId) : List ComplianceFlag :=
  (if mentionsAny medicalKeywords query then [.hipaaRelevant] else []) ++
    (if isEuropean tenant then [.gdprApplicable] else []) ++
    (if mentionsAny accountKeywords query then [.soxRelevant] else []) ++
    (if mentionsAny personalKeywords query then [.piiAccess] else [])

/-- How a query is built. -/
inductive Complexity where
  | low
  | medium
  | high
  deriving DecidableEq, Repr

def Complexity.word : Complexity → String
  | .low => "low"
  | .medium => "medium"
  | .high => "high"

def Complexity.ofWord? : String → Option Complexity
  | "low" => some .low
  | "medium" => some .medium
  | "high" => some .high
  | _ => none

@[simp] theorem Complexity.ofWord?_word (c : Complexity) : ofWord? c.word = some c := by
  cases c <;> rfl

/-- The complexity of a query with so many joins. -/
def Complexity.ofJoins (joins : Nat) : Complexity :=
  if joins = 0 then .low else if joins ≤ 2 then .medium else .high

def Complexity.ofQuery (query : String) : Complexity :=
  .ofJoins (Text.count "join".toList (Text.lowercase query.toList))

/-! ### Parts of an entry -/

/-- What the policies said about a request. -/
structure PolicyDetails where
  applied : List String
  riskScore : Float
  obligations : List String
  millis : UInt64
  deriving BEq, Repr

/-- What an entry keeps of a decision. -/
def PolicyDetails.ofDecision (d : Decision) : PolicyDetails :=
  ⟨d.applied, d.riskScore, d.obligations, d.millis⟩

/-- What the query and the policies say about security. -/
structure SecurityMetrics where
  riskScore : Float
  policiesApplied : Nat
  complexity : Complexity
  sensitive : Bool
  deriving BEq, Repr

def SecurityMetrics.assess (query : String) (details : PolicyDetails) : SecurityMetrics :=
  ⟨details.riskScore, details.applied.length, .ofQuery query, mentionsAny sensitiveKeywords query⟩

/-- Who sent a request. -/
structure AuditActor where
  user : String
  email : String
  role : String
  deriving DecidableEq, Repr

def AuditActor.unknown : AuditActor := ⟨"", "", ""⟩

/-- What serving a request took. -/
structure Usage where
  provider : String
  model : String
  millis : UInt64
  tokens : UInt64
  cost : Float
  deriving BEq, Repr

/-- What became of one request. -/
structure AuditEntry where
  id : AuditId
  request : RequestId
  timestamp : Instant
  actor : AuditActor
  client : Option String
  tenant : TenantId
  requestKind : String
  queryHash : String
  verdict : Verdict
  details : Option PolicyDetails
  usage : Option Usage
  sample : Option String
  redacted : List String
  errorMessage : Option String
  flags : List ComplianceFlag
  security : Option SecurityMetrics
  deriving BEq, Repr

/-! ### From a record to an entry -/

/-- How much of a response an entry keeps. -/
def sampleLength : Nat := 200

/-- The beginning of a response, with dots where it was cut. -/
def sampleOf (response : String) : String :=
  if response.length ≤ sampleLength then response
  else String.ofList (response.toList.take sampleLength) ++ "..."

/-- What is known about a request when its entry is made, the query included. -/
structure AuditRecord where
  request : RequestId
  tenant : TenantId
  verdict : Verdict
  timestamp : Instant
  actor : AuditActor
  client : Option String
  requestKind : String
  query : String
  details : Option PolicyDetails
  usage : Option Usage
  response : Option String
  redacted : List String
  errorMessage : Option String
  deriving BEq, Repr

/-- A record of which no more is known than whose request it is, what became of it and when. -/
def AuditRecord.bare (request : RequestId) (tenant : TenantId) (verdict : Verdict)
    (timestamp : Instant) : AuditRecord :=
  ⟨request, tenant, verdict, timestamp, .unknown, none, "", "", none, none, none, [], none⟩

/-- The entry of a record. The query and the response leave only what is derived from them. -/
def AuditRecord.toEntry (r : AuditRecord) (id : AuditId) : AuditEntry where
  id := id
  request := r.request
  timestamp := r.timestamp
  actor := r.actor
  client := r.client
  tenant := r.tenant
  requestKind := r.requestKind
  queryHash := Digest.sha256Text r.query
  verdict := r.verdict
  details := r.details
  usage := r.usage
  sample := r.response.map sampleOf
  redacted := r.redacted
  errorMessage := r.errorMessage
  flags := complianceFlags r.query r.tenant
  security := r.details.map (SecurityMetrics.assess r.query)

end Governance
