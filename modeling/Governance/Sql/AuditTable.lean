import Governance.Audit.Backend
import Governance.Audit.Codec
import Governance.Sql.Row

/-!
# The table of audit entries

An entry is kept as a row. Its usage is spread over columns of its own, of which the provider tells whether
there is any; numbers in them are kept up to the largest that a column holds. A row that can be read may
still not be an entry: then it is corrupt.
-/

namespace Governance.Sql

open Json

def auditTable : Table where
  name := "audit_logs"
  columns := [("id", .text), ("request_id", .text), ("timestamp", .instant), ("user_id", .text),
    ("user_email", .text), ("user_role", .text), ("client_id", .text), ("tenant_id", .text),
    ("request_type", .text), ("query_hash", .text), ("policy_decision", .text),
    ("policy_details", .document), ("provider", .text), ("model", .text),
    ("response_time_ms", .integer), ("tokens_used", .integer), ("cost", .double),
    ("redacted_fields", .document), ("error_message", .text), ("response_sample", .text),
    ("compliance_flags", .document), ("security_metrics", .document)]
  isSpaced := true

namespace AuditTable

def index (column : String) : Command :=
  .define ("CREATE INDEX IF NOT EXISTS idx_audit_logs_" ++ column ++ " ON audit_logs (" ++ column ++
    ")")

/-- What defines the table. -/
def definition : List Command := [
  .define ("CREATE TABLE IF NOT EXISTS audit_logs ( id TEXT PRIMARY KEY, " ++
    "request_id TEXT NOT NULL, timestamp TIMESTAMPTZ NOT NULL, user_id TEXT NOT NULL, " ++
    "user_email TEXT NOT NULL, user_role TEXT NOT NULL, client_id TEXT, " ++
    "tenant_id TEXT NOT NULL, request_type TEXT NOT NULL, query_hash TEXT NOT NULL, " ++
    "policy_decision TEXT NOT NULL, policy_details JSONB, provider TEXT, model TEXT, " ++
    "response_time_ms BIGINT, tokens_used BIGINT, cost DOUBLE PRECISION, " ++
    "redacted_fields JSONB NOT NULL DEFAULT '[]', error_message TEXT, response_sample TEXT, " ++
    "compliance_flags JSONB NOT NULL DEFAULT '[]', security_metrics JSONB, " ++
    "created_at TIMESTAMPTZ NOT NULL DEFAULT NOW() )"),
  index "timestamp", index "user_email", index "tenant_id", index "request_id",
  index "policy_decision"]

/-! ### Writing -/

/-- The largest number that a column holds. -/
def largest : Nat := Int64.maxValue.toInt.toNat

/-- A count as a column holds it. -/
def countValue (n : UInt64) : Value := .integer (min n.toNat largest : Nat)

def rowOf (e : AuditEntry) : Row := [
  ("id", .text e.id.text),
  ("request_id", .text e.request.text),
  ("timestamp", .instant e.timestamp),
  ("user_id", .text e.actor.user),
  ("user_email", .text e.actor.email),
  ("user_role", .text e.actor.role),
  ("client_id", .ofOption .text e.client),
  ("tenant_id", .text e.tenant.text),
  ("request_type", .text e.requestKind),
  ("query_hash", .text e.queryHash),
  ("policy_decision", .text e.verdict.word),
  ("policy_details", .ofOption (fun d => .document d.toJson) e.details),
  ("provider", .ofOption (fun u => .text u.provider) e.usage),
  ("model", .ofOption (fun u => .text u.model) e.usage),
  ("response_time_ms", .ofOption (fun u => countValue u.millis) e.usage),
  ("tokens_used", .ofOption (fun u => countValue u.tokens) e.usage),
  ("cost", .ofOption (fun u => .double u.cost) e.usage),
  ("redacted_fields", .document (ofStrings e.redacted)),
  ("error_message", .ofOption .text e.errorMessage),
  ("response_sample", .ofOption .text e.sample),
  ("compliance_flags", .document (ofList e.flags ComplianceFlag.toJson)),
  ("security_metrics", .ofOption (fun m => .document m.toJson) e.security)]

def insertion (e : AuditEntry) : Command := .insert auditTable (rowOf e)

/-- Adds a row of which nothing is known yet. -/
def blankInsertion : Command := .insert auditTable (auditTable.columnNames.map (·, .null))

/-! ### Reading -/

/-- A count in a column; one that is missing or below nought counts as nought. -/
def countOf (n : Option Int) : UInt64 := .ofNat (n.getD 0).toNat

/-- The entry of a row, or why the row is corrupt. Every field is read before any of them is looked at. -/
def ofRow (r : Row) : Row.Read (Except AuditError AuditEntry) := do
  let id ← r.text "id"
  let request ← r.text "request_id"
  let timestamp ← r.instant "timestamp"
  let user ← r.text "user_id"
  let email ← r.text "user_email"
  let role ← r.text "user_role"
  let client ← r.optional Row.text "client_id"
  let tenant ← r.text "tenant_id"
  let requestKind ← r.text "request_type"
  let queryHash ← r.text "query_hash"
  let verdictWord ← r.text "policy_decision"
  let details ← r.optional (Row.document PolicyDetails.ofJson) "policy_details"
  let provider ← r.optional Row.text "provider"
  let model ← r.optional Row.text "model"
  let millis ← r.optional Row.integer "response_time_ms"
  let tokens ← r.optional Row.integer "tokens_used"
  let cost ← r.optional Row.double "cost"
  let redacted ← r.document (asList asString) "redacted_fields"
  let errorMessage ← r.optional Row.text "error_message"
  let sample ← r.optional Row.text "response_sample"
  let flags ← r.document (asList ComplianceFlag.ofJson) "compliance_flags"
  let security ← r.optional (Row.document SecurityMetrics.ofJson) "security_metrics"
  let usage := provider.map fun provider => (⟨provider, model.getD "", countOf millis,
    countOf tokens, cost.getD 0⟩ : Usage)
  return do
    let corrupt (reason : String) : AuditError := .store ("corrupt audit row: " ++ reason)
    let id ← (Identifier.ofText .audit id).mapError fun e => corrupt e.message
    let request ← (Identifier.ofText .request request).mapError fun e => corrupt e.message
    let tenant ← (Identifier.ofText .tenant tenant).mapError fun e => corrupt e.message
    let some verdict := Verdict.ofWord? verdictWord
      | throw (corrupt (Verdict.unknownMessage verdictWord))
    return {
      id := id
      request := request
      timestamp := timestamp
      actor := ⟨user, email, role⟩
      client := client
      tenant := tenant
      requestKind := requestKind
      queryHash := queryHash
      verdict := verdict
      details := details
      usage := usage
      sample := sample
      redacted := redacted
      errorMessage := errorMessage
      flags := flags
      security := security }

/-! ### Searching -/

/-- A test of a column if there is a value to compare it with. -/
def testIfSome {α : Type} (column : String) (relation : Relation) (encode : α → Value)
    (value : Option α) : List Test :=
  value.toList.map fun a => .compare column relation (.bound (encode a))

def searchTests (c : Criteria) : List Test :=
  .always :: testIfSome "user_email" .equal .text c.email ++
    testIfSome "client_id" .equal .text c.client ++
    testIfSome "request_type" .equal .text c.requestKind ++
    testIfSome "timestamp" .atLeast .instant c.start ++
    testIfSome "timestamp" .atMost .instant c.finish

/-- The entries that agree with criteria, newest first. -/
def searching (c : Criteria) : Command :=
  .select { Selection.all auditTable (searchTests c) with
    order := [⟨"timestamp", some .descending⟩]
    limit := c.cap.map fun n => .bound (min n largest) }

end AuditTable

end Governance.Sql
