import Governance.Config.Source
import Governance.Console.Audit
import Governance.Console.Service
import Governance.Pipeline.Basic
import Governance.Sql.ConnectionUrl

/-!
# The console of the set-up

How a configuration is loaded, connections are set up and global parts are installed, and what the parts
of a gateway say of themselves in a log.
-/

namespace Governance.Console

/-! ### Configurations -/

def variablesOf (j : Json) : List (String × String) :=
  match member "env" j with
  | .object members => members.filterMap fun (key, value) => match value with
    | .string s => some (key, s)
    | _ => none
  | _ => []

def configAnswer (j : Json) : Session Unit Json :=
  match GatewayConfig.load (text? "toml" j) (variablesOf j) with
  | .ok c => return obj [("config", c), ("flush_ms", c.flushInterval.toMillis),
      ("timeout_ms", c.requestTimeout.toMillis)]
  | .error (.unreadable setting) => throw (bare "Load" ++ [("key", (setting : Json))])
  | .error (.invalid setting) => fail "Invalid" (GatewayConfig.faultMessage setting)

/-! ### Connections -/

/-- What is said about a database that no connection can be set up with. -/
def poolMessage (subject : String) : String :=
  "Failed to configure " ++ subject ++ " pool: error with configuration"

def connectAnswer (j : Json) : Session Unit Json := do
  if (ConnectionUrl.parse? (text "url" j)).isSome then return "configured"
  match text "store" j with
  | "policy" => throw (storeFailure (.database (poolMessage "policy")))
  | "audit" => throw (auditFailure (.store (poolMessage "audit")))
  | other => fail "UnknownKind" other

/-! ### Global parts -/

/-- Installs a part of which there can be one only, when there is one already. -/
def installAnswer (j : Json) : Session Unit Json :=
  match text "what" j with
  | "tracing" => match LogFormat.ofName (text "format" j) with
    | .ok _ => failBare "Subscriber"
    | .error message => fail "UnknownFormat" message
  | "prometheus" => failBare "Recorder"
  | other => fail "UnknownKind" other

/-! ### What the parts say of themselves -/

/-- The name of a part with its fields; one that is not shown in full ends in dots. -/
def shown (name : String) (fields : List (String × String)) (inFull : Bool) : String :=
  let parts := fields.map fun (key, value) => key ++ ": " ++ value
  let parts := if inFull then parts else parts ++ [".."]
  name ++ " \x7b " ++ ", ".intercalate parts ++ " \x7d"

def queueSummary (q : AuditQueue) (stored : Bool) : String :=
  let stats := shown "QueueStats"
    [("enqueued", toString q.enqueued), ("dropped", toString q.dropped)] true
  shown "AuditLogger" [("stats", stats), ("has_store", toString stored)] false

def writerSummary (w : BatchWriter) (stored : Bool) : String :=
  shown "BatchWriter" [("has_store", toString stored), ("batch_size", toString w.size),
    ("pending", toString w.pending.length)] true

def workerSummary (line : AuditLine MemoryAudit) (stored : Bool) : String :=
  shown "AuditWorker" [("writer", writerSummary line.writer stored),
    ("flush_interval", line.interval.render)] false

def gateSummary (g : Gate) : String :=
  shown "TierGate"
    [("enterprise", toString g.enterprise), ("community_limit", toString g.limit)] false

def serviceSummary (g : Gate) : String := shown "PolicyService" [("gate", gateSummary g)] false

def pipelineSummary (q : AuditQueue) (stored : Bool) (deadline : Duration) : String :=
  shown "GovernancePipeline"
    [("audit", queueSummary q stored), ("deadline", deadline.render)] false

/-- Offers entries to the queue and gives them to a writer. -/
def fill (b : Option (AuditBackend MemoryAudit StagedEntries)) :
    List AuditEntry → BatchWriter → Acting (AuditLine MemoryAudit) BatchWriter
  | [], w => return w
  | e :: rest, w => do
    let _ ← AuditLine.offer e
    let w ← AuditLine.onStore (w.add (BatchWriter.write b) e)
    fill b rest w

/-- An entry of which nothing but its number is known. -/
def numberedEntry (n : Nat) : Session Unit AuditEntry := do
  let record := AuditRecord.bare ⟨"r" ++ toString n⟩ ⟨"acme"⟩ .allowed ⟨1577836800, 0⟩
  return record.toEntry (← ambient Ambient.auditId)

/-- What the parts of a gateway say of themselves after some entries. -/
def summaryAnswer (j : Json) : Session Unit Json := do
  let stored := flag "store" j
  let b := if stored then some MemoryAudit.backend else none
  let batch := natOr "batch" 10 j
  if batch = 0 then fail "BadBatch" "0"
  let config ← orFail (AuditConfig.make 100 batch (.ofMillis (natOr "flush_ms" 5000 j)))
  let gate : Gate := ⟨text "license" j = "enterprise", natOr "limit" 5 j⟩
  let deadline := Duration.ofMillis (natOr "deadline_ms" 30000 j)
  let entries ← (List.range (natOr "entries" 0 j)).mapM numberedEntry
  separately (AuditLine.ofConfig config MemoryAudit.empty) do
    let w ← fill b entries (.ofSize batch)
    let line ← get
    return obj [("writer", writerSummary w stored), ("logger", queueSummary line.queue stored),
      ("worker", workerSummary line stored), ("gate", gateSummary gate),
      ("service", serviceSummary gate),
      ("pipeline", pipelineSummary line.queue stored deadline)]

end Governance.Console
