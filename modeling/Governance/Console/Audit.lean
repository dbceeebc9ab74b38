import Governance.Audit.Journal
import Governance.Audit.Memory
import Governance.Audit.Queue
import Governance.Console.Basic

/-!
# The console of the audit trail

Commands to an audit queue with its worker, to a batch writer beside it, and to one open transaction.
Entries are kept in memory, in a journal, or nowhere. Time passes only where a command says so, and
after every command the worker has time for all that it can do.
-/

namespace Governance.Console

/-- An identifier that must not be blank. -/
def usable {σ : Type} (kind : IdKind) (word : String) : Session σ (Identifier kind) :=
  match Identifier.ofText kind word with
  | .ok id => pure id
  | .error e => fail "EmptyId" e.message

def described {σ : Type} (j : Json) : Session σ AuditEntry := do
  let request ← usable .request (text "request_id" j)
  let tenant ← usable .tenant (textOr "tenant" "acme" j)
  let word := textOr "decision" "allowed" j
  let some verdict := Verdict.ofWord? word | fail "Parse" (Verdict.unknownMessage word)
  let timestamp ← fieldOr "timestamp" ⟨1577836800, 0⟩ j
  let record : AuditRecord := {
    request := request
    tenant := tenant
    verdict := verdict
    timestamp := timestamp
    actor := ← fieldOr "actor" .unknown j
    client := text? "client" j
    requestKind := text "request_type" j
    query := text "query" j
    details := ← field "policy_details" j
    usage := ← field "usage" j
    response := text? "response" j
    redacted := ← fieldOr "redacted_fields" [] j
    errorMessage := text? "error_message" j }
  return record.toEntry (← ambient Ambient.auditId)

def describedAll {σ : Type} (j : Json) : Session σ (List AuditEntry) :=
  (items "entries" j).mapM described

def entryView (e : AuditEntry) : Json := obj [
  ("id_prefix", e.id.text.startsWith "audit_"), ("request_id", e.request),
  ("timestamp_ms", .ofInt e.timestamp.toMillis), ("actor", e.actor), ("client_id", e.client),
  ("tenant_id", e.tenant), ("request_type", e.requestKind), ("query_hash", e.queryHash),
  ("decision", e.verdict), ("policy_details", e.details), ("usage", e.usage),
  ("response_sample", e.sample), ("redacted_fields", e.redacted),
  ("error_message", e.errorMessage), ("compliance_flags", e.flags),
  ("security_metrics", e.security)]

def criteriaOf {σ : Type} (j : Json) : Session σ Criteria := do
  return ⟨text? "user_email" j, text? "client_id" j, text? "request_type" j, ← field "start" j,
    ← field "end" j, ← field "limit" j⟩

def auditFailure (e : AuditError) : Failure :=
  let kind := match e with
    | .invalidConfig _ => "InvalidConfig"
    | .io _ => "Io"
    | .serialization _ => "Serialization"
    | .transaction _ => "Transaction"
    | .store _ => "Store"
  failure kind e.message

def orFail {σ α : Type} : Except AuditError α → Session σ α
  | .ok a => pure a
  | .error e => throw (auditFailure e)

def reportJson (r : WriteReport) : Json := obj [("written", r.written), ("failed", r.failed)]

/-- A session with the audit trail; `now` is the time of its clock. -/
structure AuditDesk (σ τ : Type) where
  line : AuditLine σ
  now : Duration
  writer : BatchWriter
  slot : Option τ
  joinable : Bool

/-- What can be reached besides the entries themselves. -/
structure AuditAccess (σ τ : Type) where
  backend : Option (AuditBackend σ τ)
  memory? : σ → Option MemoryAudit
  ofMemory : MemoryAudit → σ → σ
  journal? : σ → Option Journal
  ofJournal : Journal → σ → σ

section Commands

variable {σ τ α : Type} (access : AuditAccess σ τ)

def onLine (act : Acting (AuditLine σ) α) : Session (AuditDesk σ τ) α :=
  onPart (·.line) (fun line desk => { desk with line := line }) act

/-- Does something with the place where entries are kept. -/
def onKept (act : Acting σ α) : Session (AuditDesk σ τ) α := onLine (AuditLine.onStore act)

def happen (action : LineAction) : Session (AuditDesk σ τ) Unit :=
  onLine (AuditLine.act (BatchWriter.write access.backend) action)

def passTime (d : Duration) : Session (AuditDesk σ τ) Unit := do
  let now := (← get).now
  let time : Duration := ⟨now.nanos + d.nanos⟩
  onLine (AuditLine.pass (BatchWriter.write access.backend) now time)
  modify fun desk => { desk with now := time }

def needMemory : Session (AuditDesk σ τ) MemoryAudit := do
  match access.memory? (← get).line.store with
  | some m => return m
  | none => failBare "NoMemoryStore"

def putMemory (m : MemoryAudit) : Session (AuditDesk σ τ) Json := do
  modify fun desk => { desk with line.store := access.ofMemory m desk.line.store }
  return .null

/-- The journal and the bytes of its file. -/
def needFile : Session (AuditDesk σ τ) (Journal × List UInt8) := do
  match access.journal? (← get).line.store with
  | none => failBare "NoJournal"
  | some journal => match journal.file.bytes with
    | some bytes => return (journal, bytes)
    | none => fail "Io" missingFileMessage

def putFile (journal : Journal) (file : JournalFile) : Session (AuditDesk σ τ) Json := do
  modify fun desk => { desk with
    line.store := access.ofJournal { journal with file := file } desk.line.store }
  return .null

def needBackend : Session (AuditDesk σ τ) (AuditBackend σ τ) :=
  match access.backend with
  | some b => return b
  | none => failBare "NoStore"

/-- The open transaction, which leaves its slot. -/
def takeSlot : Session (AuditDesk σ τ) τ := do
  match (← get).slot with
  | some t =>
    modify fun desk => { desk with slot := none }
    return t
  | none => failBare "NoTransaction"

def inSlot (act : AuditBackend σ τ → τ → Acting σ (Except AuditError Unit × τ)) :
    Session (AuditDesk σ τ) Unit := do
  let t ← takeSlot
  let (outcome, t) ← onKept (act (← needBackend access) t)
  modify fun desk => { desk with slot := some t }
  orFail outcome

/-- Offers an entry a number of times. -/
def offerTimes (j : Json) : Nat → Session (AuditDesk σ τ) (List String)
  | 0 => return []
  | times + 1 => do
    let outcome ← onLine (AuditLine.offer (← described j))
    return outcome.name.toLower :: (← offerTimes j times)

def textLines (s : String) : List String :=
  let lines := s.splitOn "\n"
  let lines := if lines.getLast? = some "" then lines.dropLast else lines
  lines.map fun l => if l.endsWith "\r" then (l.dropEnd 1).toString else l

def lineCommand (j : Json) : Session (AuditDesk σ τ) Json := do
  let desk ← get
  if ["enqueue", "stats", "healthy", "shutdown", "search", "search_full"].contains (name j) &&
      !desk.line.held then
    failBare "NoLogger"
  match name j with
  | "enqueue" => return ← offerTimes (member "entry" j) (natOr "times" 1 j)
  | "stats" =>
    return obj [("enqueued", desk.line.queue.enqueued), ("dropped", desk.line.queue.dropped)]
  | "healthy" =>
    passTime access (AuditLine.healthTime access.backend desk.line)
    return ← onLine (AuditLine.isHealthy access.backend)
  | "spawn" =>
    if desk.line.phase ≠ .unstarted then failBare "NoWorker"
    happen access (.start desk.now)
    modify fun desk => { desk with joinable := true }
    return "spawned"
  | "drop_worker" =>
    happen access .discardWorker
    return .null
  | "drop_logger" =>
    happen access .dropHandles
    return .null
  | "shutdown" =>
    happen access .askToStop
    return .null
  | "advance" =>
    set { desk with now := ⟨desk.now.nanos + (Duration.ofMillis (natOr "ms" 0 j)).nanos⟩ }
    return .null
  | "join" =>
    if !desk.joinable then failBare "NoWorker"
    if desk.line.phase = .stopped then
      set { desk with joinable := false }
      return "stopped"
    passTime access (.ofSeconds 60)
    return "running"
  | "search" =>
    let criteria ← criteriaOf (member "criteria" j)
    return (← orFail (← onLine (AuditLine.search access.backend criteria))).map (·.request)
  | "search_full" =>
    let criteria ← criteriaOf (member "criteria" j)
    return ← orFail (← onLine (AuditLine.search access.backend criteria))
  | other => fail "UnknownStep" other

def writerCommand (j : Json) : Session (AuditDesk σ τ) Json := do
  let desk ← get
  match name j with
  | "build" => return ← described (member "entry" j)
  | "view" => return entryView (← described (member "entry" j))
  | "ping" =>
    let b ← needBackend access
    passTime access (b.pingTime desk.line.store)
    orFail (← onKept b.ping)
    return "pong"
  | "add" =>
    let writer ← onKept (desk.writer.add (BatchWriter.write access.backend)
      (← described (member "entry" j)))
    modify fun desk => { desk with writer := writer }
    return obj [("pending", writer.pending.length)]
  | "flush" =>
    let (outcome, writer) ← onKept (desk.writer.flush (BatchWriter.write access.backend))
    modify fun desk => { desk with writer := writer }
    return reportJson (← orFail outcome)
  | "write" =>
    return reportJson (← orFail (← onKept (BatchWriter.write access.backend (← describedAll j))))
  | "pending" => return desk.writer.pending.length
  | "tx_begin" =>
    let t ← orFail (← onKept (← needBackend access).start)
    modify fun desk => { desk with slot := some t }
    return "open"
  | "tx_prepare" =>
    inSlot access (·.prepare)
    return "prepared"
  | "tx_insert" =>
    let e ← described (member "entry" j)
    inSlot access (·.insert e)
    return "inserted"
  | "tx_commit" =>
    let t ← takeSlot
    orFail (← onKept ((← needBackend access).commit t))
    return "committed"
  | "tx_rollback" =>
    let t ← takeSlot
    orFail (← onKept ((← needBackend access).rollback t))
    return "rolled back"
  | _ => lineCommand access j

/-- Opens the journal anew, with a queue and a worker of its own. -/
def reopen : Session (AuditDesk σ τ) Json := do
  happen access .dropHandles
  onLine (AuditLine.settle (BatchWriter.write access.backend) (← get).now)
  let desk ← get
  match access.journal? desk.line.store with
  | none => failBare "NoJournal"
  | some journal =>
    set { desk with
      line := .ofConfig .standard (access.ofJournal (.openAt journal.file) desk.line.store)
      writer := .ofSize desk.writer.size }
    return true

def keptCommand (j : Json) : Session (AuditDesk σ τ) Json := do
  match name j with
  | "entries" => return (← needMemory access).committed
  | "ids" => return (← needMemory access).committed.map (·.request)
  | "counts" =>
    let m ← needMemory access
    return obj [("begins", m.starts), ("commits", m.commits), ("rollbacks", m.rollbacks)]
  | "fail" =>
    let m ← needMemory access
    let on := flag "on" j
    match text "what" j with
    | "begin" => putMemory access { m with failsStart := on }
    | "prepare" => putMemory access { m with failsPrepare := on }
    | "commit" => putMemory access { m with failsCommit := on }
    | "ping" => putMemory access { m with failsPing := on }
    | other => fail "UnknownKind" other
  | "reject" => putMemory access ((← needMemory access).reject (text "request_id" j))
  | "append_raw" =>
    let (journal, bytes) ← needFile access
    let added := (text "text" j).toUTF8.toList
    putFile access journal { journal.file with bytes := some (bytes ++ added) }
  | "raw_lines" =>
    let (_, bytes) ← needFile access
    let lines := textLines ((Text.ofUtf8? bytes).getD "")
    return .array (lines.map fun line => (Json.parse? line).getD line)
  | "remove_file" =>
    let (journal, _) ← needFile access
    putFile access journal journal.file.remove
  | "reopen" => reopen access
  | _ => writerCommand access j

/-- The answer to a command, after which the worker has had time. -/
def auditAnswers : List Json → Acting (AuditDesk σ τ) (List Json)
  | [] => return []
  | j :: rest => do
    let answer ← attempt (keptCommand access j)
    let _ ← (onLine (AuditLine.settle (BatchWriter.write access.backend) (← get).now) :
      Session (AuditDesk σ τ) Unit).run
    return obj answer :: (← auditAnswers rest)

def auditSession (config : AuditConfig) (kept : σ) (commands : List Json) :
    Session Unit Json := do
  let desk : AuditDesk σ τ := ⟨.ofConfig config kept, ⟨0⟩, .ofSize config.batchSize, none, false⟩
  let answers ← separately desk (auditAnswers access commands)
  return .array (obj [("capacity", config.capacity), ("batch_size", config.batchSize),
    ("flush_ms", config.flushInterval.toMillis)] :: answers)

end Commands

def memoryAccess : AuditAccess MemoryAudit StagedEntries :=
  ⟨some MemoryAudit.backend, some, fun m _ => m, fun _ => none, fun _ s => s⟩

def journalAccess : AuditAccess Journal JournalLines :=
  ⟨some Journal.backend, fun _ => none, fun _ s => s, some, fun journal _ => journal⟩

def noAccess : AuditAccess Unit Unit :=
  ⟨none, fun _ => none, fun _ s => s, fun _ => none, fun _ s => s⟩

def auditConfig {σ : Type} (j : Json) : Session σ AuditConfig :=
  match j with
  | .null => return .standard
  | j => orFail (AuditConfig.make (natOr "capacity" 10 j) (natOr "batch_size" 10 j)
      (.ofMillis (natOr "flush_ms" 5000 j)))

/-- A session with the audit trail, kept where the command says. -/
def auditTrail (j : Json) : Session Unit Json := do
  let config ← auditConfig (member "config" j)
  let commands := items "steps" j
  match text "store" j with
  | "journal" => auditSession journalAccess config (.openAt (.absent "journal")) commands
  | "none" => auditSession noAccess config () commands
  | _ =>
    let kept := { MemoryAudit.empty with pingTime := .ofMillis (natOr "slow_ping_ms" 0 j) }
    auditSession memoryAccess config kept commands

end Governance.Console
