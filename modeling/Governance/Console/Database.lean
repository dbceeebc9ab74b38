import Governance.Console.Audit
import Governance.Console.Service
import Governance.Sql.AuditStore
import Governance.Sql.PolicyStore
import Governance.Sql.Script

/-!
# The console of the stores in a database

Commands to the policies and to the audit entries of a database that follows a script. Every command brings
the part of the script that it uses, and the answers show what was sent.
-/

namespace Governance.Console

open Sql

/-! ### Scripts -/

/-- A reply of a script. A number stands for the one row of a count. -/
def replyOf (j : Json) : Reply :=
  match text? "error" j, j.member? "count" with
  | some reason, _ => .refused reason
  | none, some n => .answered [[(Command.countColumn, n)]] (natOr "affected" 1 j)
  | none, none =>
    let rows := (items "rows" j).map fun row => match row with
      | .object members => members
      | _ => []
    .answered rows (natOr "affected" rows.length j)

def controls : List Control := [.begin, .commit, .rollback, .savepoint, .release, .rollbackTo]

/-- The part of a script that a command brings. -/
def withPart (j : Json) (s : Script) : Script :=
  let faults := member "fail" j
  { s with
    replies := (items "replies" j).map replyOf
    faults := controls.filterMap fun c => (text? c.words faults).map (c, ·)
    preparationFault := text? "PREPARE" faults }

def statementJson : Statement → Json
  | .control c => c.words
  | .command c => obj [("sql", c.text), ("params", .array (c.values.map Value.toJson))]
  | .preparation c => obj [("prepare", c.text)]

/-- Everything that was sent, the first statement first. -/
def sentJson (s : Script) : Json := .array (s.sent.reverse.map statementJson)

def unusedJson (s : Script) : Json := s.replies.length

/-! ### Policies -/

/-- Runs a computation over the database. -/
def queried {α : Type} (p : SqlProgram (Except StoreError α)) : Session Script α := do
  match ← acting (Program.run Script.answer p) with
  | .ok a => return a
  | .error e => throw (storeFailure e)

/-- Asks the store of policies in the database. -/
def stored (c : StoreCall) : Session Script c.Result := queried (PolicyStore.answer c)

def policyCommand (j : Json) : Session Script Json := do
  let tenant := tenantOf j
  let actor := actorOf j
  let id : PolicyId := ⟨text "id" j⟩
  match name j with
  | "migrate" =>
    queried PolicyStore.define
    return "migrated"
  | "create" => return ← stored (.create tenant (← field "draft" j) actor)
  | "get" => return ← stored (.get tenant id)
  | "find" => return ← stored (.findByName tenant (text "name" j))
  | "list" =>
    let query : ListingQuery ← field "query" j
    let page ← stored (.list tenant query.normalize)
    return obj [("items", page.items), ("total", page.total)]
  | "count" => return ← stored (.countTenantTier tenant)
  | "update" => return ← stored (.update tenant id (← field "patch" j) actor)
  | "delete" => return ← stored (.delete tenant id actor)
  | "versions" => return ← stored (.revisions tenant id)
  | "export" => return ← stored (.exportAll tenant)
  | "enabled" => return ← stored (.enabledPolicies tenant)
  | "import" =>
    let mode : ImportMode ← field "mode" j
    return ← stored (.importAll tenant (← field "drafts" j) mode actor)
  | "close" =>
    modify fun s => { s with isClosed := true }
    return .null
  | other => fail "UnknownStep" other

/-- The answers to commands, each with what it sent. -/
def policyAnswers : List Json → Acting Script (List Json)
  | [] => return []
  | j :: rest => do
    modify fun s => withPart j { s with sent := [] }
    let answer ← attempt (policyCommand j)
    let s ← get
    let shown := obj (answer ++ [("sql", sentJson s), ("unused", unusedJson s)])
    return shown :: (← policyAnswers rest)

def policyDatabaseSession (j : Json) : Session Unit Json := do
  return .array (← separately Script.blank (policyAnswers (items "steps" j)))

/-! ### Audit entries -/

/-- A database, and a transaction that may be open. -/
structure AuditDatabase where
  script : Script
  slot : Option Transaction

def auditStore : AuditBackend Script Transaction := AuditStore.backend Script.answer

def onScript {α : Type} (act : Acting Script α) : Session AuditDatabase α :=
  onPart (·.script) (fun s desk => { desk with script := s }) act

def audited {α : Type} (act : Acting Script (Except AuditError α)) : Session AuditDatabase α := do
  orFail (← onScript act)

/-- The open transaction, which leaves its slot. -/
def takeTransaction : Session AuditDatabase Transaction := do
  match (← get).slot with
  | some t =>
    modify fun desk => { desk with slot := none }
    return t
  | none => failBare "NoTransaction"

def inTransaction (act : Transaction → Acting Script (Except AuditError Unit × Transaction)) :
    Session AuditDatabase Unit := do
  let t ← takeTransaction
  let (outcome, t) ← onScript (act t)
  modify fun desk => { desk with slot := some t }
  orFail outcome

/-- Leaves the open transaction, if there is one. -/
def abandonSlot : Acting AuditDatabase Unit := do
  let command : Session AuditDatabase Unit := do
    match (← get).slot with
    | some t => onScript (Script.answer (.abandon t))
    | none => pure ()
  let _ ← command.run

def auditCommand (j : Json) : Session AuditDatabase Json := do
  match name j with
  | "migrate" =>
    audited (Program.run Script.answer AuditStore.define)
    return "migrated"
  | "ping" =>
    audited auditStore.ping
    return "pong"
  | "search" => return ← audited (auditStore.search (← criteriaOf (member "criteria" j)))
  | "write" =>
    let entries ← describedAll j
    return reportJson (← audited (BatchWriter.write (some auditStore) entries))
  | "begin" =>
    let t ← audited auditStore.start
    let _ ← abandonSlot
    modify fun desk => { desk with slot := some t }
    return "open"
  | "prepare" =>
    inTransaction auditStore.prepare
    return "prepared"
  | "insert" =>
    let e ← described (member "entry" j)
    inTransaction (auditStore.insert e)
    return "inserted"
  | "commit" =>
    audited (auditStore.commit (← takeTransaction))
    return "committed"
  | "rollback" =>
    audited (auditStore.rollback (← takeTransaction))
    return "rolled back"
  | "close" =>
    modify fun desk => { desk with script.isClosed := true }
    return .null
  | other => fail "UnknownStep" other

def auditDatabaseAnswers : List Json → Acting AuditDatabase (List Json)
  | [] => return []
  | j :: rest => do
    modify fun desk => { desk with script := withPart j desk.script }
    let answer ← attempt (auditCommand j)
    let shown := obj (answer ++ [("unused", unusedJson (← get).script)])
    return shown :: (← auditDatabaseAnswers rest)

def auditDatabaseSession (j : Json) : Session Unit Json := do
  let ran : Acting AuditDatabase (List Json) := do
    let answers ← auditDatabaseAnswers (items "steps" j)
    abandonSlot
    return answers
  let (answers, desk) ← ambient (ran.run ⟨.blank, none⟩)
  return obj [("steps", .array answers), ("sql", sentJson desk.script)]

end Governance.Console
