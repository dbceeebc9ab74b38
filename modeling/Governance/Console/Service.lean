import Governance.Api.Envelope
import Governance.Console.Basic
import Governance.Decision.Basic
import Governance.Decision.Engine
import Governance.Service.Basic
import Governance.Transfer.Basic

/-!
# The console of the policy service

Commands to the service, to its gate, to the engine and to the store in memory under them. A command
may refer to the identifier in an earlier answer as `@` and the index of the command.
-/

namespace Governance.Console

open Service

/-- The service over its store, and the answers of the commands so far, latest first. -/
structure ServiceDesk where
  gate : Gate
  store : MemoryStore
  answers : List Json

/-- A fault without what a pattern reader says about a pattern. -/
def brief (f : FieldFault) : FieldFault :=
  let mark := "invalid regex pattern"
  if f.message.startsWith (mark ++ ": ") then ⟨f.field, mark⟩ else f

def serviceFailure (e : ServiceError) : Failure :=
  let e := match e with
    | .invalid faults => ServiceError.invalid (faults.map brief)
    | other => other
  [("error", e.code), ("message", e.message), ("status", e.status), ("body", e.envelope)]

def storeFailure (e : StoreError) : Failure :=
  let kind := match e with
    | .database _ => "Database"
    | .transaction _ => "Transaction"
    | .serialization _ => "Serialization"
    | .corrupt _ => "Corrupt"
  failure kind e.message

variable {α : Type}

def onStore (act : Acting MemoryStore α) : Session ServiceDesk α :=
  onPart (·.store) (fun s desk => { desk with store := s }) act

/-- Runs a computation of the service. -/
def served (p : ServiceProgram α) : Session ServiceDesk α := do
  match ← onStore (Service.run p) with
  | .ok a => return a
  | .error e =>
    report e.events
    throw (serviceFailure e)

def asked (c : StoreCall) : Session ServiceDesk c.Result := do
  match ← onStore (MemoryStore.answer c) with
  | .ok a => return a
  | .error e => throw (storeFailure e)

/-- The text at `id` in the value of an earlier answer. -/
def earlierId? (answers : List Json) (index : String) : Option String := do
  let answer ← answers.reverse[← index.toNat?]?
  text? "id" (member "ok" answer)

/-- The identifier that a command names. -/
def policyId (j : Json) : Session ServiceDesk PolicyId := do
  let word := text "id" j
  match word.toList with
  | '@' :: digits =>
    match earlierId? (← get).answers (String.ofList digits) with
    | some id => return ⟨id⟩
    | none => fail "BadReference" word
  | _ => return ⟨word⟩

/-- The tenant on whose behalf a command is given. -/
def tenantOf (j : Json) : TenantId := ⟨textOr "tenant" "acme" j⟩

/-- Who gives a command. -/
def actorOf (j : Json) : String := textOr "actor" "alice" j

/-- The draft of a command, with the number of the repetition in its name. -/
def numberedDraft (index : Nat) (j : Json) : Session ServiceDesk PolicyDraft := do
  let draft : PolicyDraft ← field "draft" j
  return { draft with name := draft.name.replace "\x7bi\x7d" (toString index) }

def revisionLine (r : Revision) : Json :=
  .array [r.version, r.change, r.summary, r.changedBy, r.snapshot.name, r.snapshot.enabled]

def serviceCommand (index : Nat) (j : Json) : Session ServiceDesk Json := do
  let tenant := tenantOf j
  let actor := actorOf j
  let gate := (← get).gate
  match name j with
  | "create" => return ← served (create gate tenant (← numberedDraft index j) actor)
  | "get" => return ← served (fetch tenant (← policyId j))
  | "list" => return ← served (list tenant (← field "query" j))
  | "list_names" =>
    let page ← served (list tenant (← field "query" j))
    return obj [("names", page.policies.map (·.name)), ("pagination", page.pagination)]
  | "update" => return ← served (update tenant (← policyId j) (← field "patch" j) actor)
  | "delete" =>
    served (delete tenant (← policyId j) actor)
    return "deleted"
  | "test" => return ← served (tryOut tenant (← policyId j) (← field "request" j))
  | "versions" => return ← served (revisions tenant (← policyId j))
  | "history" => return .array ((← served (revisions tenant (← policyId j))).map revisionLine)
  | "export" => return ← served (exportAll tenant)
  | "import" => return ← served (importAll gate tenant (← field "request" j) actor)
  | "authorize_create" =>
    served (gate.authorizeCreate tenant (← field "tier" j))
    return "authorized"
  | "authorize_modify" =>
    served (Gate.authorizeModify tenant (← policyId j))
    return "authorized"
  | "evaluate" =>
    match ← onStore (Program.run Service.answer (Engine.decideByStore (← field "request" j))) with
    | .ok decision => return decision
    | .error e => fail "Policy" e.message
  | other => fail "UnknownStep" other

def storeCommand (index : Nat) (j : Json) : Session ServiceDesk Json := do
  let tenant := tenantOf j
  let actor := actorOf j
  match name j with
  | "seed" =>
    let p : Policy ← field "policy" j
    modify fun desk => { desk with store := desk.store.seed p }
    return "seeded"
  | "fail_versions" =>
    modify fun desk => { desk with store.losesRevisions := flag "on" j }
    return .null
  | "fail_commits" =>
    modify fun desk => { desk with store.rejectsCommits := flag "on" j }
    return .null
  | "repo_create" => return ← asked (.create tenant (← numberedDraft index j) actor)
  | "repo_get" => return ← asked (.get tenant (← policyId j))
  | "repo_find" => return ← asked (.findByName tenant (text "name" j))
  | "repo_count" => return ← asked (.countTenantTier tenant)
  | "repo_update" => return ← asked (.update tenant (← policyId j) (← field "patch" j) actor)
  | "repo_delete" => return ← asked (.delete tenant (← policyId j) actor)
  | "repo_versions" => return ← asked (.revisions tenant (← policyId j))
  | "repo_enabled" =>
    let enabled ← asked (.enabledPolicies tenant)
    return (enabled.map (·.name)).mergeSort fun a b => a ≤ b
  | "repo_import" =>
    return ← asked (.importAll tenant (← field "drafts" j) (← field "mode" j) actor)
  | _ => serviceCommand index j

/-- The last answer to a command that is given a number of times. -/
def repeatedly (j : Json) : Nat → Nat → Acting ServiceDesk Failure
  | _, 0 => return [("ok", .null)]
  | index, 1 => attempt (storeCommand index j)
  | index, times + 1 => do
    let _ ← attempt (storeCommand index j)
    repeatedly j (index + 1) times

def serviceAnswers : List Json → Acting ServiceDesk (List Json)
  | [] => return []
  | j :: rest => do
    let answer ← repeatedly j 0 (natOr "times" 1 j)
    modify fun desk => { desk with answers := obj answer :: desk.answers }
    return obj answer :: (← serviceAnswers rest)

/-- Whether a session has an enterprise licence. -/
def isEnterprise (j : Json) : Bool :=
  match member "license" j with
  | .string word => word = "enterprise"
  | other => isEnterpriseMode (text "env" other)

def serviceSession (j : Json) : Session Unit Json := do
  let gate : Gate := ⟨isEnterprise j, natOr "limit" communityLimit j⟩
  let seeds : List Policy ← fieldOr "seed" [] j
  let store := seeds.foldl (fun s p => s.seed p) MemoryStore.empty
  let answers ← separately ⟨gate, store, []⟩ (serviceAnswers (items "steps" j))
  return .array (obj [("enterprise", gate.enterprise), ("limit", gate.limit)] :: answers)

end Governance.Console
