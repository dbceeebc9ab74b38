import Governance.Console.Gateway
import Governance.Gateway.Serving
import Governance.Json.Printer
import Governance.Text.Lowercase

/-!
# The console of the HTTP surface

Requests to a gateway over a store in memory, whose audit entries are kept in memory too. The router
echoes queries, and marks in a query make it slow, break down or fail. The path of a request may refer
to the policy in an earlier answer as `@` and the index of the command, in braces.
-/

namespace Governance.Console

/-! ### The echoing router -/

/-- What is known about an echo. -/
def echoMetadata : ProviderMetadata := ⟨"echo", "echo-1", 0, 12, 0.0⟩

/-- Whether a mark stands in a query. -/
def marked (r : Request) (mark : String) : Bool := Text.occurs mark.toList r.query.toList

def echo (r : Request) : Reaction ProviderResponse where
  delay := if marked r "!slow" then .ofSeconds 36000 else ⟨0⟩
  result :=
    if marked r "!panic" then none
    else if marked r "!fail" then some (.error (.routing "scripted"))
    else some (.ok ⟨"echo: " ++ r.query, echoMetadata⟩)

/-! ### Requests -/

/-- The text at `policy.id` in the body of an earlier answer. -/
def earlierPolicy (answers : List Json) (index : Nat) : String :=
  text "id" (member "policy" (member "body" (answers.reverse.getD index .null)))

/-- A path in which references to earlier answers are replaced; `n` of them are known. -/
def resolved (answers : List Json) : Nat → String → String
  | 0, path => path
  | n + 1, path =>
    resolved answers n
      (path.replace ("\x7b@" ++ toString n ++ "\x7d") (earlierPolicy answers n))

def headersOf (j : Json) : List (String × String) :=
  match member "headers" j with
  | .object members => members.filterMap fun (key, value) => match value with
    | .string s => some (key, s)
    | _ => none
  | _ => [(Caller.tenantHeader, "acme"), (Caller.userHeader, "alice")]

/-- The request that a command describes. A body is JSON and says so. -/
def requestOf (answers : List Json) (j : Json) : HttpRequest :=
  let target := resolved answers answers.length (text "path" j)
  let method := HttpMethod.ofWord (textOr "method" "GET" j)
  match j.member? "body" with
  | some body =>
    ⟨method, target, headersOf j ++ [("content-type", "application/json")], body.render⟩
  | none => ⟨method, target, headersOf j, text "raw" j⟩

def bodyJson : HttpBody → Json
  | .empty => .null
  | .text s => if s.isEmpty then .null else s
  | .json value => value

def responseJson (r : HttpResponse) : Json := obj [("status", r.status), ("body", bodyJson r.body)]

/-! ### Sessions -/

/-- Makes the store of audit entries fail or work again. -/
def setFault (what : String) (on : Bool) (store : MemoryAudit) : MemoryAudit :=
  match what with
  | "ping" => { store with failsPing := on }
  | "commit" => { store with failsCommit := on }
  | _ => store

def httpAnswer (s : Serving MemoryAudit StagedEntries) (answers : List Json) (j : Json) :
    Acting (Gateway MemoryAudit) Json := do
  match name j with
  | "close" =>
    Serving.schedule .close
    return .null
  | "fail" =>
    modify fun g =>
      { g with line.store := setFault (text "what" j) (flag "on" j) g.line.store }
    return .null
  | _ => return responseJson (← s.serve (requestOf answers j))

/-- The answers to commands, latest first. -/
def httpAnswers (s : Serving MemoryAudit StagedEntries) :
    List Json → List Json → Acting (Gateway MemoryAudit) (List Json)
  | answers, [] => return answers
  | answers, j :: rest => do
    let answer ← httpAnswer s answers j
    httpAnswers s (answer :: answers) rest

def sessionRouter (j : Json) : Request → Reaction ProviderResponse :=
  if text "router" j = "none" then noProvider else echo

def httpSession (j : Json) : Session Unit Json := do
  let c : GatewayConfig ← fieldOr "config" .standard j
  let seeds : List Policy ← fieldOr "seed" [] j
  let redact ← redactorOf (member "processor" j)
  let engine ← match member "engine" j with
    | .null => pure DecisionEngine.ofStore
    | engine => engineOfCommand engine
  match ← ambient (c.plan true true none).run with
  | .error e => throw (setupFailure e)
  | .ok (_, audit) =>
    let store := seeds.foldl (fun s p => s.seed p) MemoryStore.empty
    let s : Serving MemoryAudit StagedEntries :=
      ⟨some MemoryAudit.backend, ⟨sessionRouter j, redact⟩, ⟨engine, c.requestTimeout⟩,
        c.gate none, if flag "prometheus" j then some "" else none⟩
    let start ← ambient (Gateway.ofConfig c audit store MemoryAudit.empty)
    separately start do
      let answers ← httpAnswers s [] (items "steps" j)
      drain s.backend
      let kept := (← get).line.store
      return obj [("steps", .array answers.reverse), ("entries", kept.committed)]

end Governance.Console
