import Governance.Request.Codec

/-!
# What callers send and receive

The bodies of calls over HTTP that are not written forms of something else: a policy and a history as
they are answered, and a query that asks to be governed.
-/

namespace Governance

open Json

/-- A policy as it is answered. -/
structure PolicyPayload where
  policy : Policy
  deriving BEq, Repr

def PolicyPayload.toJson (p : PolicyPayload) : Json := ofEntries [entry "policy" p.policy.toJson]

def PolicyPayload.ofJson : Decoder PolicyPayload := fun j => do
  let f ← asFields ["policy"] j
  return ⟨← f.required "policy" Policy.ofJson⟩

/-- A history as it is answered. -/
structure HistoryPayload where
  id : PolicyId
  revisions : List Revision
  deriving Repr

def HistoryPayload.toJson (h : HistoryPayload) : Json := ofEntries [
  entry "policy_id" h.id.toJson,
  entry "versions" (ofList h.revisions Revision.toJson)]

def HistoryPayload.ofJson : Decoder HistoryPayload := fun j => do
  let f ← asFields ["policy_id", "versions"] j
  return {
    id := ← f.required "policy_id" Identifier.ofJson
    revisions := ← f.required "versions" (asList Revision.ofJson) }

/-- A query that asks to be governed. -/
structure QueryPayload where
  query : String
  kind : Option String
  user : Option User
  client : Option String
  context : List (String × Json)
  deriving BEq, Repr

def QueryPayload.toJson (q : QueryPayload) : Json := ofEntries [
  entry "query" (.string q.query),
  entryIfSome "request_type" q.kind .string,
  entryIfSome "user" q.user User.toJson,
  entryIfSome "client_id" q.client .string,
  entryUnless q.context.isEmpty "context" (.object q.context)]

def QueryPayload.fieldNames : List String :=
  ["query", "request_type", "user", "client_id", "context"]

/-- A query that asks to be governed; only the query itself has to be there. -/
def QueryPayload.ofJson : Decoder QueryPayload := fun j => do
  let f ← asFields QueryPayload.fieldNames j
  return {
    query := ← f.required "query" asString
    kind := ← f.optional "request_type" asString
    user := ← f.optional "user" User.ofJson
    client := ← f.optional "client_id" asString
    context := ← f.orElse "context" [] asMembers }

/-- The request that a caller sends with a query. The caller is the user unless the body names one. -/
def QueryPayload.toRequest (q : QueryPayload) (tenant : TenantId) (actor : String) : Request :=
  ⟨tenant, q.query, q.kind.getD "", q.user.getD { User.unknown with id := actor }, q.client,
    q.context⟩

/-! ### Coded types -/

instance : Coded PolicyPayload := ⟨PolicyPayload.toJson, PolicyPayload.ofJson⟩

instance : Coded HistoryPayload := ⟨HistoryPayload.toJson, HistoryPayload.ofJson⟩

instance : Coded QueryPayload := ⟨QueryPayload.toJson, QueryPayload.ofJson⟩

end Governance
