import Governance.Policy.Codec
import Governance.Request.Basic

/-!
# Requests in JSON

The written form of users and requests and the readers of these forms.
-/

namespace Governance

open Json

def User.toJson (u : User) : Json := ofEntries [
  entry "id" (.string u.id),
  entry "email" (.string u.email),
  entry "role" (.string u.role),
  entryIfSome "department" u.department .string,
  entryUnless u.permissions.isEmpty "permissions" (ofStrings u.permissions),
  entryIfSome "tenant_id" u.tenant .string]

def User.fieldNames : List String :=
  ["id", "email", "role", "department", "permissions", "tenant_id"]

/-- A user; everything may be left out. -/
def User.ofJson : Decoder User := fun j => do
  let f ← asFields User.fieldNames j
  return {
    id := ← f.orElse "id" "" asString
    email := ← f.orElse "email" "" asString
    role := ← f.orElse "role" "" asString
    department := ← f.optional "department" asString
    permissions := ← f.orElse "permissions" [] (asList asString)
    tenant := ← f.optional "tenant_id" asString }

def Request.toJson (r : Request) : Json := ofEntries [
  entry "tenant_id" r.tenant.toJson,
  entry "query" (.string r.query),
  entry "request_type" (.string r.kind),
  entry "user" r.user.toJson,
  entryIfSome "client_id" r.client .string,
  entryUnless r.context.isEmpty "context" (.object r.context)]

/-- A request; tenant and query have to be there. -/
def Request.ofJson : Decoder Request := fun j => do
  let f ← asFields ["tenant_id", "query", "request_type", "user", "client_id", "context"] j
  return {
    tenant := ← f.required "tenant_id" Identifier.ofJson
    query := ← f.required "query" asString
    kind := ← f.orElse "request_type" "" asString
    user := ← f.orElse "user" User.unknown User.ofJson
    client := ← f.optional "client_id" asString
    context := ← f.orElse "context" [] asMembers }

/-! ### Coded types -/

instance : Coded User := ⟨User.toJson, User.ofJson⟩

instance : Coded Request := ⟨Request.toJson, Request.ofJson⟩

end Governance
