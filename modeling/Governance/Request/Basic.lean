import Governance.Decimal.Shortest
import Governance.Identifier
import Governance.Json.Printer
import Governance.Json.Value

/-!
# Requests

What a tenant sends to a provider: a query, who asks, and facts about the circumstances. Policies
see a request through its facts only.
-/

namespace Governance

/-- Whoever sends a request. -/
structure User where
  id : String
  email : String
  role : String
  department : Option String
  permissions : List String
  tenant : Option String
  deriving DecidableEq, Repr

/-- A user of whom nothing is known. -/
def User.unknown : User := ⟨"", "", "", none, [], none⟩

/-- A request as policies see it. -/
structure Request where
  tenant : TenantId
  query : String
  kind : String
  user : User
  client : Option String
  context : List (String × Json)
  deriving BEq, Repr

/-- A request with nothing but a query. -/
def Request.plain (tenant : TenantId) (query : String) : Request :=
  ⟨tenant, query, "", User.unknown, none, []⟩

/-!
## Facts of a request

A field names a fact: the query, the kind of request, an aspect of the user, or an entry of the
context. Other fields cannot be addressed at all. A fact is compared by its text; a fact that is
absent has none, and null counts as absent.
-/

open Json

/-- The value that a field of a request has. -/
inductive Fact where
  | absent
  | text (value : String)
  | number (value : Float)
  | flag (value : Bool)
  | sequence (items : List Fact)
  deriving Repr

namespace Fact

/-- The text of a number: no fraction unless it has one, and no sign for zero. -/
def numberText (x : Float) : List Char :=
  if x == 0.0 then ['0'] else Decimal.Layout.plain.text x

mutual

/-- The fact that a JSON value stands for. Objects are facts by their compact text. -/
def ofJson : Json → Fact
  | .null => .absent
  | .string s => .text s
  | .bool b => .flag b
  | .number n => .number n.toFloat
  | .array items => .sequence (ofItems items)
  | .object members => .text (Json.object members).render

/-- The facts that the values of an array stand for. -/
def ofItems : List Json → List Fact
  | [] => []
  | item :: rest => ofJson item :: ofItems rest

end

mutual

/-- The text of a fact inside another one; what is absent leaves no trace. -/
def display : Fact → List Char
  | .absent => []
  | .text s => s.toList
  | .number x => numberText x
  | .flag true => "true".toList
  | .flag false => "false".toList
  | .sequence items => '[' :: displayItems items ++ [']']

/-- The texts of facts with blanks between them. -/
def displayItems : List Fact → List Char
  | [] => []
  | [item] => display item
  | item :: next :: rest => display item ++ ' ' :: displayItems (next :: rest)

end

/-- Whether there is no fact. -/
def isAbsent : Fact → Bool
  | .absent => true
  | _ => false

/-- The text by which a fact is compared, if there is a fact. -/
def render (f : Fact) : Option String :=
  if f.isAbsent then none else some (String.ofList f.display)

end Fact

/-- What a field addresses. -/
inductive Address where
  | query
  | kind
  | user (aspect : String)
  | context (key : String)
  deriving DecidableEq, Repr

/-- The rest of a text behind a beginning. -/
def afterStart? (start text : String) : Option String :=
  if start.toList.isPrefixOf text.toList then
    some (String.ofList (text.toList.drop start.length))
  else none

/-- What a field addresses, if anything. -/
def Address.ofField? (field : String) : Option Address :=
  if field = "query" then some .query
  else if field = "request_type" then some .kind
  else match afterStart? "user." field with
    | some aspect => some (.user aspect)
    | none => (afterStart? "context." field).map .context

/-- The fact that an aspect of a user is. -/
def User.fact (u : User) (aspect : String) : Fact :=
  let optional := fun (value : Option String) => match value with
    | some s => Fact.text s
    | none => .absent
  if aspect = "id" then .text u.id
  else if aspect = "email" then .text u.email
  else if aspect = "role" then .text u.role
  else if aspect = "department" then optional u.department
  else if aspect = "tenant_id" then optional u.tenant
  else if aspect = "permissions" then .sequence (u.permissions.map .text)
  else .absent

def Request.factAt (r : Request) : Address → Fact
  | .query => .text r.query
  | .kind => .text r.kind
  | .user aspect => r.user.fact aspect
  | .context key => match lookup key r.context with
    | some value => Fact.ofJson value
    | none => .absent

def isAddressable (field : String) : Bool := (Address.ofField? field).isSome

/-- The fact that a field names; absent when the field addresses nothing. -/
def Request.fact (r : Request) (field : String) : Fact :=
  match Address.ofField? field with
  | some address => r.factAt address
  | none => .absent

end Governance
