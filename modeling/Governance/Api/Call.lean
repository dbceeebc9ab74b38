import Governance.Api.Envelope
import Governance.Api.Payload
import Governance.Http.Message
import Governance.Json.Coded
import Governance.Listing.Basic
import Governance.Service.Trial
import Governance.Text.Basic
import Governance.Text.Percent
import Governance.Transfer.Basic

/-!
# What is asked over HTTP

The paths that something can be asked of, and what a request asks.
-/

namespace Governance

/-!
## Routes

A route is a path that something can be asked of. Paths are compared segment by segment as they are
written; a segment that names a policy is what it stands for once its escapes are read. `import` and
`export` are routes of their own and never name a policy.
-/

/-- A path that something can be asked of. A policy is named by its segment as it is written. -/
inductive Route where
  | policies
  | importing
  | exporting
  | policy (segment : String)
  | trial (segment : String)
  | history (segment : String)
  | governing
  | health
  | metrics
  | exposition
  deriving DecidableEq, Repr

namespace Route

/-- A route to a policy, whose segment must not be empty. -/
def naming? (route : String → Route) (segment : String) : Option Route :=
  if segment.isEmpty then none else some (route segment)

def ofSegments? : List String → Option Route
  | ["api", "v1", "policies"] => some .policies
  | ["api", "v1", "policies", "import"] => some .importing
  | ["api", "v1", "policies", "export"] => some .exporting
  | ["api", "v1", "policies", segment] => naming? .policy segment
  | ["api", "v1", "policies", segment, "test"] => naming? .trial segment
  | ["api", "v1", "policies", segment, "versions"] => naming? .history segment
  | ["api", "v1", "process"] => some .governing
  | ["health"] => some .health
  | ["metrics"] => some .metrics
  | ["metrics", "prometheus"] => some .exposition
  | _ => none

def ofPath? (path : String) : Option Route :=
  match Text.splitAtMark '/' path.toList with
  | [] :: segments => ofSegments? (segments.map String.ofList)
  | _ => none

def segments : Route → List String
  | .policies => ["api", "v1", "policies"]
  | .importing => ["api", "v1", "policies", "import"]
  | .exporting => ["api", "v1", "policies", "export"]
  | .policy segment => ["api", "v1", "policies", segment]
  | .trial segment => ["api", "v1", "policies", segment, "test"]
  | .history segment => ["api", "v1", "policies", segment, "versions"]
  | .governing => ["api", "v1", "process"]
  | .health => ["health"]
  | .metrics => ["metrics"]
  | .exposition => ["metrics", "prometheus"]

def path (route : Route) : String := String.join (route.segments.map fun s => "/" ++ s)

end Route

/-!
## Calls over HTTP

What can be asked of the gateway over HTTP, and how it is read out of a request. A request that asks for
nothing is answered at once. It is looked at in this order: the path, the method, who calls, the policy
that is named, the body.
-/

open Json

/-- Whoever calls: a tenant, and the user that changes are recorded of. -/
structure Caller where
  tenant : TenantId
  actor : String
  deriving DecidableEq, Repr

/-- What can be asked of the policies of a tenant. -/
inductive PolicyCall where
  | list (query : ListingQuery)
  | create (draft : PolicyDraft)
  | fetch (id : PolicyId)
  | update (id : PolicyId) (patch : PolicyPatch)
  | delete (id : PolicyId)
  | tryOut (id : PolicyId) (trial : TrialRequest)
  | history (id : PolicyId)
  | importAll (request : ImportRequest)
  | exportAll
  deriving Repr

/-- What can be asked of the gateway. -/
inductive ApiCall where
  | policies (caller : Caller) (call : PolicyCall)
  | govern (caller : Caller) (query : QueryPayload)
  | health
  | metrics
  | exposition
  deriving Repr

def HttpResponse.failure (status : Nat) (envelope : Envelope) : HttpResponse :=
  .json status envelope.toJson

/-- What is read out of a request, or the answer at once. -/
abbrev Reading (α : Type) := Except HttpResponse α

namespace Caller

/-- The header that names the tenant. -/
def tenantHeader : String := "x-tenant-id"

/-- The header that names the user. -/
def userHeader : String := "x-user-id"

/-- The user that changes are recorded of when no header names one. -/
def unnamed : String := "system"

/-- What a header says, without blanks around it and unless that is nothing. -/
def headerText? (r : HttpRequest) (name : String) : Option String :=
  ((r.header? name).map Text.trimmed).filter fun text => !text.isEmpty

def ofRequest (r : HttpRequest) : Reading Caller :=
  match headerText? r tenantHeader with
  | some tenant => .ok ⟨⟨tenant⟩, (headerText? r userHeader).getD unnamed⟩
  | none => .error (.failure 401 (.plain "UNAUTHORIZED" "Missing tenant ID"))

end Caller

/-! ### Policies in paths -/

def PolicyId.ofSegment (segment : String) : Reading PolicyId :=
  match Text.percentDecode? segment with
  | none => .error ⟨400, .text "Invalid URL: Invalid UTF-8 in `id`"⟩
  | some text => match Identifier.ofText .policy text with
    | .error _ => .error (.failure 400 (.plain "BAD_REQUEST" "Invalid policy ID format"))
    | .ok id => .ok id

/-! ### Query strings -/

def truthValue? : String → Option Bool
  | "true" => some true
  | "false" => some false
  | _ => none

/-- The listing that a query string asks for. What cannot be read counts as not asked for. -/
def ListingQuery.ofQueryString (q : QueryString) : ListingQuery :=
  let number := Text.boundedInteger? Int64.minValue.toInt Int64.maxValue.toInt
  { kind := (q.find? "type").bind PolicyKind.ofWord?
    enabled := (q.find? "enabled").bind truthValue?
    search := q.find? "search"
    sortBy := q.find? "sort_by"
    sortOrder := q.find? "sort_order"
    page := (q.find? "page").bind number
    pageSize := (q.find? "page_size").bind number }

/-! ### Bodies -/

/-- What is wrong with a body. -/
inductive BodyFault where
  | otherType
  | tooLong
  | text (fault : TextFault)
  deriving DecidableEq, Repr

def BodyFault.message : BodyFault → String
  | .otherType => "Expected request with \x60Content-Type: application/json\x60"
  | .tooLong => "Failed to buffer the request body: length limit exceeded"
  | .text .notJson => "Failed to parse the request body as JSON"
  | .text .otherForm => "Failed to deserialize the JSON body into the target type"

/-- The most bytes that a body may have. -/
def longestBody : Nat := 2 * 1024 * 1024

def HttpRequest.hasJson (r : HttpRequest) : Bool :=
  ((r.header? "content-type").bind MediaType.parse?).any MediaType.isJson

def bodyValue {α : Type} (interest : Interest) (decode : Decoder α) (r : HttpRequest) :
    Except BodyFault α :=
  if !r.hasJson then .error .otherType
  else if longestBody < r.body.utf8ByteSize then .error .tooLong
  else (readAs interest decode r.body).mapError .text

def readBody {α : Type} (interest : Interest) (decode : Decoder α) (r : HttpRequest) :
    Reading α :=
  (bodyValue interest decode r).mapError fun fault =>
    .failure 400 (.plain "INVALID_JSON" ("Invalid JSON: " ++ fault.message))

/-- What matters of the conditions and actions in a body. -/
def rulesInterest : List (String × Interest) :=
  [("conditions", .items (.ofFields Condition.fieldNames [])),
    ("actions", .items (.ofFields Action.fieldNames []))]

def PolicyDraft.interest : Interest := .ofFields PolicyDraft.fieldNames rulesInterest

def PolicyPatch.interest : Interest := .ofFields PolicyPatch.fieldNames rulesInterest

def ImportRequest.interest : Interest :=
  .ofFields ImportRequest.fieldNames [("policies", .items PolicyDraft.interest)]

/-- What matters of the user in a body. -/
def userInterest : List (String × Interest) := [("user", .ofFields User.fieldNames [])]

def TrialRequest.interest : Interest := .ofFields TrialRequest.fieldNames userInterest

def QueryPayload.interest : Interest := .ofFields QueryPayload.fieldNames userInterest

/-! ### Calls -/

/-- A call with a policy in its path and nothing in its body. -/
def PolicyCall.naming (call : PolicyId → PolicyCall) (segment : String) : Reading PolicyCall := do
  return call (← PolicyId.ofSegment segment)

/-- What a request asks of the policies by a route and a method, if anything. -/
def PolicyCall.read? (r : HttpRequest) (route : Route) (method : HttpMethod) :
    Option (Reading PolicyCall) :=
  match route, method with
  | .policies, .get => some (.ok (.list (.ofQueryString (.ofText r.query))))
  | .policies, .post => some do
    return .create (← readBody PolicyDraft.interest PolicyDraft.ofJson r)
  | .importing, .post => some do
    return .importAll (← readBody ImportRequest.interest ImportRequest.ofJson r)
  | .exporting, .get => some (.ok .exportAll)
  | .policy segment, .get => some (naming .fetch segment)
  | .policy segment, .put => some do
    let id ← PolicyId.ofSegment segment
    return .update id (← readBody PolicyPatch.interest PolicyPatch.ofJson r)
  | .policy segment, .delete => some (naming .delete segment)
  | .trial segment, .post => some do
    let id ← PolicyId.ofSegment segment
    return .tryOut id (← readBody TrialRequest.interest TrialRequest.ofJson r)
  | .history segment, .get => some (naming .history segment)
  | _, _ => none

namespace ApiCall

/-- The query that a request wants to be governed, which must not be blank. -/
def readQuery (r : HttpRequest) : Reading QueryPayload := do
  let query ← readBody QueryPayload.interest QueryPayload.ofJson r
  if Text.isBlank query.query then
    throw (.failure 400 (.plain "VALIDATION_ERROR" "Query is required"))
  return query

/-- What a request asks by a route and a method, if anything. -/
def read? (r : HttpRequest) (route : Route) (method : HttpMethod) : Option (Reading ApiCall) :=
  match route, method with
  | .governing, .post => some do
    let caller ← Caller.ofRequest r
    return .govern caller (← readQuery r)
  | .health, .get => some (.ok .health)
  | .metrics, .get => some (.ok .metrics)
  | .exposition, .get => some (.ok .exposition)
  | _, _ => (PolicyCall.read? r route method).map fun call => do
    let caller ← Caller.ofRequest r
    return .policies caller (← call)

/-- Whatever can be got can be asked for without its body. -/
def methodOf (r : HttpRequest) : HttpMethod := if r.method = .head then .get else r.method

def ofRequest (r : HttpRequest) : Reading ApiCall :=
  match Route.ofPath? r.path with
  | none => .error (.bare 404)
  | some route => match read? r route (methodOf r) with
    | none => .error (.bare 405)
    | some reading => reading

end ApiCall

end Governance
