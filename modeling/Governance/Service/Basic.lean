import Governance.Listing.Basic
import Governance.Service.Gate
import Governance.Service.Trial
import Governance.Store.Memory

/-!
# The policy service

What tenants can do with policies: create, fetch, list, change, delete, try and transfer them and read
their histories. Input is checked first, then the gate is asked, and only then does the store change
anything.
-/

namespace Governance.Service

open ServiceProgram

/-- The answer for a policy that may be absent. -/
def orNotFound {α : Type} (id : PolicyId) : Option α → ServiceProgram α
  | some a => pure a
  | none => throw (.notFound id)

/-- Goes on unless there are faults. -/
def unlessFaulty (faults : List FieldFault) : ServiceProgram Unit :=
  if faults.isEmpty then pure () else throw (.invalid faults)

def about (tenant : TenantId) (id : PolicyId) : List (String × Json) :=
  [("tenant", .string tenant.text), ("policy_id", .string id.text)]

/-- Creates the policy that a draft describes. -/
def create (gate : Gate) (tenant : TenantId) (draft : PolicyDraft) (actor : String) :
    ServiceProgram Policy := do
  unlessFaulty draft.faults
  gate.authorizeCreate tenant draft.effectiveTier
  let p ← ask (.create tenant draft actor)
  report .info "policy created" (about tenant p.id ++ [("name", .string p.name)])
  return p

def fetch (tenant : TenantId) (id : PolicyId) : ServiceProgram Policy := do
  orNotFound id (← ask (.get tenant id))

def list (tenant : TenantId) (query : ListingQuery) : ServiceProgram ListedPolicies := do
  let listing := query.normalize
  let page ← ask (.list tenant listing)
  return ⟨page.items, page.pagination listing⟩

def update (tenant : TenantId) (id : PolicyId) (patch : PolicyPatch) (actor : String) :
    ServiceProgram Policy := do
  unlessFaulty patch.faults
  Gate.authorizeModify tenant id
  let p ← orNotFound id (← ask (.update tenant id patch actor))
  report .debug "policy update applied" (about tenant id ++ [("version", .ofInt p.version.toInt)])
  return p

def delete (tenant : TenantId) (id : PolicyId) (actor : String) : ServiceProgram Unit := do
  Gate.authorizeModify tenant id
  if ← ask (.delete tenant id actor) then report .info "policy deleted" (about tenant id)
  else throw (.notFound id)

def reportAll : List Event → ServiceProgram Unit
  | [] => pure ()
  | e :: rest => do
    report e.level e.message e.fields
    reportAll rest

/-- Puts a made-up request before a policy. -/
def tryOut (tenant : TenantId) (id : PolicyId) (trial : TrialRequest) :
    ServiceProgram TrialResult := do
  if Text.isBlank trial.query then
    throw (.invalid [⟨"query", "Query is required for testing"⟩])
  let p ← fetch tenant id
  let r := trial.toRequest tenant
  reportAll (conditionEvents r 0 p.conditions)
  return p.tryOn r

/-- The history of a policy, latest first; a policy that was deleted still has one. -/
def revisions (tenant : TenantId) (id : PolicyId) : ServiceProgram (List Revision) := do
  let found ← ask (.revisions tenant id)
  if found.isEmpty then
    let _ ← orNotFound id (← ask (.get tenant id))
  return found

/-- All policies of a tenant. -/
def exportAll (tenant : TenantId) : ServiceProgram PolicyExport := do
  let policies ← ask (.exportAll tenant)
  return ⟨policies, ← now, tenant⟩

/-! ### Imports -/

/-- The most drafts of an import. -/
def largestImport : Nat := 100

/-- The faults of drafts, each under the index of its draft. -/
def draftsFaults (index : Nat) : List PolicyDraft → List FieldFault
  | [] => []
  | draft :: rest =>
    draft.faults.map (fun f => ⟨"policies[" ++ toString index ++ "]." ++ f.field, f.message⟩) ++
      draftsFaults (index + 1) rest

/-- The mode of an import request, or what is wrong with the request. -/
def importMode (r : ImportRequest) : Except (List FieldFault) ImportMode :=
  match ImportMode.ofText? (r.mode.getD "") with
  | none => .error [⟨"mode", "Mode must be one of: skip, error, overwrite"⟩]
  | some mode =>
    if r.policies.isEmpty then .error [⟨"policies", "At least one policy is required"⟩]
    else if largestImport < r.policies.length then
      .error [⟨"policies", "Maximum " ++ toString largestImport ++ " policies per import"⟩]
    else if (draftsFaults 0 r.policies).isEmpty then .ok mode
    else .error (draftsFaults 0 r.policies)

/-- Checks the tiers of drafts in order and collects the names of those that would be new policies of
the tenant. -/
def newNames (gate : Gate) (tenant : TenantId) :
    List String → List PolicyDraft → ServiceProgram (List String)
  | names, [] => pure names
  | names, draft :: rest =>
    match draft.effectiveTier with
    | .tenant => do
      let existing ← ask (.findByName tenant draft.name)
      if existing.isNone && !names.contains draft.name then
        newNames gate tenant (draft.name :: names) rest
      else newNames gate tenant names rest
    | tier => do
      gate.authorizeCreate tenant tier
      newNames gate tenant names rest

/-- Checks that drafts may be imported. -/
def authorizeImport (gate : Gate) (tenant : TenantId) (drafts : List PolicyDraft) :
    ServiceProgram Unit := do
  let more := (← newNames gate tenant [] drafts).length
  if 0 < more && !gate.enterprise then
    let held ← ask (.countTenantTier tenant)
    if !gate.admits held more then throw (.refused (.limitReached gate.limit))

/-- Imports drafts. Nothing is written unless all of them are valid and admitted. -/
def importAll (gate : Gate) (tenant : TenantId) (r : ImportRequest) (actor : String) :
    ServiceProgram ImportReport := do
  match importMode r with
  | .error faults => throw (.invalid faults)
  | .ok mode =>
    authorizeImport gate tenant r.policies
    let done ← ask (.importAll tenant r.policies mode actor)
    report .info "Import completed" [("tenant", .string tenant.text), ("mode", .string mode.word),
      ("total", .ofNat r.policies.length), ("created", .ofNat done.created),
      ("updated", .ofNat done.updated), ("skipped", .ofNat done.skipped),
      ("errors", .ofNat done.errors.length)]
    return done

/-! ### Over a store in memory -/

def answer : (c : ServiceCall) → Acting MemoryStore c.Answer
  | .store c => MemoryStore.answer c
  | .now => StateT.lift Ambient.now
  | .report e => StateT.lift (Ambient.emit e.level e.message e.fields)

/-- Runs a computation of the service over a store in memory. -/
def run {α : Type} (p : ServiceProgram α) : Acting MemoryStore (Except ServiceError α) :=
  Program.run answer p.run

end Governance.Service
