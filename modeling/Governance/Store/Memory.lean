import Governance.Store.Basic
import Governance.Store.Keyed

/-!
# A store in memory

Policies and histories are kept under the identifier of their policy. Identifiers are shared by all
tenants; every other operation sees the policies of one tenant only. An import works on a copy that
takes the place of the contents when it is committed, so that an import that is not committed leaves
nothing behind.
-/

namespace Governance

/-- What a store holds: the policies, and for each the revisions in the order in which they were
recorded. -/
structure StoreContents where
  policies : Keyed PolicyId Policy
  histories : Keyed PolicyId (List Revision)
  deriving Repr

/-- A store in memory. Writing revisions and committing imports can be made to fail. -/
structure MemoryStore where
  contents : StoreContents
  losesRevisions : Bool
  rejectsCommits : Bool
  deriving Repr

namespace StoreContents

def empty : StoreContents := ⟨.empty, .empty⟩

/-- The policy of a tenant with that identifier. -/
def owned (s : StoreContents) (tenant : TenantId) (id : PolicyId) : Option Policy :=
  (s.policies.get? id).filter fun p => p.tenant = tenant

def ownedBy (s : StoreContents) (tenant : TenantId) : List Policy :=
  s.policies.values.filter fun p => p.tenant = tenant

/-- The policy of a tenant with that name. -/
def named (s : StoreContents) (tenant : TenantId) (name : String) : Option Policy :=
  (s.ownedBy tenant).find? fun p => p.name = name

/-- Keeps a policy under its identifier. -/
def keep (s : StoreContents) (p : Policy) : StoreContents :=
  { s with policies := s.policies.put p.id p }

/-- Takes the policy with an identifier away. -/
def remove (s : StoreContents) (id : PolicyId) : StoreContents :=
  { s with policies := s.policies.erase id }

/-- The revisions recorded under an identifier, the first one first. -/
def history (s : StoreContents) (id : PolicyId) : List Revision := (s.histories.get? id).getD []

/-- Adds a revision to the history of an identifier. -/
def append (s : StoreContents) (id : PolicyId) (r : Revision) : StoreContents :=
  { s with histories := s.histories.put id (s.history id ++ [r]) }

/-- Whether a revision may stand before another one when the latest come first. -/
def isLater (a b : Revision) : Bool :=
  b.version < a.version || (a.version = b.version && b.changedAt.le a.changedAt)

/-- The revisions of a tenant's policies under an identifier, latest first. -/
def revisions (s : StoreContents) (tenant : TenantId) (id : PolicyId) : List Revision :=
  ((s.history id).filter fun r => r.snapshot.tenant = tenant).mergeSort isLater

end StoreContents

namespace MemoryStore

open Ambient

/-- A store without any policy in which nothing fails. -/
def empty : MemoryStore := ⟨.empty, false, false⟩

/-- Keeps a policy as it is. -/
def seed (p : Policy) (s : MemoryStore) : MemoryStore := { s with contents := s.contents.keep p }

def change (f : StoreContents → StoreContents) : Acting MemoryStore Unit :=
  modify fun s => { s with contents := f s.contents }

def report (level : Level) (message : String) (fields : List (String × Json)) :
    Acting MemoryStore Unit :=
  StateT.lift (emit level message fields)

/-- Records what a change made of a policy. -/
def record (p : Policy) (change : ChangeKind) (summary actor : String) :
    Acting MemoryStore Unit := do
  if (← get).losesRevisions then
    StateT.lift (emitAll [lostRevision p.id change "version store unavailable"])
  else
    let id ← StateT.lift uuid
    let time ← StateT.lift now
    MemoryStore.change fun s => s.append p.id (Revision.capture id time p change summary actor)

/-- Keeps the policy that a draft describes, unless its identifier is taken. -/
def insert (tenant : TenantId) (draft : PolicyDraft) (actor : String) :
    Acting MemoryStore (Except StoreError Policy) := do
  let fresh ← StateT.lift (identifier .policy)
  let time ← StateT.lift now
  match draft.toPolicy fresh tenant actor time with
  | .error word => return .error (.unknownKind word)
  | .ok p =>
    if ((← get).contents.policies.get? p.id).isSome then
      return .error (.database ("policy id " ++ p.id.text ++ " already exists"))
    change (·.keep p)
    return .ok p

def about (tenant : TenantId) (id : PolicyId) : List (String × Json) :=
  [("tenant", .string tenant.text), ("policy_id", .string id.text)]

/-- Keeps the policy that a draft describes and records that it was created. -/
def create (tenant : TenantId) (draft : PolicyDraft) (actor : String) :
    Acting MemoryStore (Except StoreError Policy) := do
  match ← insert tenant draft actor with
  | .error e => return .error e
  | .ok p =>
    record p .create (changeSummary .create p.version) actor
    report .debug "policy created" (about tenant p.id)
    return .ok p

/-- Applies a patch to a policy of the tenant. A patch that is empty leaves everything alone. -/
def update (tenant : TenantId) (id : PolicyId) (patch : PolicyPatch) (actor : String) :
    Acting MemoryStore (Option Policy) := do
  match (← get).contents.owned tenant id with
  | none => return none
  | some p =>
    if patch.isEmpty then return some p
    let time ← StateT.lift now
    let next := p.applyPatch patch actor time
    let kind := ChangeKind.ofTransition p.enabled next.enabled
    change (·.keep next)
    record next kind (changeSummary kind next.version) actor
    report .debug "policy updated" (about tenant id ++ [("version", .ofInt next.version.toInt)])
    return some next

/-- Removes a policy of the tenant. Tells whether there was one. -/
def delete (tenant : TenantId) (id : PolicyId) (actor : String) : Acting MemoryStore Bool := do
  match (← get).contents.owned tenant id with
  | none => return false
  | some p =>
    record p .delete (changeSummary .delete p.version) actor
    change (·.remove id)
    report .debug "policy deleted" (about tenant id)
    return true

/-- Replaces the policy that has the name of a draft, unless it may never be changed. -/
def replace (p : Policy) (draft : PolicyDraft) (actor : String) :
    Acting MemoryStore ImportOutcome := do
  match (← get).contents.policies.get? p.id with
  | none => return .failed draft.name (replacementMessage draft.name "policy vanished")
  | some existing =>
    if existing.isSystem then
      return .failed draft.name
        (replacementMessage draft.name "system policies are immutable")
    let time ← StateT.lift now
    let next := existing.overwrite draft actor time
    change fun s => { s with policies := s.policies.put p.id next }
    record next .update (changeSummary .update next.version) actor
    return .updated draft.name

/-- Imports one draft. -/
def importOne (tenant : TenantId) (mode : ImportMode) (actor : String) (draft : PolicyDraft) :
    Acting MemoryStore ImportOutcome := do
  match (← get).contents.named tenant draft.name, mode with
  | some _, .skip => return .skipped draft.name
  | some _, .error => return .failed draft.name (takenMessage draft.name)
  | some p, .overwrite => replace p draft actor
  | none, _ =>
    match ← insert tenant draft actor with
    | .ok p =>
      record p .create importSummary actor
      return .created draft.name
    | .error e => return .failed draft.name (creationMessage draft.name e.message)

/-- Imports drafts one after the other. -/
def importEach (tenant : TenantId) (mode : ImportMode) (actor : String) :
    List PolicyDraft → Acting MemoryStore (List ImportOutcome)
  | [] => return []
  | draft :: rest => do
    let outcome ← importOne tenant mode actor draft
    return outcome :: (← importEach tenant mode actor rest)

/-- Imports drafts, all of them or none. -/
def importAll (tenant : TenantId) (drafts : List PolicyDraft) (mode : ImportMode)
    (actor : String) : Acting MemoryStore (Except StoreError ImportReport) := do
  let before ← get
  let outcomes ← importEach tenant mode actor drafts
  if before.rejectsCommits then
    set before
    return .error (.transaction "commit rejected")
  return .ok (.ofOutcomes outcomes)

def answer : (c : StoreCall) → Acting MemoryStore c.Answer
  | .create tenant draft actor => create tenant draft actor
  | .get tenant id => return .ok ((← get).contents.owned tenant id)
  | .findByName tenant name => return .ok ((← get).contents.named tenant name)
  | .list tenant listing => return .ok (listing.pageOf ((← get).contents.ownedBy tenant))
  | .countTenantTier tenant =>
    return .ok (((← get).contents.ownedBy tenant).filter fun p => p.tier = .tenant).length
  | .update tenant id patch actor => return .ok (← update tenant id patch actor)
  | .delete tenant id actor => return .ok (← delete tenant id actor)
  | .revisions tenant id => return .ok ((← get).contents.revisions tenant id)
  | .exportAll tenant =>
    return .ok (Listing.everything.pageOf ((← get).contents.ownedBy tenant)).items
  | .enabledPolicies tenant =>
    return .ok (((← get).contents.ownedBy tenant).filter (·.enabled))
  | .importAll tenant drafts mode actor => importAll tenant drafts mode actor

end MemoryStore

end Governance
