import Governance.Listing.Basic
import Governance.Policy.Codec
import Governance.Sql.Row
import Governance.Store.Basic

/-!
# The tables of policies and of their history

A policy is kept as a row, with conditions, actions and tags as documents. Identifier, tenant, tier and
origin are written once; an update writes all the rest. A row that can be read may still not be a policy:
then it is corrupt.
-/

namespace Governance.Sql

open Json

def policyTable : Table where
  name := "policies"
  columns := [("id", .text), ("tenant_id", .text), ("name", .text), ("description", .text),
    ("policy_type", .text), ("tier", .text), ("priority", .integer), ("enabled", .boolean),
    ("conditions", .document), ("actions", .document), ("category", .text), ("tags", .document),
    ("version", .integer), ("created_at", .instant), ("updated_at", .instant),
    ("created_by", .text), ("updated_by", .text)]
  isSpaced := false

namespace PolicyTable

/-- What defines the table. -/
def definition : List Command := [
  .define ("CREATE TABLE IF NOT EXISTS policies ( id TEXT PRIMARY KEY, tenant_id TEXT NOT NULL, " ++
    "name TEXT NOT NULL, description TEXT NOT NULL DEFAULT '', policy_type TEXT NOT NULL, " ++
    "tier TEXT NOT NULL DEFAULT 'tenant', priority INTEGER NOT NULL DEFAULT 0, " ++
    "enabled BOOLEAN NOT NULL DEFAULT TRUE, conditions JSONB NOT NULL, actions JSONB NOT NULL, " ++
    "category TEXT, tags JSONB NOT NULL DEFAULT '[]', version INTEGER NOT NULL DEFAULT 1, " ++
    "created_at TIMESTAMPTZ NOT NULL, updated_at TIMESTAMPTZ NOT NULL, " ++
    "created_by TEXT NOT NULL DEFAULT '', updated_by TEXT NOT NULL DEFAULT '' )"),
  .define "CREATE INDEX IF NOT EXISTS idx_policies_tenant ON policies (tenant_id)",
  .define "CREATE INDEX IF NOT EXISTS idx_policies_tenant_name ON policies (tenant_id, name)"]

/-! ### Writing -/

/-- The fields that say which policy a row is. -/
def keys (tenant : TenantId) (id : PolicyId) : List (String × Value) :=
  [("id", .text id.text), ("tenant_id", .text tenant.text)]

def rowOf (p : Policy) : Row :=
  keys p.tenant p.id ++ [
    ("name", .text p.name),
    ("description", .text p.description),
    ("policy_type", .text p.kind.word),
    ("tier", .text p.tier.word),
    ("priority", .integer p.priority.toInt),
    ("enabled", .boolean p.enabled),
    ("conditions", .document (ofList p.conditions Condition.toJson)),
    ("actions", .document (ofList p.actions Action.toJson)),
    ("category", .ofOption .text p.category),
    ("tags", .document (ofStrings p.tags)),
    ("version", .integer p.version.toInt),
    ("created_at", .instant p.createdAt),
    ("updated_at", .instant p.updatedAt),
    ("created_by", .text p.createdBy),
    ("updated_by", .text p.updatedBy)]

/-- The fields that change with a policy. -/
def changedFields (p : Policy) : List (String × Value) := [
  ("name", .text p.name),
  ("description", .text p.description),
  ("policy_type", .text p.kind.word),
  ("priority", .integer p.priority.toInt),
  ("enabled", .boolean p.enabled),
  ("conditions", .document (ofList p.conditions Condition.toJson)),
  ("actions", .document (ofList p.actions Action.toJson)),
  ("category", .ofOption .text p.category),
  ("tags", .document (ofStrings p.tags)),
  ("version", .integer p.version.toInt),
  ("updated_at", .instant p.updatedAt),
  ("updated_by", .text p.updatedBy)]

def insertion (p : Policy) : Command := .insert policyTable (rowOf p)

/-- Writes what may have changed of a policy. -/
def saving (p : Policy) : Command := .update policyTable (keys p.tenant p.id) (changedFields p)

def removal (tenant : TenantId) (id : PolicyId) : Command := .delete policyTable (keys tenant id)

/-! ### Reading -/

/-- The policy of a row, or why the row is corrupt. Every field is read before any of them is looked at. -/
def ofRow (r : Row) : Row.Read (Except StoreError Policy) := do
  let id ← r.text "id"
  let tenant ← r.text "tenant_id"
  let name ← r.text "name"
  let description ← r.text "description"
  let kindWord ← r.text "policy_type"
  let tierWord ← r.text "tier"
  let priority ← r.int32 "priority"
  let enabled ← r.boolean "enabled"
  let conditions ← r.document (asList Condition.ofJson) "conditions"
  let actions ← r.document (asList Action.ofJson) "actions"
  let category ← r.optional Row.text "category"
  let tags ← r.document (asList asString) "tags"
  let version ← r.int32 "version"
  let createdAt ← r.instant "created_at"
  let updatedAt ← r.instant "updated_at"
  let createdBy ← r.text "created_by"
  let updatedBy ← r.text "updated_by"
  return do
    let id ← (Identifier.ofText .policy id).mapError fun e => .corrupt e.message
    let tenant ← (Identifier.ofText .tenant tenant).mapError fun e => .corrupt e.message
    let some kind := PolicyKind.ofWord? kindWord | throw (.unknownKind kindWord)
    let some tier := PolicyTier.ofWord? tierWord
      | throw (.corrupt ("unknown policy tier `" ++ tierWord ++ "`"))
    return ⟨id, tenant, name, description, kind, tier, priority, enabled, conditions, actions,
      category, tags, version, createdAt, updatedAt, createdBy, updatedBy⟩

/-- That the row is a tenant's. -/
def isOf (tenant : TenantId) : Test := .compare "tenant_id" .equal (.bound (.text tenant.text))

def withId (tenant : TenantId) (id : PolicyId) (isLocked : Bool) : Command :=
  .select { Selection.all policyTable
      [.compare "id" .equal (.bound (.text id.text)), isOf tenant] with
    isLocked := isLocked }

def withName (tenant : TenantId) (name : String) : Command :=
  .select { Selection.all policyTable
      [isOf tenant, .compare "name" .equal (.bound (.text name))] with
    limit := some (.fixed 1) }

def enabledOf (tenant : TenantId) : Command :=
  .select (.all policyTable [isOf tenant, .compare "enabled" .equal .truth])

/-- The number of policies of a tenant that are its own. -/
def tenantTierCount (tenant : TenantId) : Command :=
  .count policyTable
    [isOf tenant, .compare "tier" .equal (.word PolicyTier.tenant.word)]

/-! ### Listings -/

/-- The tests that the rows of a listing pass. -/
def listingTests (tenant : TenantId) (l : Listing) : List Test :=
  isOf tenant ::
    (l.kind.toList.map fun kind => .compare "policy_type" .equal (.bound (.text kind.word))) ++
    (l.enabled.toList.map fun enabled => .compare "enabled" .equal (.bound (.boolean enabled))) ++
    (l.search.toList.map fun text =>
      .resembles ["name", "description"] ("%" ++ text ++ "%"))

/-- The number of policies on all pages of a listing. -/
def listingCount (tenant : TenantId) (l : Listing) : Command :=
  .count policyTable (listingTests tenant l)

/-- The order of a listing. Equal keys go by identifiers. -/
def listingOrder (l : Listing) : List OrderKey :=
  [⟨l.sort.word, some (if l.ascending then .ascending else .descending)⟩, ⟨"id", none⟩]

/-- The most rows that a command can pass over. -/
def largestOffset : Nat := Int64.maxValue.toInt.toNat

def listingPage (tenant : TenantId) (l : Listing) : Command :=
  .select { Selection.all policyTable (listingTests tenant l) with
    order := listingOrder l
    limit := some (.bound l.pageSize.toNat)
    offset := some (.bound (min l.offset.toNat largestOffset)) }

end PolicyTable

/-!
## Revisions

Rows are only ever added. A revision holds the whole policy as a document, and its tenant in a column of
its own.
-/

def revisionTable : Table where
  name := "policy_versions"
  columns := [("id", .uuid), ("policy_id", .text), ("tenant_id", .text), ("version", .integer),
    ("snapshot", .document), ("change_type", .text), ("change_summary", .text),
    ("changed_by", .text), ("changed_at", .instant)]
  isSpaced := false

namespace RevisionTable

def definition : List Command := [
  .define ("CREATE TABLE IF NOT EXISTS policy_versions ( id UUID PRIMARY KEY, " ++
    "policy_id TEXT NOT NULL, tenant_id TEXT NOT NULL, version INTEGER NOT NULL, " ++
    "snapshot JSONB NOT NULL, change_type TEXT NOT NULL, change_summary TEXT NOT NULL, " ++
    "changed_by TEXT NOT NULL, changed_at TIMESTAMPTZ NOT NULL )"),
  .define ("CREATE INDEX IF NOT EXISTS idx_policy_versions_policy ON policy_versions " ++
    "(policy_id, version DESC)")]

def rowOf (r : Revision) : Row := [
  ("id", .uuid r.id),
  ("policy_id", .text r.policy.text),
  ("tenant_id", .text r.snapshot.tenant.text),
  ("version", .integer r.version.toInt),
  ("snapshot", .document r.snapshot.toJson),
  ("change_type", .text r.change.word),
  ("change_summary", .text r.summary),
  ("changed_by", .text r.changedBy),
  ("changed_at", .instant r.changedAt)]

def insertion (r : Revision) : Command := .insert revisionTable (rowOf r)

/-- The revision of a row, or why the row is corrupt. -/
def ofRow (r : Row) : Row.Read (Except StoreError Revision) := do
  let id ← r.uuid "id"
  let policy ← r.text "policy_id"
  let version ← r.int32 "version"
  let snapshot ← r.document Policy.ofJson "snapshot"
  let changeWord ← r.text "change_type"
  let summary ← r.text "change_summary"
  let changedBy ← r.text "changed_by"
  let changedAt ← r.instant "changed_at"
  return do
    let policy ← (Identifier.ofText .policy policy).mapError fun e => .corrupt e.message
    let some change := ChangeKind.ofWord? changeWord
      | throw (.corrupt ("unknown change type `" ++ changeWord ++ "`"))
    return ⟨id, policy, version, snapshot, change, summary, changedBy, changedAt⟩

/-- The columns that are read. The tenant is known to whoever reads. -/
def readColumns : List String :=
  ["id", "policy_id", "version", "snapshot", "change_type", "change_summary", "changed_by",
    "changed_at"]

/-- The history of a policy of a tenant, latest revision first. -/
def historyOf (tenant : TenantId) (id : PolicyId) : Command :=
  .select {
    table := revisionTable
    columns := readColumns
    tests := [.compare "policy_id" .equal (.bound (.text id.text)), PolicyTable.isOf tenant]
    order := [⟨"version", some .descending⟩, ⟨"changed_at", some .descending⟩]
    limit := none
    offset := none
    isLocked := false }

end RevisionTable

end Governance.Sql
