import Governance.Json.Coded
import Governance.Policy.Basic
import Governance.Policy.Draft

/-!
# Policies in JSON

The written form of policies, drafts, patches and revisions, and the readers of these forms. Fields
that may be empty are left out when they are.
-/

namespace Governance

open Json

def Identifier.toJson {kind : IdKind} (id : Identifier kind) : Json := .string id.text

/-- An identifier, blank or not. -/
def Identifier.ofJson {kind : IdKind} : Decoder (Identifier kind) := fun j =>
  (asString j).map Identifier.mk

def PolicyKind.toJson (k : PolicyKind) : Json := .string k.word

def PolicyKind.ofJson : Decoder PolicyKind := asWord PolicyKind.ofWord?

def PolicyTier.toJson (t : PolicyTier) : Json := .string t.word

def PolicyTier.ofJson : Decoder PolicyTier := asWord PolicyTier.ofWord?

def ActionKind.toJson (k : ActionKind) : Json := .string k.word

def ActionKind.ofJson : Decoder ActionKind := asWord ActionKind.ofWord?

def ChangeKind.toJson (k : ChangeKind) : Json := .string k.word

def ChangeKind.ofJson : Decoder ChangeKind := asWord ChangeKind.ofWord?

def Condition.toJson (c : Condition) : Json := ofEntries [
  entry "field" (.string c.field),
  entry "operator" (.string c.operator),
  entry "value" c.value]

def Condition.fieldNames : List String := ["field", "operator", "value"]

/-- A condition; everything may be left out. -/
def Condition.ofJson : Decoder Condition := fun j => do
  let f ← asFields Condition.fieldNames j
  return {
    field := ← f.orElse "field" "" asString
    operator := ← f.orElse "operator" "" asString
    value := ← f.orElse "value" .null asAny }

def Action.toJson (a : Action) : Json := ofEntries [
  entry "type" (.string a.word),
  entryUnless a.config.isEmpty "config" (.object a.config)]

def Action.fieldNames : List String := ["type", "config"]

/-- An action; everything may be left out. -/
def Action.ofJson : Decoder Action := fun j => do
  let f ← asFields Action.fieldNames j
  return {
    word := ← f.orElse "type" "" asString
    config := ← f.orElse "config" [] asMembers }

def Policy.toJson (p : Policy) : Json := ofEntries [
  entry "id" p.id.toJson,
  entry "tenant_id" p.tenant.toJson,
  entry "name" (.string p.name),
  entry "description" (.string p.description),
  entry "type" p.kind.toJson,
  entry "tier" p.tier.toJson,
  entry "priority" (ofInt p.priority.toInt),
  entry "enabled" (.bool p.enabled),
  entry "conditions" (ofList p.conditions Condition.toJson),
  entry "actions" (ofList p.actions Action.toJson),
  entryIfSome "category" p.category .string,
  entryUnless p.tags.isEmpty "tags" (ofStrings p.tags),
  entry "version" (ofInt p.version.toInt),
  entry "created_at" (ofInstant p.createdAt),
  entry "updated_at" (ofInstant p.updatedAt),
  entry "created_by" (.string p.createdBy),
  entry "updated_by" (.string p.updatedBy)]

def Policy.fieldNames : List String :=
  ["id", "tenant_id", "name", "description", "type", "tier", "priority", "enabled", "conditions",
    "actions", "category", "tags", "version", "created_at", "updated_at", "created_by",
    "updated_by"]

def Policy.ofJson : Decoder Policy := fun j => do
  let f ← asFields Policy.fieldNames j
  return {
    id := ← f.required "id" Identifier.ofJson
    tenant := ← f.required "tenant_id" Identifier.ofJson
    name := ← f.required "name" asString
    description := ← f.orElse "description" "" asString
    kind := ← f.required "type" PolicyKind.ofJson
    tier := ← f.orElse "tier" .tenant PolicyTier.ofJson
    priority := ← f.required "priority" asInt32
    enabled := ← f.required "enabled" asBool
    conditions := ← f.required "conditions" (asList Condition.ofJson)
    actions := ← f.required "actions" (asList Action.ofJson)
    category := ← f.optional "category" asString
    tags := ← f.orElse "tags" [] (asList asString)
    version := ← f.required "version" asInt32
    createdAt := ← f.required "created_at" asInstant
    updatedAt := ← f.required "updated_at" asInstant
    createdBy := ← f.orElse "created_by" "" asString
    updatedBy := ← f.orElse "updated_by" "" asString }

def PolicyDraft.toJson (d : PolicyDraft) : Json := ofEntries [
  entryIfSome "id" d.id Identifier.toJson,
  entry "name" (.string d.name),
  entry "description" (.string d.description),
  entry "type" (.string d.kind),
  entryIfSome "tier" d.tier PolicyTier.toJson,
  entry "priority" (ofInt d.priority.toInt),
  entry "enabled" (.bool d.enabled),
  entry "conditions" (ofList d.conditions Condition.toJson),
  entry "actions" (ofList d.actions Action.toJson),
  entryIfSome "category" d.category .string,
  entryUnless d.tags.isEmpty "tags" (ofStrings d.tags)]

def PolicyDraft.fieldNames : List String :=
  ["id", "name", "description", "type", "tier", "priority", "enabled", "conditions", "actions",
    "category", "tags"]

/-- A draft; everything may be left out, and what is not disabled is enabled. -/
def PolicyDraft.ofJson : Decoder PolicyDraft := fun j => do
  let f ← asFields PolicyDraft.fieldNames j
  return {
    id := ← f.optional "id" Identifier.ofJson
    name := ← f.orElse "name" "" asString
    description := ← f.orElse "description" "" asString
    kind := ← f.orElse "type" "" asString
    tier := ← f.optional "tier" PolicyTier.ofJson
    priority := ← f.orElse "priority" 0 asInt32
    enabled := ← f.orElse "enabled" true asBool
    conditions := ← f.orElse "conditions" [] (asList Condition.ofJson)
    actions := ← f.orElse "actions" [] (asList Action.ofJson)
    category := ← f.optional "category" asString
    tags := ← f.orElse "tags" [] (asList asString) }

def PolicyPatch.toJson (p : PolicyPatch) : Json := ofEntries [
  entryIfSome "name" p.name .string,
  entryIfSome "description" p.description .string,
  entryIfSome "type" p.kind .string,
  entryIfSome "conditions" p.conditions (ofList · Condition.toJson),
  entryIfSome "actions" p.actions (ofList · Action.toJson),
  entryIfSome "priority" p.priority fun n => ofInt n.toInt,
  entryIfSome "enabled" p.enabled .bool,
  entryIfSome "category" p.category .string,
  entryIfSome "tags" p.tags ofStrings]

def PolicyPatch.fieldNames : List String :=
  ["name", "description", "type", "conditions", "actions", "priority", "enabled", "category",
    "tags"]

def PolicyPatch.ofJson : Decoder PolicyPatch := fun j => do
  let f ← asFields PolicyPatch.fieldNames j
  return {
    name := ← f.optional "name" asString
    description := ← f.optional "description" asString
    kind := ← f.optional "type" asString
    conditions := ← f.optional "conditions" (asList Condition.ofJson)
    actions := ← f.optional "actions" (asList Action.ofJson)
    priority := ← f.optional "priority" asInt32
    enabled := ← f.optional "enabled" asBool
    category := ← f.optional "category" asString
    tags := ← f.optional "tags" (asList asString) }

def Revision.toJson (r : Revision) : Json := ofEntries [
  entry "id" (.string r.id.render),
  entry "policy_id" r.policy.toJson,
  entry "version" (ofInt r.version.toInt),
  entry "snapshot" r.snapshot.toJson,
  entry "change_type" r.change.toJson,
  entry "change_summary" (.string r.summary),
  entry "changed_by" (.string r.changedBy),
  entry "changed_at" (ofInstant r.changedAt)]

def Revision.fieldNames : List String :=
  ["id", "policy_id", "version", "snapshot", "change_type", "change_summary", "changed_by",
    "changed_at"]

def Revision.ofJson : Decoder Revision := fun j => do
  let f ← asFields Revision.fieldNames j
  return {
    id := ← f.required "id" asUuid
    policy := ← f.required "policy_id" Identifier.ofJson
    version := ← f.required "version" asInt32
    snapshot := ← f.required "snapshot" Policy.ofJson
    change := ← f.required "change_type" ChangeKind.ofJson
    summary := ← f.required "change_summary" asString
    changedBy := ← f.required "changed_by" asString
    changedAt := ← f.required "changed_at" asInstant }

/-! ### Coded types -/

instance {kind : IdKind} : Coded (Identifier kind) := ⟨Identifier.toJson, Identifier.ofJson⟩

instance : Coded PolicyKind := ⟨PolicyKind.toJson, PolicyKind.ofJson⟩

instance : Coded PolicyTier := ⟨PolicyTier.toJson, PolicyTier.ofJson⟩

instance : Coded ActionKind := ⟨ActionKind.toJson, ActionKind.ofJson⟩

instance : Coded ChangeKind := ⟨ChangeKind.toJson, ChangeKind.ofJson⟩

instance : Coded Condition := ⟨Condition.toJson, Condition.ofJson⟩

instance : Coded Action := ⟨Action.toJson, Action.ofJson⟩

instance : Coded Policy := ⟨Policy.toJson, Policy.ofJson⟩

instance : Coded PolicyDraft := ⟨PolicyDraft.toJson, PolicyDraft.ofJson⟩

instance : Coded PolicyPatch := ⟨PolicyPatch.toJson, PolicyPatch.ofJson⟩

instance : Coded Revision := ⟨Revision.toJson, Revision.ofJson⟩

end Governance
