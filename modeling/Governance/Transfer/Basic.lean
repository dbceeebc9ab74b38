import Governance.Policy.Codec
import Governance.Policy.Draft

/-!
# Transfers

Many drafts are imported at once, and an import mode says what happens to a draft whose name is taken.
Every draft has an outcome of its own, and the report adds the outcomes up.
-/

namespace Governance

/-- What happens to a draft whose name is taken. -/
inductive ImportMode where
  | skip
  | error
  | overwrite
  deriving DecidableEq, Repr

def ImportMode.word : ImportMode → String
  | .skip => "skip"
  | .error => "error"
  | .overwrite => "overwrite"

def ImportMode.ofWord? : String → Option ImportMode
  | "skip" => some .skip
  | "error" => some .error
  | "overwrite" => some .overwrite
  | _ => none

@[simp] theorem ImportMode.ofWord?_word (m : ImportMode) : ofWord? m.word = some m := by
  cases m <;> rfl

/-- The import mode of a text that may be empty, which means that taken names are skipped. -/
def ImportMode.ofText? (text : String) : Option ImportMode :=
  if text = "" then some .skip else ofWord? text

/-- What became of a draft. -/
inductive ImportOutcome where
  | created (name : String)
  | updated (name : String)
  | skipped (name : String)
  | failed (name message : String)
  deriving DecidableEq, Repr

/-- The outcomes of an import added up. -/
structure ImportReport where
  created : Nat
  updated : Nat
  skipped : Nat
  errors : List String
  deriving DecidableEq, Repr

namespace ImportReport

/-- The report of an import of nothing. -/
def empty : ImportReport := ⟨0, 0, 0, []⟩

def record (r : ImportReport) : ImportOutcome → ImportReport
  | .created _ => { r with created := r.created + 1 }
  | .updated _ => { r with updated := r.updated + 1 }
  | .skipped _ => { r with skipped := r.skipped + 1 }
  | .failed _ message => { r with errors := r.errors ++ [message] }

def ofOutcomes (outcomes : List ImportOutcome) : ImportReport := outcomes.foldl record empty

end ImportReport

/-- Why a draft whose name is taken fails. -/
def takenMessage (name : String) : String := "Policy " ++ name ++ " already exists"

/-- Why a draft could not become a policy. -/
def creationMessage (name reason : String) : String :=
  "Error creating policy " ++ name ++ ": " ++ reason

/-- Why a draft could not replace a policy. -/
def replacementMessage (name reason : String) : String :=
  "Error updating policy " ++ name ++ ": " ++ reason

/-- A request to import drafts. The mode is still a word. -/
structure ImportRequest where
  policies : List PolicyDraft
  mode : Option String
  deriving BEq, Repr

/-- All policies of a tenant at an instant. -/
structure PolicyExport where
  policies : List Policy
  exportedAt : Instant
  tenant : TenantId
  deriving BEq, Repr

/-!
## Transfers in JSON

The written form of reports, import requests and exports, and the readers of these forms.
-/

open Json

def ImportMode.toJson (m : ImportMode) : Json := .string m.word

def ImportMode.ofJson : Decoder ImportMode := asWord ImportMode.ofWord?

def ImportReport.toJson (r : ImportReport) : Json := ofEntries [
  entry "created" (ofNat r.created),
  entry "updated" (ofNat r.updated),
  entry "skipped" (ofNat r.skipped),
  entry "errors" (ofStrings r.errors)]

def ImportReport.ofJson : Decoder ImportReport := fun j => do
  let f ← asFields ["created", "updated", "skipped", "errors"] j
  return {
    created := ← f.required "created" Coded.asCount
    updated := ← f.required "updated" Coded.asCount
    skipped := ← f.required "skipped" Coded.asCount
    errors := ← f.orElse "errors" [] (asList asString) }

def ImportRequest.toJson (r : ImportRequest) : Json := ofEntries [
  entry "policies" (ofList r.policies PolicyDraft.toJson),
  entryIfSome "mode" r.mode .string]

def ImportRequest.fieldNames : List String := ["policies", "mode"]

def ImportRequest.ofJson : Decoder ImportRequest := fun j => do
  let f ← asFields ImportRequest.fieldNames j
  return {
    policies := ← f.orElse "policies" [] (asList PolicyDraft.ofJson)
    mode := ← f.optional "mode" asString }

def PolicyExport.toJson (e : PolicyExport) : Json := ofEntries [
  entry "policies" (ofList e.policies Policy.toJson),
  entry "exported_at" (ofInstant e.exportedAt),
  entry "tenant_id" e.tenant.toJson]

def PolicyExport.ofJson : Decoder PolicyExport := fun j => do
  let f ← asFields ["policies", "exported_at", "tenant_id"] j
  return {
    policies := ← f.required "policies" (asList Policy.ofJson)
    exportedAt := ← f.required "exported_at" asInstant
    tenant := ← f.required "tenant_id" Identifier.ofJson }

/-! ### Coded types -/

instance : Coded ImportMode := ⟨ImportMode.toJson, ImportMode.ofJson⟩

instance : Coded ImportReport := ⟨ImportReport.toJson, ImportReport.ofJson⟩

instance : Coded ImportRequest := ⟨ImportRequest.toJson, ImportRequest.ofJson⟩

instance : Coded PolicyExport := ⟨PolicyExport.toJson, PolicyExport.ofJson⟩

end Governance
