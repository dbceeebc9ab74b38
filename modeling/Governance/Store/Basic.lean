import Governance.Ambient
import Governance.Listing.Basic
import Governance.Policy.Basic
import Governance.Policy.Draft
import Governance.Program
import Governance.Transfer.Basic

/-!
# What a store of policies can be asked

A store keeps the policies of all tenants and their histories. Every call names the tenant on whose
behalf it is made. A store records a revision for every change; that it could not be recorded is
reported and never fails the change itself.
-/

namespace Governance

/-- Why a store could not do what it was asked. -/
inductive StoreError where
  | database (reason : String)
  | transaction (reason : String)
  | serialization (reason : String)
  | corrupt (reason : String)
  deriving DecidableEq, Repr

def StoreError.message : StoreError → String
  | .database reason => "policy database error: " ++ reason
  | .transaction reason => "policy transaction error: " ++ reason
  | .serialization reason => "policy serialization error: " ++ reason
  | .corrupt reason => "corrupt policy row: " ++ reason

/-- A kind of policy that nobody knows, in a draft or a row. -/
def StoreError.unknownKind (word : String) : StoreError :=
  .corrupt ("unknown policy type `" ++ word ++ "`")

/-- What a store can be asked. -/
inductive StoreCall where
  | create (tenant : TenantId) (draft : PolicyDraft) (actor : String)
  | get (tenant : TenantId) (id : PolicyId)
  | findByName (tenant : TenantId) (name : String)
  | list (tenant : TenantId) (listing : Listing)
  | countTenantTier (tenant : TenantId)
  | update (tenant : TenantId) (id : PolicyId) (patch : PolicyPatch) (actor : String)
  | delete (tenant : TenantId) (id : PolicyId) (actor : String)
  | revisions (tenant : TenantId) (id : PolicyId)
  | exportAll (tenant : TenantId)
  | enabledPolicies (tenant : TenantId)
  | importAll (tenant : TenantId) (drafts : List PolicyDraft) (mode : ImportMode) (actor : String)
  deriving Repr

/-- What a store answers when nothing goes wrong. A policy that does not exist, or belongs to another
tenant, is absent. -/
abbrev StoreCall.Result : StoreCall → Type
  | .create .. => Policy
  | .get .. => Option Policy
  | .findByName .. => Option Policy
  | .list .. => Page
  | .countTenantTier .. => Nat
  | .update .. => Option Policy
  | .delete .. => Bool
  | .revisions .. => List Revision
  | .exportAll .. => List Policy
  | .enabledPolicies .. => List Policy
  | .importAll .. => ImportReport

abbrev StoreCall.Answer (c : StoreCall) : Type := Except StoreError c.Result

/-- What a revision says of a change. -/
def changeSummary (change : ChangeKind) (version : Int32) : String :=
  match change with
  | .create => "Policy created"
  | .delete => "Policy deleted"
  | _ => "Policy updated to version " ++ toString version.toInt

/-- What a revision says of a policy that was imported. -/
def importSummary : String := "Policy created via import"

/-- What is reported when a revision could not be recorded. -/
def lostRevision (id : PolicyId) (change : ChangeKind) (reason : String) : Event :=
  ⟨.warn, "failed to record policy version", [("policy_id", .string id.text),
    ("change_type", .string change.word), ("error", .string reason)]⟩

end Governance
