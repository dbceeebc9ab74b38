import Governance.Policy.Validation
import Governance.Store.Basic
import Governance.Text.Basic
import Governance.Text.Lowercase

/-!
# What the service refuses

A call to the service fails for one of a few reasons, one of which is that the tier gate does not let it
through.
-/

namespace Governance

/-!
## Why the service refuses

A call to the service fails because its input is faulty, because the tier of a policy or the licence
does not allow it, because the policy does not exist, or because the store failed.
-/

/-- What someone wants to do to a policy. -/
inductive TierOperation where
  | create
  | modify
  deriving DecidableEq, Repr

/-- What the tier of a policy or the licence does not allow. -/
inductive TierRefusal where
  | systemImmutable (operation : TierOperation)
  | organizationNeedsEnterprise
  | limitReached (limit : Nat)
  deriving DecidableEq, Repr

/-- The word by which programs tell refusals apart. -/
def TierRefusal.code : TierRefusal → String
  | .systemImmutable _ => "SYSTEM_TIER_IMMUTABLE"
  | .organizationNeedsEnterprise => "ORG_TIER_REQUIRES_ENTERPRISE"
  | .limitReached _ => "POLICY_LIMIT_EXCEEDED"

def TierRefusal.message : TierRefusal → String
  | .systemImmutable .create => "System policies cannot be created via API"
  | .systemImmutable .modify => "System policies cannot be modified via API"
  | .organizationNeedsEnterprise => "Organization-tier policies require Enterprise license"
  | .limitReached limit => "Policy limit of " ++ toString limit ++ " reached for Community edition"

/-- Why a call to the service failed. -/
inductive ServiceError where
  | invalid (faults : List FieldFault)
  | refused (reason : TierRefusal)
  | notFound (id : PolicyId)
  | storage (error : StoreError)
  deriving DecidableEq, Repr

namespace ServiceError

/-- The word by which programs tell failures apart. -/
def code : ServiceError → String
  | .invalid _ => "VALIDATION_ERROR"
  | .refused reason => reason.code
  | .notFound _ => "NOT_FOUND"
  | .storage _ => "INTERNAL_ERROR"

def message : ServiceError → String
  | .invalid faults => faultsMessage faults
  | .refused reason => reason.message ++ " (" ++ reason.code ++ ")"
  | .notFound id => "policy not found: " ++ id.text
  | .storage error => error.message

end ServiceError

/-!
## The tier gate

Before a policy is created or changed, the gate looks at its tier and at the licence. A policy of the
system is never created or changed; a policy of an organization needs an enterprise licence; without
one, a tenant holds no more policies than the limit of the community edition.

Everything here asks the store and the surroundings through calls, so that what happens between two
calls is open.
-/

/-- What the service asks for: the store, the time, and that an event be reported. -/
inductive ServiceCall where
  | store (c : StoreCall)
  | now
  | report (e : Event)
  deriving Repr

abbrev ServiceCall.Answer : ServiceCall → Type
  | .store c => c.Answer
  | .now => Instant
  | .report _ => Unit

/-- The surroundings of the service as programs see them. -/
abbrev serviceInterface : Interface := ⟨ServiceCall, ServiceCall.Answer⟩

/-- A computation of the service, which may fail. -/
abbrev ServiceProgram (α : Type) := ExceptT ServiceError (Program serviceInterface) α

namespace ServiceProgram

/-- Asks the store; a failure of the store is one of the service. -/
def ask (c : StoreCall) : ServiceProgram c.Result :=
  ExceptT.mk ((Program.perform (I := serviceInterface) (.store c)).andThen fun
    | .ok result => .done (.ok result)
    | .error e => .done (.error (.storage e)))

def now : ServiceProgram Instant := ExceptT.lift (Program.perform (I := serviceInterface) .now)

def report (level : Level) (message : String) (fields : List (String × Json)) :
    ServiceProgram Unit :=
  ExceptT.lift (Program.perform (I := serviceInterface) (.report ⟨level, message, fields⟩))

end ServiceProgram

/-- Whether a mode of deployment has an enterprise licence: all but the community edition, which is
also what no name means. -/
def isEnterpriseMode (mode : String) : Bool :=
  let mode := Text.lowercase (Text.trim mode.toList)
  !(mode.isEmpty || mode = "community".toList)

/-- The most policies that a tenant of the community edition holds unless it is configured. -/
def communityLimit : Nat := 30

/-- Whether there is an enterprise licence, and the limit that holds without one. -/
structure Gate where
  enterprise : Bool
  limit : Nat
  deriving DecidableEq, Repr

namespace Gate

open ServiceProgram

/-- Whether a tenant that holds so many policies may have more of them. -/
def admits (gate : Gate) (held more : Nat) : Bool := gate.enterprise || held + more ≤ gate.limit

/-- Checks that a policy of a tier may be created. -/
def authorizeCreate (gate : Gate) (tenant : TenantId) : PolicyTier → ServiceProgram Unit
  | .system => throw (.refused (.systemImmutable .create))
  | .organization =>
    if gate.enterprise then pure () else throw (.refused .organizationNeedsEnterprise)
  | .tenant => do
    if gate.enterprise then return
    let count ← ask (.countTenantTier tenant)
    report .debug "community policy count" [("tenant", .string tenant.text),
      ("count", .ofNat count), ("limit", .ofNat gate.limit)]
    if !gate.admits count 1 then throw (.refused (.limitReached gate.limit))

/-- Checks that the policy with an identifier may be changed. One that does not exist may: the change
itself finds out. -/
def authorizeModify (tenant : TenantId) (id : PolicyId) : ServiceProgram Unit := do
  match ← ask (.get tenant id) with
  | some p => if p.isSystem then throw (.refused (.systemImmutable .modify))
  | none => pure ()

end Gate

end Governance
