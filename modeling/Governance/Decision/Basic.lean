import Governance.Json.Coded

/-!
# Decisions

The outcome of putting a request before the policies of its tenant: whether it may pass, which
policies applied, how risky it is, and what whoever lets it pass is obliged to do.
-/

namespace Governance

/-- What the policies say about a request. -/
structure Decision where
  allowed : Bool
  applied : List String
  riskScore : Float
  obligations : List String
  millis : UInt64
  blockReason : Option String
  deriving BEq, Repr

namespace Decision

/-- The request may pass and no policy applied. -/
def allow : Decision := ⟨true, [], 0.0, [], 0, none⟩

def apply (d : Decision) (policy : String) : Decision := { d with applied := d.applied ++ [policy] }

def oblige (d : Decision) (obligation : String) : Decision :=
  { d with obligations := d.obligations ++ [obligation] }

/-- Refuses the request. The first reason counts; every reason is an obligation. -/
def block (d : Decision) (reason : String) : Decision :=
  { d with
    allowed := false
    obligations := d.obligations ++ ["blocked: " ++ reason]
    blockReason := d.blockReason.or (some reason) }

/-- A score brought into the range from nought to one; what is no number stays so. -/
def clamp (score : Float) : Float :=
  if score < 0.0 then 0.0 else if 1.0 < score then 1.0 else score

def withRisk (d : Decision) (score : Float) : Decision := { d with riskScore := clamp score }

end Decision

/-!
## Decisions in JSON

The written form of a decision and its reader.
-/

open Json

def Decision.toJson (d : Decision) : Json := ofEntries [
  entry "allowed" (.bool d.allowed),
  entry "applied_policies" (ofStrings d.applied),
  entry "risk_score" (ofFloat d.riskScore),
  entryUnless d.obligations.isEmpty "required_actions" (ofStrings d.obligations),
  entry "processing_time_ms" (ofNat d.millis.toNat),
  entryIfSome "block_reason" d.blockReason .string]

/-- A decision; only whether the request may pass has to be there. -/
def Decision.ofJson : Decoder Decision := fun j => do
  let f ← asFields ["allowed", "applied_policies", "risk_score", "required_actions",
    "processing_time_ms", "block_reason"] j
  return {
    allowed := ← f.required "allowed" asBool
    applied := ← f.orElse "applied_policies" [] (asList asString)
    riskScore := ← f.orElse "risk_score" 0.0 asFloat
    obligations := ← f.orElse "required_actions" [] (asList asString)
    millis := ← f.orElse "processing_time_ms" 0 asUInt64
    blockReason := ← f.optional "block_reason" asString }

/-! ### Coded types -/

instance : Coded Decision := ⟨Decision.toJson, Decision.ofJson⟩

end Governance
