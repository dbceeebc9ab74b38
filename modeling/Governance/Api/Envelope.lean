import Governance.Json.Coded
import Governance.Service.Gate

/-!
# Error envelopes

Every failed call over HTTP is answered with an envelope: a code for programs, a message for people,
and the faults of the input if there are any. What a store says of its failures stays inside; it is
reported and not answered.
-/

namespace Governance

open Json

def FieldFault.toJson (f : FieldFault) : Json := ofEntries [
  entry "field" (.string f.field), entry "message" (.string f.message)]

def FieldFault.ofJson : Decoder FieldFault := fun j => do
  let f ← asFields ["field", "message"] j
  return ⟨← f.required "field" asString, ← f.required "message" asString⟩

/-- What is said about a failure over HTTP. -/
structure Envelope where
  code : String
  message : String
  details : List FieldFault
  deriving DecidableEq, Repr

namespace Envelope

def toJson (e : Envelope) : Json := ofEntries [
  entry "error" (ofEntries [
    entry "code" (.string e.code),
    entry "message" (.string e.message),
    entryUnless e.details.isEmpty "details" (ofList e.details FieldFault.toJson)])]

/-- The inside of an envelope. -/
def bodyOfJson : Decoder Envelope := fun j => do
  let f ← asFields ["code", "message", "details"] j
  return {
    code := ← f.required "code" asString
    message := ← f.required "message" asString
    details := ← f.orElse "details" [] (asList FieldFault.ofJson) }

def ofJson : Decoder Envelope := fun j => do
  let f ← asFields ["error"] j
  f.required "error" bodyOfJson

/-- An envelope without details. -/
def plain (code message : String) : Envelope := ⟨code, message, []⟩

/-- What is said about a failure inside, whatever it is. -/
def internal : Envelope := plain "INTERNAL_ERROR" "An internal error occurred"

end Envelope

namespace ServiceError

def status : ServiceError → Nat
  | .invalid _ => 400
  | .refused _ => 403
  | .notFound _ => 404
  | .storage _ => 500

def envelope (e : ServiceError) : Envelope :=
  match e with
  | .invalid faults => ⟨e.code, "Validation failed", faults⟩
  | .refused reason => .plain e.code reason.message
  | .notFound _ => .plain e.code "Policy not found"
  | .storage _ => .internal

def events : ServiceError → List Event
  | .storage error => [⟨.error, "policy storage failure", [("error", .string error.message)]⟩]
  | _ => []

end ServiceError

/-! ### Coded types -/

instance : Coded FieldFault := ⟨FieldFault.toJson, FieldFault.ofJson⟩

instance : Coded Envelope := ⟨Envelope.toJson, Envelope.ofJson⟩

end Governance
