import Governance.Json.Coded
import Governance.Request.Basic
import Governance.Time.Instant

/-!
# Providers and what they answer

The gateway does not choose a provider and does not find what has to be redacted: collaborators do.
A router turns a request into a response of a provider, and a redactor turns the response into content
that may be returned.
-/

namespace Governance

/-- What is known about the answer of a provider. -/
structure ProviderMetadata where
  provider : String
  model : String
  millis : UInt64
  tokens : UInt64
  cost : Float
  deriving BEq, Repr

def ProviderMetadata.unknown : ProviderMetadata := ⟨"", "", 0, 0, 0.0⟩

/-- The answer of a provider. -/
structure ProviderResponse where
  content : String
  metadata : ProviderMetadata
  deriving BEq, Repr

/-- Content that may be returned, and the names of what was redacted in it. -/
structure RedactedResponse where
  content : String
  redacted : List String
  deriving DecidableEq, Repr

/-- Why a collaborator failed. -/
inductive CollaboratorError where
  | routing (reason : String)
  | redaction (reason : String)
  deriving DecidableEq, Repr

def CollaboratorError.message : CollaboratorError → String
  | .routing reason => "routing failed: " ++ reason
  | .redaction reason => "response processing failed: " ++ reason

/-- What a collaborator does when it is asked: it takes some time, and then it has a result or breaks
down, which ends the request without any result. -/
structure Reaction (α : Type) where
  delay : Duration
  result : Option (Except CollaboratorError α)

def Reaction.prompt {α : Type} (result : Except CollaboratorError α) : Reaction α :=
  ⟨⟨0⟩, some result⟩

structure Collaborators where
  route : Request → Reaction ProviderResponse
  redact : Request → ProviderResponse → Reaction RedactedResponse

/-- A router when no provider is configured. -/
def noProvider (_ : Request) : Reaction ProviderResponse :=
  .prompt (.error (.routing "no provider configured"))

/-- A redactor that returns responses as they are. -/
def redactNothing (_ : Request) (response : ProviderResponse) : Reaction RedactedResponse :=
  .prompt (.ok ⟨response.content, []⟩)

def ProviderMetadata.toJson (m : ProviderMetadata) : Json := .object [
  ("provider", .string m.provider), ("model", .string m.model),
  ("response_time_ms", .ofNat m.millis.toNat), ("tokens_used", .ofNat m.tokens.toNat),
  ("cost", .ofFloat m.cost)]

end Governance
