import Governance.Text.Basic

/-!
# Identifiers

Identifiers are opaque texts that differ in what they name. An identifier that someone types in must
not be blank; one that is read from stored data is taken as it is.
-/

namespace Governance

/-- What an identifier names. -/
inductive IdKind where
  | tenant
  | policy
  | request
  | audit
  deriving DecidableEq, Repr

def IdKind.word : IdKind → String
  | .tenant => "tenant"
  | .policy => "policy"
  | .request => "request"
  | .audit => "audit"

structure Identifier (kind : IdKind) where
  text : String
  deriving DecidableEq, Repr

/-- Whoever owns policies and sends requests. -/
abbrev TenantId := Identifier .tenant

abbrev PolicyId := Identifier .policy

/-- Follows a request through evaluation, audit and metrics. -/
abbrev RequestId := Identifier .request

abbrev AuditId := Identifier .audit

/-- A blank text was given where an identifier is needed. -/
structure BlankIdentifier where
  kind : IdKind
  deriving DecidableEq, Repr

def BlankIdentifier.message (e : BlankIdentifier) : String :=
  e.kind.word ++ " id must not be empty"

namespace Identifier

/-- Whether an identifier can be typed in. -/
def isUsable {kind : IdKind} (id : Identifier kind) : Bool := !Text.isBlank id.text

/-- The identifier of a text that is not blank. -/
def ofText (kind : IdKind) (text : String) : Except BlankIdentifier (Identifier kind) :=
  if Text.isBlank text then .error ⟨kind⟩ else .ok ⟨text⟩

/-- A text is accepted exactly when the identifier it makes is usable. -/
theorem ofText_eq_ok_iff {kind : IdKind} {text : String} {id : Identifier kind} :
    ofText kind text = .ok id ↔ id.text = text ∧ id.isUsable := by
  cases id with
  | mk inner =>
    simp only [ofText, isUsable, Bool.not_eq_true']
    by_cases h : Text.isBlank text
    · simp only [h, if_true, reduceCtorEq, false_iff, not_and, Bool.not_eq_false]
      rintro rfl
      exact h
    · simp only [h, Bool.false_eq_true, if_false, Except.ok.injEq, Identifier.mk.injEq]
      constructor
      · rintro rfl
        exact ⟨rfl, by simpa using h⟩
      · exact fun ⟨same, _⟩ => same.symm

end Identifier

end Governance
