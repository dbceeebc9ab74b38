import Governance.Ambient
import Governance.Pattern.Reader
import Governance.Policy.Basic
import Governance.Policy.Operator
import Governance.Request.Basic
import Governance.Text.Lowercase

/-!
# When a policy matches

A condition compares the text of a fact with its operand. A field that addresses nothing and a word
that is no operator make a condition false; a missing fact makes it false unless the operator is a
negated one. A policy matches when all its conditions hold; they are tested in order, and the first
that fails ends the test.
-/

namespace Governance

open Json Text

def operandText : Json → String
  | .null => ""
  | .string s => s
  | .number n => String.ofList (Fact.numberText n.toFloat)
  | other => String.ofList (Fact.ofJson other).display

def operandTexts? : Json → Option (List String)
  | .array items => some (items.map operandText)
  | _ => none

/-- Whether a pattern that is written in an operand occurs in a text. -/
def occursPattern (operand : Json) (text : String) : Bool :=
  match operand with
  | .string source => match Pattern.ofText source with
    | .ok pattern => Pattern.occursIn pattern text
    | .error _ => false
  | _ => false

/-- Whether an operator holds between the text of a fact and an operand. -/
def Operator.holds (op : Operator) (text : String) (operand : Json) : Bool :=
  match op with
  | .equals => text = operandText operand
  | .notEquals => text ≠ operandText operand
  | .contains => occursFolded (operandText operand) text
  | .notContains => !occursFolded (operandText operand) text
  | .containsAny => match operandTexts? operand with
    | some texts => texts.any (occursFolded · text)
    | none => false
  | .regex => occursPattern operand text
  | .isIn => match operandTexts? operand with
    | some texts => texts.contains text
    | none => false
  | .notIn => match operandTexts? operand with
    | some texts => !texts.contains text
    | none => true

/-- Whether a condition holds for a request. -/
def Condition.holds (c : Condition) (r : Request) : Bool :=
  match Address.ofField? c.field, Operator.ofWord? c.operator with
  | some address, some op => match (r.factAt address).render with
    | some text => op.holds text c.value
    | none => op.isNegated
  | _, _ => false

/-- Whether all conditions hold for a request. -/
def allHold (conditions : List Condition) (r : Request) : Bool := conditions.all (·.holds r)

def Policy.appliesTo (p : Policy) (r : Request) : Bool := allHold p.conditions r

def Policy.actionsFor (p : Policy) (r : Request) : List Action :=
  if p.appliesTo r then p.actions else []

def blocks (actions : List Action) : Bool := actions.any fun a => a.kind? = some .block

/-- The message of the first blocking action that has one. -/
def blockMessage? (actions : List Action) : Option String :=
  (actions.filter fun a => a.kind? = some .block).findSome? fun a => a.text? "message"

/-- The event of testing the condition at an index. -/
def conditionEvent (index : Nat) (c : Condition) (matched : Bool) : Event :=
  ⟨.trace, "condition evaluated", [("index", ofNat index), ("field", .string c.field),
    ("operator", .string c.operator), ("matched", .bool matched)]⟩

/-- The events of testing conditions in order up to the first that fails. -/
def conditionEvents (r : Request) (index : Nat) : List Condition → List Event
  | [] => []
  | c :: rest =>
    if c.holds r then conditionEvent index c true :: conditionEvents r (index + 1) rest
    else [conditionEvent index c false]

end Governance
