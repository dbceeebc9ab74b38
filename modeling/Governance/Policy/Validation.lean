import Governance.Pattern.Reader
import Governance.Policy.Draft
import Governance.Policy.Operator
import Governance.Text.Basic

/-!
# Valid drafts and patches

Every fault of a draft or patch is reported, field by field in a fixed order, so that its author can
mend all of them at once. A patch is checked only where it gives a value.
-/

namespace Governance

/-- What is wrong with a field, in words. -/
structure FieldFault where
  field : String
  message : String
  deriving DecidableEq, Repr

/-- The faults in one line. -/
def faultsMessage (faults : List FieldFault) : String :=
  match faults with
  | [] => "validation failed"
  | faults => "validation failed: " ++
      "; ".intercalate (faults.map fun f => f.field ++ ": " ++ f.message)

def hasField (faults : List FieldFault) (field : String) : Bool := faults.any (·.field = field)

/-- A fault unless a requirement is met. -/
def require (met : Bool) (field message : String) : List FieldFault :=
  if met then [] else [⟨field, message⟩]

/-- A name has three to a hundred characters. -/
def nameFaults (name : String) : List FieldFault :=
  require (3 ≤ name.length && name.length ≤ 100) "name" "Name must be between 3 and 100 characters"

/-- A description has at most five hundred characters. -/
def descriptionFaults (description : String) : List FieldFault :=
  require (description.length ≤ 500) "description" "Description must not exceed 500 characters"

/-- A kind is one of the known words. -/
def kindFaults (kind : String) : List FieldFault :=
  require (PolicyKind.ofWord? kind).isSome "type" "Type must be one of: content, user, risk, cost"

/-- A priority lies between nought and a thousand. -/
def priorityFaults (priority : Int32) : List FieldFault :=
  require (0 ≤ priority && priority ≤ 1000) "priority" "Priority must be between 0 and 1000"

def patternProblem? (source : String) : Option String :=
  match Pattern.ofText source with
  | .ok _ => none
  | .error e => some ("invalid regex pattern: " ++ e.message)

def isList : Json → Bool
  | .array _ => true
  | _ => false

/-- What is wrong with the operand of an operator, if anything. -/
def operandProblem? (op : Operator) (value : Json) : Option String :=
  if op = .regex then
    match value with
    | .string source => patternProblem? source
    | _ => some "regex value must be a string pattern"
  else if op.takesList && !isList value then
    some ("value must be a list for operator " ++ op.word)
  else none

def Condition.problem? (c : Condition) : Option String :=
  if Text.isBlank c.field then some "field is required"
  else if Text.isBlank c.operator then some "operator is required"
  else match Operator.ofWord? c.operator with
    | none => some ("invalid operator: " ++ c.operator)
    | some op => operandProblem? op c.value

def Action.problem? (a : Action) : Option String :=
  if a.kind?.isSome then none else some ("invalid action type: " ++ a.word)

/-- The faults of the items of a list, each under the name of the list and its index. -/
def itemFaults {α : Type} (field : String) (problem? : α → Option String) (index : Nat) :
    List α → List FieldFault
  | [] => []
  | item :: rest =>
    let here := match problem? item with
      | some message => [⟨field ++ "[" ++ toString index ++ "]", message⟩]
      | none => []
    here ++ itemFaults field problem? (index + 1) rest

/-- There is a condition, and every condition can be tested. -/
def conditionsFaults (conditions : List Condition) : List FieldFault :=
  require (!conditions.isEmpty) "conditions" "At least one condition is required" ++
    itemFaults "conditions" Condition.problem? 0 conditions

/-- There is an action, and every action is of a known kind. -/
def actionsFaults (actions : List Action) : List FieldFault :=
  require (!actions.isEmpty) "actions" "At least one action is required" ++
    itemFaults "actions" Action.problem? 0 actions

def PolicyDraft.faults (d : PolicyDraft) : List FieldFault :=
  nameFaults d.name ++ descriptionFaults d.description ++
    (if d.kind.isEmpty then [⟨"type", "Type is required"⟩] else kindFaults d.kind) ++
    conditionsFaults d.conditions ++ actionsFaults d.actions ++ priorityFaults d.priority

/-- The faults of a field that may be absent. -/
def faultsIfSome {α : Type} (faults : α → List FieldFault) : Option α → List FieldFault
  | some a => faults a
  | none => []

def PolicyPatch.faults (p : PolicyPatch) : List FieldFault :=
  faultsIfSome nameFaults p.name ++ faultsIfSome descriptionFaults p.description ++
    faultsIfSome kindFaults p.kind ++ faultsIfSome conditionsFaults p.conditions ++
    faultsIfSome actionsFaults p.actions ++ faultsIfSome priorityFaults p.priority

end Governance
