/-!
# Operators of conditions

Every operator compares the text of a fact with the text of an operand, or with each text of a list
of operands.
-/

namespace Governance

/-- How a condition compares a fact with its operand. -/
inductive Operator where
  | equals
  | notEquals
  | contains
  | notContains
  | containsAny
  | regex
  | isIn
  | notIn
  deriving DecidableEq, Repr

namespace Operator

def word : Operator → String
  | .equals => "equals"
  | .notEquals => "not_equals"
  | .contains => "contains"
  | .notContains => "not_contains"
  | .containsAny => "contains_any"
  | .regex => "regex"
  | .isIn => "in"
  | .notIn => "not_in"

def ofWord? : String → Option Operator
  | "equals" => some .equals
  | "not_equals" => some .notEquals
  | "contains" => some .contains
  | "not_contains" => some .notContains
  | "contains_any" => some .containsAny
  | "regex" => some .regex
  | "in" => some .isIn
  | "not_in" => some .notIn
  | _ => none

@[simp] theorem ofWord?_word (o : Operator) : ofWord? o.word = some o := by
  cases o <;> rfl

/-- Whether the operand has to be a list. -/
def takesList : Operator → Bool
  | .containsAny => true
  | .isIn => true
  | .notIn => true
  | _ => false

/-- Whether a missing fact satisfies the operator. -/
def isNegated : Operator → Bool
  | .notEquals => true
  | .notContains => true
  | .notIn => true
  | _ => false

end Operator

end Governance
