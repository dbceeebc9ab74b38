/-!
# JSON values

A number is either an integer of at most sixty-four bits or a double, and stays what it was: `1`
and `1.0` are different values. An object keeps its members in the order in which they stand in
the document, repeated keys included; `Json.canonical` is the object as a map, sorted by key, in
which the last of repeated members counts.
-/

namespace Governance

inductive Number where
  | integer (value : Int)
  | real (value : Float)
  deriving BEq, Repr

/-- The integers that are kept exactly: those that fit in a signed or an unsigned 64-bit word. -/
def Number.isExact (value : Int) : Bool :=
  Int64.minValue.toInt ≤ value && value < (UInt64.size : Nat)

/-- The double nearest to an integer of at most sixty-four bits. -/
def Number.floatOfInt (value : Int) : Float :=
  if value < 0 then -(Float.ofNat value.natAbs) else Float.ofNat value.natAbs

def Number.toFloat : Number → Float
  | .integer value => Number.floatOfInt value
  | .real value => value

inductive Json where
  | null
  | bool (value : Bool)
  | number (value : Number)
  | string (value : String)
  | array (items : List Json)
  | object (members : List (String × Json))
  deriving BEq, Repr, Inhabited

namespace Json

/-- Puts a member into a list sorted by key, over a member of the same key. -/
def insertMember (key : String) (value : Json) : List (String × Json) → List (String × Json)
  | [] => [(key, value)]
  | (other, old) :: rest =>
    if key < other then (key, value) :: (other, old) :: rest
    else if key = other then (key, value) :: rest
    else (other, old) :: insertMember key value rest

mutual

/-- Every object of the value as a map: sorted by key, the last of repeated members kept. -/
def canonical : Json → Json
  | .array items => .array (canonicalItems items)
  | .object members => .object (canonicalMembers members [])
  | other => other

/-- The canonical values of an array, in order. -/
def canonicalItems : List Json → List Json
  | [] => []
  | item :: rest => canonical item :: canonicalItems rest

/-- Enters members into a sorted list one after the other. -/
def canonicalMembers : List (String × Json) → List (String × Json) → List (String × Json)
  | [], entered => entered
  | (key, value) :: rest, entered =>
    canonicalMembers rest (insertMember key (canonical value) entered)

end

/-- The value of the first member of that key. -/
def lookup (key : String) : List (String × Json) → Option Json
  | [] => none
  | (other, value) :: rest => if other = key then some value else lookup key rest

/-- The member of an object, or nothing when the value is no object or has no such member. -/
def member? (key : String) : Json → Option Json
  | .object members => lookup key members
  | _ => none

def ofInt (value : Int) : Json := .number (.integer value)

def ofNat (value : Nat) : Json := .number (.integer value)

/-- A double as a JSON number; a number that is not finite is written as null. -/
def ofFloat (value : Float) : Json :=
  if value.isFinite then .number (.real value) else .null

def ofStrings (texts : List String) : Json := .array (texts.map .string)

end Json

end Governance
