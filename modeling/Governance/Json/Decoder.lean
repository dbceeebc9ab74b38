import Governance.Json.Value
import Governance.Time.Instant
import Governance.Uuid

/-!
# Reading values out of JSON

A decoder takes a JSON value to a value of a type or says where and why it has another form. A record
is an object, whose unknown members are ignored, or a list of its fields in their order, of which
fields with a default may be missing at the end. Absent and null are the same only for fields that
may be empty.
-/

namespace Governance.Json

/-- Why a value is not of the form asked for. -/
inductive DecodeCause where
  | wrongKind
  | outOfRange
  | unknownWord
  | malformed
  | missing
  | repeated
  | surplus
  deriving DecidableEq, Repr

/-- Where a value is not of the form asked for, outermost step first, and why. -/
structure DecodeError where
  path : List String
  cause : DecodeCause
  deriving DecidableEq, Repr

/-- What a decoder yields. -/
abbrev Decoded (α : Type) := Except DecodeError α

/-- A reader of one type. -/
abbrev Decoder (α : Type) := Json → Decoded α

/-- Refuses a value. -/
def refuse {α : Type} (cause : DecodeCause) : Decoded α := .error ⟨[], cause⟩

/-- Puts a step in front of the path of an error. -/
def within {α : Type} (step : String) : Decoded α → Decoded α
  | .ok a => .ok a
  | .error e => .error ⟨step :: e.path, e.cause⟩

/-! ### Scalars -/

def asString : Decoder String
  | .string s => .ok s
  | _ => refuse .wrongKind

def asBool : Decoder Bool
  | .bool b => .ok b
  | _ => refuse .wrongKind

/-- An integer within bounds, both included; a number with a fraction is none. -/
def asInteger (low high : Int) : Decoder Int
  | .number (.integer n) => if low ≤ n && n ≤ high then .ok n else refuse .outOfRange
  | _ => refuse .wrongKind

def asInt32 : Decoder Int32 := fun j =>
  (asInteger Int32.minValue.toInt Int32.maxValue.toInt j).map Int32.ofInt

def asUInt32 : Decoder UInt32 := fun j =>
  (asInteger 0 (UInt32.size - 1 : Nat) j).map fun n => UInt32.ofNat n.toNat

def asUInt64 : Decoder UInt64 := fun j =>
  (asInteger 0 (UInt64.size - 1 : Nat) j).map fun n => UInt64.ofNat n.toNat

/-- A double; an integer counts as the nearest one. -/
def asFloat : Decoder Float
  | .number n => .ok n.toFloat
  | _ => refuse .wrongKind

def asInstant : Decoder Instant
  | .string s => match Instant.parse? s with
    | some t => .ok t
    | none => refuse .malformed
  | _ => refuse .wrongKind

def asUuid : Decoder Uuid
  | .string s => match Uuid.parse? s with
    | some u => .ok u
    | none => refuse .malformed
  | _ => refuse .wrongKind

/-- One of a set of words, as a text or as the only member of an object, with null behind it. -/
def asWord {α : Type} (parse? : String → Option α) : Decoder α
  | .string s => match parse? s with
    | some a => .ok a
    | none => refuse .unknownWord
  | .object [(s, .null)] => match parse? s with
    | some a => .ok a
    | none => refuse .unknownWord
  | _ => refuse .wrongKind

/-! ### Composite values -/

/-- Any value, its objects as maps. -/
def asAny : Decoder Json := fun j => .ok j.canonical

/-- An object as a map. -/
def asMembers : Decoder (List (String × Json))
  | .object members => .ok (canonicalMembers members [])
  | _ => refuse .wrongKind

/-- Decodes the items of a list; `index` is the place of the first one. -/
def decodeItems {α : Type} (decode : Decoder α) (index : Nat) : List Json → Decoded (List α)
  | [] => .ok []
  | item :: rest => do
    let first ← within (toString index) (decode item)
    let others ← decodeItems decode (index + 1) rest
    .ok (first :: others)

def asList {α : Type} (decode : Decoder α) : Decoder (List α)
  | .array items => decodeItems decode 0 items
  | _ => refuse .wrongKind

def asOption {α : Type} (decode : Decoder α) : Decoder (Option α)
  | .null => .ok none
  | j => (decode j).map some

/-! ### Records -/

/-- The fields of a record that are present. -/
inductive Fields where
  | named (members : List (String × Json))
  | listed (members : List (String × Json))
  deriving Repr

/-- The value of a field, if it is present. -/
def Fields.find? (fields : Fields) (name : String) : Option Json :=
  match fields with
  | .named members => lookup name members
  | .listed members => lookup name members

/-- Whether no member of these names stands twice in a list. -/
def distinctNames (names : List String) : List (String × Json) → Bool
  | [] => true
  | (key, _) :: rest =>
    (!names.contains key || !(rest.any (·.1 == key))) && distinctNames names rest

/-- The fields of a record with these names, in the order of a list of its fields. -/
def asFields (names : List String) : Decoder Fields
  | .object members =>
    if distinctNames names members then .ok (.named members) else refuse .repeated
  | .array items =>
    if names.length < items.length then refuse .surplus else .ok (.listed (names.zip items))
  | _ => refuse .wrongKind

/-- Says of an error which field it is in; the fields of a list go by their places. -/
def Fields.located {α : Type} (fields : Fields) (name : String) (result : Decoded α) :
    Decoded α :=
  match fields with
  | .named _ => within name result
  | .listed members => within (toString (members.findIdx (·.1 = name))) result

/-- A field that has to be present. -/
def Fields.required {α : Type} (fields : Fields) (name : String) (decode : Decoder α) :
    Decoded α :=
  match fields.find? name with
  | some j => fields.located name (decode j)
  | none => .error ⟨[name], .missing⟩

/-- A field that has a value when it is absent. -/
def Fields.orElse {α : Type} (fields : Fields) (name : String) (default : α)
    (decode : Decoder α) : Decoded α :=
  match fields.find? name with
  | some j => fields.located name (decode j)
  | none => .ok default

/-- A field that may be absent or null. -/
def Fields.optional {α : Type} (fields : Fields) (name : String) (decode : Decoder α) :
    Decoded (Option α) :=
  fields.orElse name none (asOption decode)

/-! ### Writing records -/

/-- A member that is always written. -/
def entry (name : String) (value : Json) : List (String × Json) := [(name, value)]

/-- A member that is left out when it is empty. -/
def entryUnless (empty : Bool) (name : String) (value : Json) : List (String × Json) :=
  if empty then [] else [(name, value)]

/-- A member that is left out when there is no value. -/
def entryIfSome {α : Type} (name : String) (value : Option α) (encode : α → Json) :
    List (String × Json) :=
  match value with
  | some a => [(name, encode a)]
  | none => []

/-- A value or null. -/
def ofOption {α : Type} (value : Option α) (encode : α → Json) : Json :=
  match value with
  | some a => encode a
  | none => .null

/-- An object of members that are given in pieces. -/
def ofEntries (pieces : List (List (String × Json))) : Json := .object pieces.flatten

def ofList {α : Type} (items : List α) (encode : α → Json) : Json := .array (items.map encode)

def ofInstant (t : Instant) : Json := .string t.render

end Governance.Json
