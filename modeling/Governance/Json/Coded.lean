import Governance.Json.Decoder
import Governance.Json.Reader

/-!
# Types with a written form

A type is coded when its values have a written form in JSON and a reader of that form.
-/

namespace Governance

open Json

/-- A type whose values are written and read in JSON. -/
class Coded (α : Type) where
  toJson : α → Json
  ofJson : Decoder α

namespace Coded

/-- A natural number of sixty-four bits as a count. -/
def asCount : Decoder Nat := fun j => (asInteger 0 (UInt64.size - 1 : Nat) j).map Int.toNat

instance : Coded Json := ⟨id, asAny⟩

instance : Coded String := ⟨.string, asString⟩

instance : Coded Bool := ⟨.bool, asBool⟩

instance : Coded Nat := ⟨ofNat, asCount⟩

instance : Coded Int32 := ⟨fun n => ofInt n.toInt, asInt32⟩

instance : Coded UInt32 := ⟨fun n => ofNat n.toNat, asUInt32⟩

instance : Coded UInt64 := ⟨fun n => ofNat n.toNat, asUInt64⟩

instance : Coded Float := ⟨ofFloat, asFloat⟩

instance : Coded Instant := ⟨ofInstant, asInstant⟩

instance : Coded Uuid := ⟨fun u => .string u.render, asUuid⟩

instance {α : Type} [Coded α] : Coded (List α) := ⟨(ofList · toJson), asList ofJson⟩

instance {α : Type} [Coded α] : Coded (Option α) := ⟨(ofOption · toJson), asOption ofJson⟩

end Coded

end Governance

namespace Governance.Json

/-!
## Reading values of a type out of a text

A text is read and decoded at the same time: the first thing that is wrong decides whether the text is
said to be no JSON or to be JSON of another form. So when a text breaks off, what stood before the break
is decoded, and only a fault that is settled there counts as a fault of the form.
-/

/-- What is wrong with a text that should stand for a value. -/
inductive TextFault where
  | notJson
  | otherForm
  deriving DecidableEq, Repr

/-- Whether nothing that may stand behind a break can mend an error: a field that is missing can still
come as long as its record is open. -/
def Broken.settles (broken : Broken) (e : DecodeError) : Bool :=
  match broken.spine with
  | none => true
  | some spine => e.cause ≠ .missing || !(e.path.dropLast.isPrefixOf (spine.map PathStep.text))

/-- The fault of a text whose document has another form than asked for. A list with too many items is
taken for a text that goes on where it should have ended. -/
def DecodeError.textFault (e : DecodeError) : TextFault :=
  if e.cause = .surplus then .notJson else .otherForm

/-- What a text that breaks off is said to be. -/
def Broken.textFault {α : Type} (decode : Decoder α) (broken : Broken) : TextFault :=
  match broken.seen with
  | none => .notJson
  | some seen => match decode seen with
    | .ok _ => .notJson
    | .error e => if broken.settles e then e.textFault else .notJson

def readAs {α : Type} (interest : Interest) (decode : Decoder α) (text : String) :
    Except TextFault α :=
  match readFor interest text.toList with
  | .error broken => .error (broken.textFault decode)
  | .ok document => match decode document with
    | .ok a => .ok a
    | .error e => .error e.textFault

end Governance.Json
