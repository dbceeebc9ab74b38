import Governance.Config.Basic
import Governance.Text.Basic
import Governance.Toml.Reader
import Governance.Toml.Text

/-!
# Where settings come from

Variables of the environment as settings, and the layers of a configuration.
-/

/-!
## Settings in the environment

A variable whose name has the prefix of the gateway is a setting. Two underscores, or a point, separate
the levels of its name, in which case does not matter. Its value is a truth value, a number, a text in
quotation marks, a character in apostrophes, a list in brackets or a table in braces, and when it is none
of these it is a text as it stands.
-/

namespace Governance.Environment

open Toml (Reader)

/-! ### Values -/

def isSeparator (c : Char) : Bool :=
  c = ',' || c = '\x7b' || c = '\x7d' || c = '[' || c = ']'

/-- Whether a character may stand in the key of a table. -/
def isKeyChar (c : Char) : Bool := c.isAlphanum || c = '_' || c = '-'

/-- The rest without blanks in front. -/
def skipBlanks (cs : List Char) : List Char :=
  cs.dropWhile fun c => c = ' ' || c = '\t' || c = '\n' || c = '\r' || c = '\x0c'

/-- Whether characters are the digits of an exponent, behind a sign if there is one. -/
def isExponent (cs : List Char) : Bool :=
  let digits := match cs with
    | '+' :: rest => rest
    | '-' :: rest => rest
    | rest => rest
  !digits.isEmpty && digits.all Char.isDigit

/-- Whether a word is a number with a point. -/
def isDecimal (word : List Char) : Bool :=
  let unsigned := match word with
    | '+' :: rest => rest
    | '-' :: rest => rest
    | rest => rest
  let whole := unsigned.takeWhile Char.isDigit
  match unsigned.dropWhile Char.isDigit with
  | '.' :: rest =>
    !(whole.isEmpty && (rest.takeWhile Char.isDigit).isEmpty) &&
      match rest.dropWhile Char.isDigit with
      | [] => true
      | mark :: exponent => (mark = 'e' || mark = 'E') && isExponent exponent
  | _ => false

def decimalValue (word : List Char) : Float :=
  let (negative, unsigned) := match word with
    | '+' :: rest => (false, rest)
    | '-' :: rest => (true, rest)
    | rest => (false, rest)
  let mantissa := unsigned.takeWhile fun c => c.isDigit || c = '.'
  let digits := mantissa.filter Char.isDigit
  let places := ((mantissa.dropWhile (· ≠ '.')).drop 1).length
  let exponent := (Text.integer? ((unsigned.drop mantissa.length).drop 1)).getD 0 - places
  let n := (Text.digits? digits).getD 0
  let x := Float.ofScientific n (exponent < 0) (min exponent.natAbs 100000)
  if negative then -x else x

/-- The value of a word: a number if it is one, and otherwise the word itself. -/
def wordValue (word : List Char) : Json :=
  let text := String.ofList word
  if isDecimal word then .number (.real (decimalValue word))
  else match (Text.natural? word).filter (· < UInt64.size) with
    | some n => .ofNat n
    | none => match Text.boundedInteger? Int64.minValue.toInt Int64.maxValue.toInt text with
      | some n => .ofInt n
      | none => .string text

def readKey : Reader String := fun cs => do
  let (key, rest) ← match skipBlanks cs with
    | '"' :: rest => Toml.asString (Toml.quotedLine rest)
    | cs =>
      let word := cs.takeWhile isKeyChar
      if word.isEmpty then none else some (String.ofList word, cs.dropWhile isKeyChar)
  match skipBlanks rest with
  | '=' :: rest => some (key, rest)
  | _ => none

mutual

/-- Reads a value with the blanks around it; `fuel` is more than twice its length. -/
def readValue : Nat → Reader Json
  | 0, _ => none
  | fuel + 1, cs => do
    let (value, rest) ← match skipBlanks cs with
      | 't' :: 'r' :: 'u' :: 'e' :: rest => some (.bool true, rest)
      | 'f' :: 'a' :: 'l' :: 's' :: 'e' :: rest => some (.bool false, rest)
      | '\x7b' :: rest => (readMembers fuel rest).map fun (members, rest) =>
        (.object members, rest)
      | '[' :: rest => (readItems fuel rest).map fun (items, rest) => (.array items, rest)
      | '"' :: rest => (Toml.asString (Toml.quotedLine rest)).map fun (text, rest) =>
        (.string text, rest)
      | '\'' :: c :: '\'' :: rest => some (.string (String.ofList [c]), rest)
      | '\'' :: _ => none
      | cs =>
        let word := cs.takeWhile (!isSeparator ·)
        some (wordValue (Text.trim word), cs.dropWhile (!isSeparator ·))
    return (value, skipBlanks rest)

/-- Reads the items of a list up to its end. -/
def readItems : Nat → Reader (List Json)
  | 0, _ => none
  | fuel + 1, cs =>
    match skipBlanks cs with
    | ']' :: rest => some ([], rest)
    | cs => do
      let (item, rest) ← readValue fuel cs
      match rest with
      | ',' :: rest => (readItems fuel rest).map fun (items, rest) => (item :: items, rest)
      | ']' :: rest => some ([item], rest)
      | _ => none

/-- Reads the members of a table up to its end. -/
def readMembers : Nat → Reader (List (String × Json))
  | 0, _ => none
  | fuel + 1, cs =>
    match skipBlanks cs with
    | '\x7d' :: rest => some ([], rest)
    | cs => do
      let (key, rest) ← readKey cs
      let (value, rest) ← readValue fuel rest
      match rest with
      | ',' :: rest => (readMembers fuel rest).map fun (members, rest) =>
        ((key, value) :: members, rest)
      | '\x7d' :: rest => some ([(key, value)], rest)
      | _ => none

end

def valueOf (text : String) : Json :=
  let cs := text.toList
  match readValue (2 * cs.length + 2) cs with
  | some (value, []) => value.canonical
  | _ => .string text

/-! ### Names -/

/-- What the names of all settings begin with. -/
def namePrefix : List Char := "gateway_".toList

/-- The levels between double underscores, which count as points. -/
def withPoints : List Char → List Char
  | '_' :: '_' :: rest => '.' :: withPoints rest
  | c :: rest => c :: withPoints rest
  | [] => []

/-- The levels of the name of a setting, unless a variable is none. -/
def levels? (name : String) : Option (List String) :=
  let cs := name.toLower.toList
  if namePrefix.isPrefixOf cs then
    let levels := Text.splitAtMark '.' (withPoints (cs.drop namePrefix.length))
    if levels.all (!·.isEmpty) then some (levels.map String.ofList) else none
  else none

/-- A value under the levels of a name. -/
def nested (levels : List String) (value : Json) : Json :=
  levels.foldr (fun level inner => .object [(level, inner)]) value

/-- The setting of a variable, if it is one. -/
def setting? (name value : String) : Option Json :=
  (levels? name).map fun levels => nested levels (valueOf value)

end Governance.Environment

/-!
## Where a configuration comes from

The usual settings, those of a file and those of the environment are laid over each other; of two settings
with one name the later one counts. What comes out has to be a configuration, and a usable one.
-/

namespace Governance

open Json

namespace Json

mutual

/-- One value laid over another one, both with their objects as maps: objects member by member, and
anything else instead of it. -/
def overlay : Json → Json → Json
  | .object below, .object above => .object (overlayMembers below above)
  | _, above => above
termination_by _ above => sizeOf above

/-- Members laid over others, one after the other. -/
def overlayMembers : List (String × Json) → List (String × Json) → List (String × Json)
  | below, [] => below
  | below, (key, value) :: rest =>
    let value := match lookup key below with
      | some old => overlay old value
      | none => value
    overlayMembers (insertMember key value below) rest
termination_by _ above => sizeOf above

end

end Json

/-- Why a configuration could not be loaded: a setting of a wrong form, by its name, which is empty when
the file is no document; or one that may not be nought. -/
inductive LoadError where
  | unreadable (setting : String)
  | invalid (setting : String)
  deriving DecidableEq, Repr

namespace GatewayConfig

/-- The sections of a configuration with their settings in their order. -/
def sectionFields : List (String × List String) := [
  ("license", licenseFields), ("audit", auditFields), ("metrics", metricsFields),
  ("policy", policyFields), ("server", serverFields), ("logging", loggingFields)]

/-- A section that is written as a list, without what is too much in it. -/
def trimmedSection (name : String) (value : Json) : Json :=
  match value, sectionFields.lookup name with
  | .array items, some fields => .array (items.take fields.length)
  | value, _ => value

/-- A configuration whose sections may be lists with more in them than they have settings. -/
def ofSettings : Decoder GatewayConfig
  | .object members => ofJson (.object (members.map fun (name, value) =>
    (name, trimmedSection name value)))
  | value => ofJson value

/-- The settings of the environment. Its variables are taken in the order given. -/
def environmentSettings (environment : List (String × String)) : Json :=
  (environment.filterMap fun (name, value) => Environment.setting? name value).foldl
    Json.overlay (.object [])

/-- The settings of all sources laid over each other. -/
def settings (file : List (String × Json)) (environment : List (String × String)) : Json :=
  (standard.toJson.canonical.overlay (Json.object file).canonical).overlay
    (environmentSettings environment)

/-- The members of a file, which may be missing. -/
def fileMembers (file : Option String) : Except LoadError (List (String × Json)) :=
  match file with
  | none => .ok []
  | some text => match Toml.parse? text with
    | some members => .ok members
    | none => .error (.unreadable "")

def load (file : Option String) (environment : List (String × String)) :
    Except LoadError GatewayConfig := do
  match ofSettings (settings (← fileMembers file) environment) with
  | .error e => throw (.unreadable (".".intercalate e.path))
  | .ok c => match c.fault? with
    | some setting => throw (.invalid setting)
    | none => return c

end GatewayConfig

end Governance
