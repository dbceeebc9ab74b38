import Governance.Decimal.Shortest
import Governance.Json.Value

/-!
# Compact JSON text

Values are written without blanks, members in the order of their list. In strings the quote, the
backslash and the control characters are escaped and nothing else is; numbers are written with the
fewest digits that read back.
-/

namespace Governance.Json

open Decimal

/-- The lower case hexadecimal digit of a value below sixteen. -/
def hexDigit (n : Nat) : Char :=
  if n < 10 then Char.ofNat ('0'.toNat + n) else Char.ofNat ('a'.toNat + (n - 10))

/-- A character as it stands inside a quoted string. -/
def escapeChar (c : Char) : List Char :=
  match c with
  | '"' => ['\\', '"']
  | '\\' => ['\\', '\\']
  | '\x08' => ['\\', 'b']
  | '\x0c' => ['\\', 'f']
  | '\n' => ['\\', 'n']
  | '\r' => ['\\', 'r']
  | '\t' => ['\\', 't']
  | c =>
    if c.toNat < 32 then
      ['\\', 'u', '0', '0', hexDigit (c.toNat / 16), hexDigit (c.toNat % 16)]
    else [c]

def quoted (text : String) : List Char := '"' :: text.toList.flatMap escapeChar ++ ['"']

/-- A number; a double that is not finite has no notation and is written as null. -/
def numberText : Number → List Char
  | .integer value => integerText value
  | .real value => if value.isFinite then Layout.json.text value else "null".toList

mutual

/-- The compact text of a value. -/
def text : Json → List Char
  | .null => "null".toList
  | .bool true => "true".toList
  | .bool false => "false".toList
  | .number value => numberText value
  | .string value => quoted value
  | .array items => '[' :: itemsText items ++ [']']
  | .object members => '\x7b' :: membersText members ++ ['\x7d']

/-- The values of an array with commas between them. -/
def itemsText : List Json → List Char
  | [] => []
  | [item] => text item
  | item :: next :: rest => text item ++ ',' :: itemsText (next :: rest)

/-- The members of an object with commas between them. -/
def membersText : List (String × Json) → List Char
  | [] => []
  | [(key, value)] => quoted key ++ ':' :: text value
  | (key, value) :: next :: rest =>
    quoted key ++ ':' :: text value ++ ',' :: membersText (next :: rest)

end

def render (value : Json) : String := String.ofList value.text

end Governance.Json
