import Governance.Json.Token

/-!
# Percent escapes

In an address a percent sign and two hexadecimal digits stand for a byte, and the bytes of a text are
its UTF-8. A percent sign without two digits behind it stands for itself. Bytes that are no UTF-8 are
either refused or replaced, each stretch that could have begun a character by one mark.
-/

namespace Governance.Text

def percentBytes : List Char → List UInt8
  | [] => []
  | '%' :: a :: b :: rest =>
    match Json.hexValue? a, Json.hexValue? b with
    | some high, some low => UInt8.ofNat (high * 16 + low) :: percentBytes rest
    | _, _ => String.utf8EncodeChar '%' ++ percentBytes (a :: b :: rest)
  | c :: rest => String.utf8EncodeChar c ++ percentBytes rest

def ofUtf8? (bytes : List UInt8) : Option String := String.fromUTF8? ⟨bytes.toArray⟩

/-- The text that stands behind escapes, unless its bytes are no UTF-8. -/
def percentDecode? (text : String) : Option String := ofUtf8? (percentBytes text.toList)

/-! ### Writing escapes -/

def upperHexDigit (n : Nat) : Char :=
  if n < 10 then Char.ofNat ('0'.toNat + n) else Char.ofNat ('A'.toNat + (n - 10))

/-- Whether a character stands for itself everywhere in an address. -/
def isUnreserved (c : Char) : Bool :=
  c.isAlphanum || c = '-' || c = '.' || c = '_' || c = '~'

def percentEscape (b : UInt8) : List Char :=
  ['%', upperHexDigit (b.toNat / 16), upperHexDigit (b.toNat % 16)]

/-- A text with everything escaped that might mean something else in an address. -/
def percentEncode (text : String) : String :=
  String.ofList (text.toList.flatMap fun c =>
    if isUnreserved c then [c] else (String.utf8EncodeChar c).flatMap percentEscape)

/-! ### Bytes that may be no UTF-8 -/

/-- How many bytes go on a character that begins with a byte, and the bounds of the first of them. -/
def continuation? (b : UInt8) : Option (Nat × UInt8 × UInt8) :=
  if b < 0x80 then some (0, 0x80, 0xBF)
  else if 0xC2 ≤ b && b ≤ 0xDF then some (1, 0x80, 0xBF)
  else if b = 0xE0 then some (2, 0xA0, 0xBF)
  else if b = 0xED then some (2, 0x80, 0x9F)
  else if 0xE1 ≤ b && b ≤ 0xEF then some (2, 0x80, 0xBF)
  else if b = 0xF0 then some (3, 0x90, 0xBF)
  else if 0xF1 ≤ b && b ≤ 0xF3 then some (3, 0x80, 0xBF)
  else if b = 0xF4 then some (3, 0x80, 0x8F)
  else none

/-- The bytes at the beginning that go on a character of which a number of bytes is missing. -/
def continuing : Nat → UInt8 → UInt8 → List UInt8 → List UInt8
  | n + 1, low, high, b :: rest =>
    if low ≤ b && b ≤ high then b :: continuing n 0x80 0xBF rest else []
  | _, _, _, _ => []

/-- The character at the beginning of bytes, if there is one, and how many bytes after the first one
are its own, or would be if the character went on. -/
def firstChar (b : UInt8) (rest : List UInt8) : Option Char × Nat :=
  match continuation? b with
  | none => (none, 0)
  | some (n, low, high) =>
    let more := continuing n low high rest
    let char := match (ofUtf8? (b :: more)).map String.toList with
      | some [c] => some c
      | _ => none
    (char, more.length)

/-- The characters of bytes after the first `passed`, with nothing in place of each stretch that is no
UTF-8. -/
def charsBehind : Nat → List UInt8 → List (Option Char)
  | _, [] => []
  | passed + 1, _ :: rest => charsBehind passed rest
  | 0, b :: rest => (firstChar b rest).1 :: charsBehind (firstChar b rest).2 rest

/-- The characters of bytes. -/
def charsOf (bytes : List UInt8) : List (Option Char) := charsBehind 0 bytes

/-- The mark that stands for bytes that are no UTF-8. -/
def replacement : Char := Char.ofNat 0xFFFD

/-- The text that stands behind escapes; bytes that are no UTF-8 are replaced. -/
def percentDecode (text : String) : String :=
  String.ofList ((charsOf (percentBytes text.toList)).map (·.getD replacement))

end Governance.Text
