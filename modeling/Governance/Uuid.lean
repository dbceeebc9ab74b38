/-!
# Universally unique identifiers

A hundred and twenty-eight bits, written as thirty-two hexadecimal digits in five groups. They are
read with or without the hyphens, in braces, or as a URN.
-/

namespace Governance

/-- A universally unique identifier. -/
structure Uuid where
  bits : BitVec 128
  deriving DecidableEq, Repr

namespace Uuid

/-- The lower case hexadecimal digits of a number, most significant first. -/
def hexDigits : Nat → Nat → List Char
  | 0, _ => []
  | count + 1, n =>
    let digit := n / Nat.pow 16 count % 16
    (if digit < 10 then Char.ofNat ('0'.toNat + digit) else Char.ofNat ('a'.toNat + digit - 10)) ::
      hexDigits count n

/-- The text in five groups. -/
def text (u : Uuid) : List Char :=
  let digits := hexDigits 32 u.bits.toNat
  digits.take 8 ++ '-' :: (digits.drop 8).take 4 ++ '-' :: (digits.drop 12).take 4 ++
    '-' :: (digits.drop 16).take 4 ++ '-' :: digits.drop 20

def render (u : Uuid) : String := String.ofList u.text

def digitValue? (c : Char) : Option Nat :=
  if '0' ≤ c && c ≤ '9' then some (c.toNat - '0'.toNat)
  else if 'a' ≤ c && c ≤ 'f' then some (c.toNat - 'a'.toNat + 10)
  else if 'A' ≤ c && c ≤ 'F' then some (c.toNat - 'A'.toNat + 10)
  else none

def numberOf? : Nat → List Char → Option Nat
  | value, [] => some value
  | value, c :: rest => (digitValue? c).bind fun digit => numberOf? (value * 16 + digit) rest

/-- Reads thirty-two digits in five groups. -/
def ofGroups? (cs : List Char) : Option Uuid :=
  if cs.length = 36 && cs[8]? = some '-' && cs[13]? = some '-' && cs[18]? = some '-' &&
      cs[23]? = some '-' then
    (numberOf? 0 (cs.take 8 ++ (cs.drop 9).take 4 ++ (cs.drop 14).take 4 ++
      (cs.drop 19).take 4 ++ cs.drop 24)).map fun n => ⟨BitVec.ofNat 128 n⟩
  else none

/-- How the form as a URN begins. -/
def urnStart : List Char := "urn:uuid:".toList

def ofChars? (cs : List Char) : Option Uuid :=
  match cs.length with
  | 32 => (numberOf? 0 cs).map fun n => ⟨BitVec.ofNat 128 n⟩
  | 36 => ofGroups? cs
  | 38 =>
    if cs.head? = some '\x7b' && cs.getLast? = some '\x7d' then ofGroups? ((cs.drop 1).take 36)
    else none
  | 45 => if cs.take 9 = urnStart then ofGroups? (cs.drop 9) else none
  | _ => none

def parse? (text : String) : Option Uuid := ofChars? text.toList

/-- The random identifier made of a number: version four, variant one. -/
def ofRandom (n : Nat) : Uuid :=
  let bits := BitVec.ofNat 122 n
  ⟨bits.extractLsb' 74 48 ++ 4#4 ++ bits.extractLsb' 62 12 ++ 2#2 ++ bits.extractLsb' 0 62⟩

end Uuid

end Governance
