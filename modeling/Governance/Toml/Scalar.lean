import Governance.Json.Token
import Governance.Time.Instant
import Governance.Toml.Text

/-!
# Scalars in TOML documents

Truth values, numbers and dates are words. Underscores may stand between the digits of a number, and an
integer has sixty-four bits. A date becomes an object with one member, so that it is neither a text nor
a number.
-/

namespace Governance.Toml

/-- The digits of a run in which single underscores may stand between them. -/
def digitRun? (isDigit : Char → Bool) : List Char → Option (List Char)
  | [] => none
  | [c] => if isDigit c then some [c] else none
  | c :: '_' :: rest => if isDigit c then (digitRun? isDigit rest).map (c :: ·) else none
  | c :: rest => if isDigit c then (digitRun? isDigit rest).map (c :: ·) else none

/-- The sign of a number and what stands behind it. -/
def splitSign : List Char → Bool × List Char
  | '+' :: rest => (false, rest)
  | '-' :: rest => (true, rest)
  | cs => (false, cs)

/-- Whether digits begin with a nought that does not stand alone. -/
def hasLeadingZero : List Char → Bool
  | '0' :: _ :: _ => true
  | _ => false

/-- The integer of a sign and digits in a base, if it has sixty-four bits. -/
def integerOf? (negative : Bool) (base : Nat) (digits : List Char) : Option Json := do
  let values ← digits.mapM Json.hexValue?
  let n : Int := (values.foldl (fun n d => n * base + d) 0 : Nat)
  let n := if negative then -n else n
  if Int64.minValue.toInt ≤ n && n ≤ Int64.maxValue.toInt then some (.ofInt n) else none

def isDigitIn (base : Nat) (c : Char) : Bool := (Json.hexValue? c).any (· < base)

def integer? : List Char → Option Json
  | '0' :: 'x' :: rest => (digitRun? (isDigitIn 16) rest).bind (integerOf? false 16)
  | '0' :: 'o' :: rest => (digitRun? (isDigitIn 8) rest).bind (integerOf? false 8)
  | '0' :: 'b' :: rest => (digitRun? (isDigitIn 2) rest).bind (integerOf? false 2)
  | cs => do
    let (negative, cs) := splitSign cs
    let digits ← digitRun? Char.isDigit cs
    if hasLeadingZero digits then none else integerOf? negative 10 digits

/-- The digits of the exponent of a number, behind a sign if there is one. -/
def exponent? (cs : List Char) : Option (List Char) := do
  let (negative, cs) := splitSign cs
  let digits ← digitRun? Char.isDigit cs
  return if negative then '-' :: digits else digits

/-- The number in front of an exponent: its whole part, and its fraction if it has one. -/
def mantissa? (cs : List Char) : Option (List Char) := do
  let whole ← digitRun? Char.isDigit (cs.takeWhile (· ≠ '.'))
  if hasLeadingZero whole then none
  else match cs.dropWhile (· ≠ '.') with
    | '.' :: fraction => return whole ++ '.' :: (← digitRun? Char.isDigit fraction)
    | _ => return whole

/-- The number with a fraction or an exponent that a word stands for, unless it is too large. -/
def float? (cs : List Char) : Option Json := do
  let (negative, unsigned) := splitSign cs
  let isMark := fun c => c = 'e' || c = 'E'
  let number ← mantissa? (unsigned.takeWhile (!isMark ·))
  let number ← match unsigned.dropWhile (!isMark ·) with
    | _ :: rest => do pure (number ++ 'e' :: (← exponent? rest))
    | [] => if number.contains '.' then pure number else none
  let parts ← Json.NumberParts.ofChars? (if negative then '-' :: number else number)
  return .number (← parts.value?)

/-! ### Dates -/

/-- The number that so many digits at the beginning stand for, between two bounds. -/
def twoDigits? (low high : Nat) : Reader Nat
  | a :: b :: rest =>
    if a.isDigit && b.isDigit then
      let n := Json.digitValue a * 10 + Json.digitValue b
      if low ≤ n && n ≤ high then some (n, rest) else none
    else none
  | _ => none

def afterDate? (cs : List Char) : Option (List Char) := do
  let (century, cs) ← twoDigits? 0 99 cs
  let (year, cs) ← twoDigits? 0 99 cs
  let '-' :: cs := cs | none
  let (month, cs) ← twoDigits? 1 12 cs
  let '-' :: cs := cs | none
  let (_, cs) ← twoDigits? 1 (Time.daysInMonth (century * 100 + year : Nat) month) cs
  return cs

def afterTime? (cs : List Char) : Option (List Char) := do
  let (_, cs) ← twoDigits? 0 23 cs
  let ':' :: cs := cs | none
  let (_, cs) ← twoDigits? 0 59 cs
  let ':' :: cs := cs | none
  let (_, cs) ← twoDigits? 0 60 cs
  match cs with
  | '.' :: fraction =>
    if (fraction.takeWhile Char.isDigit).isEmpty then none
    else return fraction.dropWhile Char.isDigit
  | cs => return cs

/-- Whether a word says how far a time is from the meridian. -/
def isOffset : List Char → Bool
  | [c] => c = 'Z' || c = 'z'
  | sign :: rest => (sign = '+' || sign = '-') && match twoDigits? 0 23 rest with
    | some (_, ':' :: rest) => (twoDigits? 0 59 rest).any (·.2.isEmpty)
    | _ => false
  | [] => false

/-- Whether a word is a date, a time of the day, or both. -/
def isDateTime (cs : List Char) : Bool :=
  match afterDate? cs with
  | some [] => true
  | some (mark :: rest) => (mark = 'T' || mark = 't' || mark = ' ') &&
    (afterTime? rest).any fun behind => behind.isEmpty || isOffset behind
  | none => (afterTime? cs).any (·.isEmpty)

/-- The key of the member that a date has. -/
def dateKey : String := "date"

/-! ### Words -/

def isWordChar (c : Char) : Bool :=
  c.isAlphanum || c = '+' || c = '-' || c = '.' || c = ':' || c = '_'

/-- The word at the beginning. A blank may stand between a date and a time of the day. -/
def spanWord (cs : List Char) : List Char × List Char :=
  let word := cs.takeWhile isWordChar
  match afterDate? word, cs.dropWhile isWordChar with
  | some [], ' ' :: c :: rest =>
    if c.isDigit then
      (word ++ ' ' :: (c :: rest).takeWhile isWordChar, (c :: rest).dropWhile isWordChar)
    else (word, ' ' :: c :: rest)
  | _, behind => (word, behind)

/-- The number without a value or beyond all others that a word stands for. -/
def extreme? (cs : List Char) : Option Json :=
  let (negative, word) := splitSign cs
  let value (x : Float) : Json := .number (.real (if negative then -x else x))
  if word = "inf".toList then some (value (1.0 / 0.0))
  else if word = "nan".toList then some (value (0.0 / 0.0))
  else none

def wordValue? (word : List Char) : Option Json :=
  if word = "true".toList then some (.bool true)
  else if word = "false".toList then some (.bool false)
  else if isDateTime word then some (.object [(dateKey, .string (String.ofList word))])
  else ((integer? word).or (float? word)).or (extreme? word)

def readWord : Reader Json := fun cs =>
  let (word, rest) := spanWord cs
  (wordValue? word).map fun value => (value, rest)

end Governance.Toml
