import Governance.Json.Value

/-!
# Tokens of a JSON document

The scanner reads characters one at a time and yields the tokens in order. It is a machine with a
small state, so it is total, and a document that breaks off yields the tokens before the break
followed by the mark `none`.

A number is read as sixty-four bits of leading digits and a power of ten, and scaled by one
multiplication or division of doubles; integers that fit in sixty-four bits stay integers. A number
too large for a double, and a text with half of a surrogate pair, have the right form and yet stand
for nothing: they are void.
-/

namespace Governance.Json

/-- The smallest piece of a document that has a meaning. -/
inductive Token where
  | openArray
  | closeArray
  | openObject
  | closeObject
  | colon
  | comma
  | null
  | bool (value : Bool)
  | number (value : Number)
  | string (value : String)
  | void
  deriving BEq, Repr

/-! ### Numbers -/

/-- The digits kept of a number: the value of those that fit in sixty-four bits and the power of ten
of the last of them. -/
structure Kept where
  significand : Nat
  exponent : Int
  deriving Repr

/-- Whether one more digit still fits in sixty-four bits. -/
def Kept.fits (k : Kept) (digit : Nat) : Bool := k.significand * 10 + digit < UInt64.size

def digitValue (c : Char) : Nat := c.toNat - '0'.toNat

/-- Reads the digits before the point. Once a digit does not fit, it and all that follow count as
powers of ten. -/
def Kept.whole : List Char → Kept → Kept
  | [], k => k
  | c :: rest, k =>
    if k.exponent = 0 && k.fits (digitValue c) then
      Kept.whole rest ⟨k.significand * 10 + digitValue c, 0⟩
    else Kept.whole rest ⟨k.significand, k.exponent + 1⟩

/-- Reads the digits behind the point. Once a digit does not fit, it and all that follow are
dropped. -/
def Kept.fraction : List Char → Kept → Kept
  | [], k => k
  | c :: rest, k =>
    if k.fits (digitValue c) then
      Kept.fraction rest ⟨k.significand * 10 + digitValue c, k.exponent - 1⟩
    else k

/-- The powers of ten that a double holds, or the nearest double of each. -/
def powerOfTen (n : Nat) : Float := Float.ofScientific 1 false n

/-- Divides by a power of ten, in steps of the largest one that a double holds. -/
def scaleDown : Nat → Float → Nat → Float
  | 0, x, _ => x
  | fuel + 1, x, n =>
    if n ≤ 308 then x / powerOfTen n
    else if x == 0.0 then x
    else scaleDown fuel (x / powerOfTen 308) (n - 308)

/-- The double `significand * 10 ^ exponent`, or nothing when it is too large. -/
def Kept.toFloat? (k : Kept) : Option Float :=
  let x := Float.ofNat k.significand
  if 0 ≤ k.exponent then
    if k.exponent ≤ 308 then
      let scaled := x * powerOfTen k.exponent.toNat
      if scaled.isInf then none else some scaled
    else if x == 0.0 then some x
    else none
  else some (scaleDown 5 x (-k.exponent).toNat)

/-- The parts of a number as they stand in the text. -/
structure NumberParts where
  negative : Bool
  whole : List Char
  fraction : Option (List Char)
  exponent : Option (Bool × List Char)
  deriving Repr

def spanDigits (cs : List Char) : List Char × List Char :=
  (cs.takeWhile Char.isDigit, cs.dropWhile Char.isDigit)

/-- The exponent part: a sign, if any, and at least one digit, and then nothing. -/
def exponentParts : List Char → Option (Option (Bool × List Char))
  | [] => some none
  | e :: rest =>
    if e = 'e' || e = 'E' then
      let (negative, digits) := match rest with
        | '+' :: ds => (false, ds)
        | '-' :: ds => (true, ds)
        | ds => (false, ds)
      if digits.isEmpty || !digits.all Char.isDigit then none else some (some (negative, digits))
    else none

/-- Splits the text of a number; a leading zero stands alone and a point has digits on both
sides. -/
def NumberParts.ofChars? (cs : List Char) : Option NumberParts :=
  let (negative, cs) := match cs with
    | '-' :: rest => (true, rest)
    | rest => (false, rest)
  let (whole, rest) := spanDigits cs
  let wholeFits := match whole with
    | [] => false
    | '0' :: _ :: _ => false
    | _ => true
  if !wholeFits then none
  else match rest with
    | '.' :: rest =>
      let (fraction, rest) := spanDigits rest
      if fraction.isEmpty then none
      else (exponentParts rest).map fun exponent => ⟨negative, whole, some fraction, exponent⟩
    | rest => (exponentParts rest).map fun exponent => ⟨negative, whole, none, exponent⟩

def naturalOfDigits (cs : List Char) : Nat := cs.foldl (fun n c => n * 10 + digitValue c) 0

/-- An exponent beyond thirty-one bits is out of reach of every significand but zero. -/
def exponentLimit : Nat := UInt32.size / 2

/-- The number a text stands for, or nothing when it is too large for a double. -/
def NumberParts.value? (p : NumberParts) : Option Number :=
  let sign := fun (x : Float) => Number.real (if p.negative then -x else x)
  let whole := Kept.whole p.whole ⟨0, 0⟩
  match p.fraction, p.exponent with
  | none, none =>
    let n : Int := if p.negative then -(whole.significand : Int) else whole.significand
    if whole.exponent = 0 && Number.isExact n && !(p.negative && n = 0) then
      some (.integer n)
    else whole.toFloat?.map sign
  | fraction, exponent =>
    let kept := match fraction with
      | none => whole
      | some digits => Kept.fraction digits whole
    match exponent with
    | none => kept.toFloat?.map sign
    | some (negative, digits) =>
      let shift := naturalOfDigits digits
      if exponentLimit ≤ shift then
        if kept.significand = 0 || negative then some (sign 0.0) else none
      else
        let exponent : Int := if negative then kept.exponent - shift else kept.exponent + shift
        Kept.toFloat? ⟨kept.significand, exponent⟩ |>.map sign

def numberToken? (cs : List Char) : Option Token :=
  (NumberParts.ofChars? cs).map fun p => match p.value? with
    | some value => .number value
    | none => .void

/-! ### The scanner -/

/-- What the scanner is in the middle of. Collected characters are kept in reverse. -/
inductive ScanState where
  | between
  | word (rest : List Char) (token : Token)
  | number (taken : List Char)
  | string (taken : List Char)
  | escape (taken : List Char)
  | hex (taken : List Char) (high : Option Nat) (digits : Nat) (value : Nat)
  | lowEscape (taken : List Char) (high : Nat)
  | lowHex (taken : List Char) (high : Nat)
  | voidString
  | voidEscape
  | voidHex (digits : Nat)
  deriving Repr

/-- The characters that may stand in a number. -/
def isNumberChar (c : Char) : Bool :=
  c.isDigit || c = '+' || c = '-' || c = '.' || c = 'e' || c = 'E'

/-- The blanks between tokens. -/
def isBlankChar (c : Char) : Bool := c = ' ' || c = '\n' || c = '\t' || c = '\r'

def hexValue? (c : Char) : Option Nat :=
  if '0' ≤ c && c ≤ '9' then some (c.toNat - '0'.toNat)
  else if 'a' ≤ c && c ≤ 'f' then some (c.toNat - 'a'.toNat + 10)
  else if 'A' ≤ c && c ≤ 'F' then some (c.toNat - 'A'.toNat + 10)
  else none

/-- The character an escape letter stands for. -/
def escapedChar? : Char → Option Char
  | '"' => some '"'
  | '\\' => some '\\'
  | '/' => some '/'
  | 'b' => some '\x08'
  | 'f' => some '\x0c'
  | 'n' => some '\n'
  | 'r' => some '\r'
  | 't' => some '\t'
  | _ => none

/-- Starts a token at a character that stands between tokens. -/
def startToken (c : Char) : Option (ScanState × List Token) :=
  match c with
  | '[' => some (.between, [.openArray])
  | ']' => some (.between, [.closeArray])
  | '\x7b' => some (.between, [.openObject])
  | '\x7d' => some (.between, [.closeObject])
  | ':' => some (.between, [.colon])
  | ',' => some (.between, [.comma])
  | '"' => some (.string [], [])
  | 'n' => some (.word ['u', 'l', 'l'] .null, [])
  | 't' => some (.word ['r', 'u', 'e'] (.bool true), [])
  | 'f' => some (.word ['a', 'l', 's', 'e'] (.bool false), [])
  | c =>
    if isBlankChar c then some (.between, [])
    else if c = '-' || c.isDigit then some (.number [c], [])
    else none

/-- Ends an escape of four hexadecimal digits: a character, or the first half of a pair. A half that
stands alone makes the text void. -/
def closeHex (taken : List Char) (high : Option Nat) (value : Nat) : ScanState :=
  match high with
  | none =>
    if 0xD800 ≤ value && value < 0xDC00 then .lowEscape taken value
    else if 0xDC00 ≤ value && value < 0xE000 then .voidString
    else .string (Char.ofNat value :: taken)
  | some first =>
    if 0xDC00 ≤ value && value < 0xE000 then
      let code := 0x10000 + (first - 0xD800) * 0x400 + (value - 0xDC00)
      .string (Char.ofNat code :: taken)
    else .voidString

/-- Reads a character of a text that is void. -/
def scanVoid (c : Char) : Option (ScanState × List Token) :=
  if c = '"' then some (.between, [.void])
  else if c = '\\' then some (.voidEscape, [])
  else if c.toNat < 32 then none
  else some (.voidString, [])

/-- Reads the letter of an escape in a text that is void. -/
def scanVoidEscape (c : Char) : Option (ScanState × List Token) :=
  if c = 'u' then some (.voidHex 4, []) else (escapedChar? c).map fun _ => (.voidString, [])

/-- Reads one character. Nothing means that no document continues this way. -/
def scanChar (state : ScanState) (c : Char) : Option (ScanState × List Token) :=
  match state with
  | .between => startToken c
  | .word rest token =>
    match rest with
    | [] => none
    | [last] => if c = last then some (.between, [token]) else none
    | next :: more => if c = next then some (.word more token, []) else none
  | .number taken =>
    if isNumberChar c then some (.number (c :: taken), [])
    else do
      let token ← numberToken? taken.reverse
      let (state, tokens) ← startToken c
      some (state, token :: tokens)
  | .string taken =>
    if c = '"' then some (.between, [.string (String.ofList taken.reverse)])
    else if c = '\\' then some (.escape taken, [])
    else if c.toNat < 32 then none
    else some (.string (c :: taken), [])
  | .escape taken =>
    if c = 'u' then some (.hex taken none 4 0, [])
    else (escapedChar? c).map fun e => (.string (e :: taken), [])
  | .hex taken high digits value => do
    let digit ← hexValue? c
    let value := value * 16 + digit
    if digits = 1 then some (closeHex taken high value, [])
    else some (.hex taken high (digits - 1) value, [])
  | .lowEscape taken high => if c = '\\' then some (.lowHex taken high, []) else scanVoid c
  | .lowHex taken high =>
    if c = 'u' then some (.hex taken (some high) 4 0, []) else scanVoidEscape c
  | .voidString => scanVoid c
  | .voidEscape => scanVoidEscape c
  | .voidHex digits => (hexValue? c).map fun _ =>
    (if digits = 1 then .voidString else .voidHex (digits - 1), [])

/-- What the end of the text makes of a state: the last tokens, or nothing when something is left
unfinished. -/
def ScanState.finish : ScanState → Option (List Token)
  | .between => some []
  | .number taken => (numberToken? taken.reverse).map fun token => [token]
  | _ => none

/-- The tokens of a text from a state on; `none` at the end marks a text that breaks off. -/
def scanFrom (state : ScanState) : List Char → List (Option Token)
  | [] => match state.finish with
    | some tokens => tokens.map some
    | none => [none]
  | c :: rest => match scanChar state c with
    | some (next, tokens) => tokens.map some ++ scanFrom next rest
    | none =>
      match state with
      | .number taken => match numberToken? taken.reverse with
        | some token => [some token, none]
        | none => [none]
      | _ => [none]

/-- The tokens of a text; `none` at the end marks a text that breaks off. -/
def scan (cs : List Char) : List (Option Token) := scanFrom .between cs

end Governance.Json
