/-!
# The shortest decimal that reads back

Every finite double is `m * 2 ^ q`, and the reals that round to it form an interval around it. The
decimal written for it is the one with the fewest digits inside that interval and, of those, the
nearest to the number itself. The search runs in exact natural arithmetic: for one digit, two
digits and so on it tests the two neighbours of the number on that decimal grid. If any point of a
grid lies in the interval then so does one of these two, so the first grid with a hit is the
shortest one, and seventeen digits always suffice.
-/

namespace Governance.Decimal

/-- How a number halfway between two equally short decimals is settled. -/
inductive Tie where
  | up
  | even
  deriving DecidableEq, Repr

/-- The positive number `digits * 10 ^ exponent`. -/
structure Scaled where
  digits : Nat
  exponent : Int
  deriving DecidableEq, Repr

/-- The magnitude `significand * 2 ^ exponent` of a finite double. The next smaller double is half
as far away as the next larger one exactly when `narrowBelow` holds. -/
structure Magnitude where
  significand : Nat
  exponent : Int
  narrowBelow : Bool
  deriving DecidableEq, Repr

/-- Splits a finite double into its parts; infinities and NaN have none. -/
def Magnitude.ofFloat? (x : Float) : Option Magnitude :=
  let bits : Nat := x.toBits.toNat
  let fraction : Nat := bits % Nat.pow 2 52
  let biased : Nat := bits / Nat.pow 2 52 % 2048
  if biased = 2047 then none
  else if biased = 0 then some ⟨fraction, -1074, false⟩
  else some ⟨Nat.pow 2 52 + fraction, (biased : Int) - 1075, fraction = 0 && 1 < biased⟩

/-- The number of decimal digits of a natural number, at least one. -/
def digitCount (n : Nat) : Nat := (Nat.toDigits 10 n).length

/-- The power of ten of the leading digit of `num / den`. -/
def leadingExponent (num den : Nat) : Int :=
  if den ≤ num then (digitCount (num / den) : Int) - 1
  else
    let count := digitCount (den / num)
    if den ≤ Nat.pow 10 (count - 1) * num then -((count - 1 : Nat) : Int) else -(count : Int)

/-- The interval of reals that round to a double, with the double itself, as numerators over one
denominator. The end points belong to it exactly when `closed` holds. -/
structure Interval where
  low : Nat
  value : Nat
  high : Nat
  den : Nat
  closed : Bool
  deriving Repr

/-- Quarter units of the last binary place hold both end points exactly. -/
def Magnitude.interval (m : Magnitude) : Interval :=
  let shift := m.exponent - 2
  let up := Nat.pow 2 shift.toNat
  { low := (4 * m.significand - if m.narrowBelow then 1 else 2) * up
    value := 4 * m.significand * up
    high := (4 * m.significand + 2) * up
    den := Nat.pow 2 (-shift).toNat
    closed := m.significand % 2 = 0 }

/-- Whether `digits * 10 ^ exponent` rounds to the double the interval belongs to. -/
def Interval.holds (i : Interval) (d : Scaled) : Bool :=
  let point := d.digits * Nat.pow 10 d.exponent.toNat * i.den
  let scale := Nat.pow 10 (-d.exponent).toNat
  if i.closed then i.low * scale ≤ point && point ≤ i.high * scale
  else i.low * scale < point && point < i.high * scale

/-- The distance from the double to a decimal, over a denominator that depends on the exponent
only. -/
def Interval.distance (i : Interval) (d : Scaled) : Nat :=
  let point := d.digits * Nat.pow 10 d.exponent.toNat * i.den
  let value := i.value * Nat.pow 10 (-d.exponent).toNat
  (point - value) + (value - point)

/-- The nearer of the two neighbours on the grid `10 ^ exponent` that lie in the interval. -/
def Interval.onGrid (i : Interval) (tie : Tie) (exponent : Int) : Option Scaled :=
  let below := i.value * Nat.pow 10 (-exponent).toNat / (i.den * Nat.pow 10 exponent.toNat)
  let low : Scaled := ⟨below, exponent⟩
  let high : Scaled := ⟨below + 1, exponent⟩
  match i.holds low && 0 < below, i.holds high with
  | true, true =>
    if i.distance low < i.distance high then some low
    else if i.distance high < i.distance low then some high
    else match tie with
      | .up => some high
      | .even => some (if below % 2 = 0 then low else high)
  | true, false => some low
  | false, true => some high
  | false, false => none

/-- Moves trailing zeros of the digits into the exponent, at most `fuel` of them. -/
def Scaled.trim : Nat → Scaled → Scaled
  | 0, d => d
  | fuel + 1, d =>
    if d.digits % 10 = 0 && d.digits ≠ 0 then Scaled.trim fuel ⟨d.digits / 10, d.exponent + 1⟩
    else d

/-- The shortest decimal that rounds to a positive magnitude. -/
def Magnitude.shortest (m : Magnitude) (tie : Tie) : Scaled :=
  let i := m.interval
  let top := leadingExponent i.value i.den
  let found := (List.range 17).findSome? fun (count : Nat) => i.onGrid tie (top - (count : Int))
  (found.getD ⟨0, 0⟩).trim 18

/-!
## Laying out a decimal as text

A shortest decimal is written either positionally or with an exponent. Which exponents are
positional, whether whole numbers keep a fractional zero and whether positive exponents carry a
sign is a `Layout`; the digits never depend on it.
-/

/-- The decisions that turn the digits of a number into text. -/
structure Layout where
  /-- Whole numbers end in `.0`. -/
  fractionalZero : Bool
  /-- Powers of ten of the leading digit that are written positionally; none means all of them. -/
  positional : Option (Int × Int)
  /-- How a number halfway between two candidates is settled. -/
  tie : Tie

/-- Numbers inside a text: every number in full, whole numbers without a fraction. -/
def Layout.plain : Layout := ⟨false, none, .up⟩

/-- Numbers of a JSON document: sixteen places before the point and four zeros behind it are
written in full, everything beyond with a signed exponent. -/
def Layout.json : Layout := ⟨true, some (-5, 15), .even⟩

def naturalText (n : Nat) : List Char := Nat.toDigits 10 n

def integerText (n : Int) : List Char :=
  if n < 0 then '-' :: naturalText n.natAbs else naturalText n.natAbs

/-- Digits with the point at its place, zeros filling the gap on either side. -/
def positionalText (digits : List Char) (exponent : Int) (fractionalZero : Bool) : List Char :=
  if 0 ≤ exponent then
    digits ++ List.replicate exponent.toNat '0' ++ if fractionalZero then ['.', '0'] else []
  else
    let places := (-exponent).toNat
    if places < digits.length then
      digits.take (digits.length - places) ++ '.' :: digits.drop (digits.length - places)
    else
      '0' :: '.' :: List.replicate (places - digits.length) '0' ++ digits

/-- One digit, the point and the other digits, and the power of ten with its sign. -/
def exponentialText (digits : List Char) (leading : Int) : List Char :=
  let body := match digits with
    | first :: second :: rest => first :: '.' :: second :: rest
    | short => short
  body ++ 'e' :: (if leading < 0 then '-' else '+') :: naturalText leading.natAbs

def Layout.scaledText (layout : Layout) (d : Scaled) : List Char :=
  let digits := naturalText d.digits
  let leading := d.exponent + (digits.length : Int) - 1
  match layout.positional with
  | none => positionalText digits d.exponent layout.fractionalZero
  | some (lowest, highest) =>
    if lowest ≤ leading && leading ≤ highest then
      positionalText digits d.exponent layout.fractionalZero
    else exponentialText digits leading

/-- The text of a double; infinities and NaN are words. -/
def Layout.text (layout : Layout) (x : Float) : List Char :=
  let sign := if x.toBits.toNat.testBit 63 then ['-'] else []
  match Magnitude.ofFloat? x with
  | none => if x.isNaN then "NaN".toList else sign ++ "inf".toList
  | some m =>
    if m.significand = 0 then sign ++ if layout.fractionalZero then ['0', '.', '0'] else ['0']
    else sign ++ layout.scaledText (m.shortest layout.tie)

end Governance.Decimal
