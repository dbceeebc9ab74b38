/-!
# Ranges of characters

A class of characters is written as ranges of hexadecimal code points, such as `41-5A AA`, and read
once into a list.
-/

namespace Governance.Text

/-- The code points from `first` to `last`, both included. -/
structure CharRange where
  first : Nat
  last : Nat
  deriving DecidableEq, Repr

def CharRange.holds (r : CharRange) (code : Nat) : Bool := r.first ≤ code && code ≤ r.last

/-- Whether a code point lies in one of the ranges. -/
def holdsCode (ranges : List CharRange) (code : Nat) : Bool := ranges.any (·.holds code)

def hexDigitValue (c : Char) : Nat :=
  if c.isDigit then c.toNat - '0'.toNat else c.toNat - 'A'.toNat + 10

/-- The ranges read so far, in reverse, the first code point of the range that is being read, if it
has ended, and the current code point, if one has begun. -/
structure RangeReader where
  ranges : List CharRange
  first : Option Nat
  value : Option Nat

/-- Ends the current range, if there is one. -/
def RangeReader.finish (r : RangeReader) : RangeReader :=
  match r.value with
  | some value => ⟨⟨r.first.getD value, value⟩ :: r.ranges, none, none⟩
  | none => r

/-- Reads one character of a list of ranges. -/
def RangeReader.step (r : RangeReader) (c : Char) : RangeReader :=
  match c with
  | ' ' => r.finish
  | '\n' => r.finish
  | '-' => ⟨r.ranges, r.value, none⟩
  | c => ⟨r.ranges, r.first, some (r.value.getD 0 * 16 + hexDigitValue c)⟩

def rangesOfText (text : String) : List CharRange :=
  (text.toList.foldl RangeReader.step ⟨[], none, none⟩).finish.ranges.reverse

end Governance.Text
