import Governance.Text.Category
import Governance.Text.Folding
import Governance.Text.Property
import Governance.Text.Script

/-!
# Sets of characters

A set is a list of ranges of code points, sorted and apart from each other, so that a set has one
form and complement and intersection are a pass over the list.
-/

namespace Governance.Pattern

open Text

/-- A set of characters: ranges in ascending order that neither overlap nor touch. -/
abbrev CharSet := List CharRange

namespace CharSet

/-- The last code point. -/
def lastCode : Nat := 0x10FFFF

def everything : CharSet := [⟨0, lastCode⟩]

def single (c : Char) : CharSet := [⟨c.toNat, c.toNat⟩]

def holds (set : CharSet) (c : Char) : Bool := holdsCode set c.toNat

/-- Joins a range with the ranges that follow it in ascending order of their first code points. -/
def joinFrom (current : CharRange) : List CharRange → CharSet
  | [] => [current]
  | next :: rest =>
    if next.first ≤ current.last + 1 then
      joinFrom ⟨current.first, max current.last next.last⟩ rest
    else current :: joinFrom next rest

/-- The set covered by ranges in any order. -/
def ofRanges (ranges : List CharRange) : CharSet :=
  match ranges.mergeSort fun a b => a.first ≤ b.first with
  | [] => []
  | first :: rest => joinFrom first rest

def union (a b : CharSet) : CharSet := ofRanges (a ++ b)

/-- The gaps between the ranges, from a code point on. -/
def gapsFrom (start : Nat) : List CharRange → CharSet
  | [] => if start ≤ lastCode then [⟨start, lastCode⟩] else []
  | r :: rest =>
    (if start < r.first then [⟨start, r.first - 1⟩] else []) ++ gapsFrom (r.last + 1) rest

/-- The characters outside the set. -/
def complement (set : CharSet) : CharSet := gapsFrom 0 set

def inter (a b : CharSet) : CharSet := complement (union (complement a) (complement b))

/-- The characters of the first set that the second does not hold. -/
def diff (a b : CharSet) : CharSet := inter a (complement b)

def symmDiff (a b : CharSet) : CharSet := union (diff a b) (diff b a)

/-- Whether every character of the set is an ASCII character. -/
def isAscii (set : CharSet) : Bool := List.all set (·.last < 128)

/-- The set with every character that differs from one of its members only in case. -/
def foldCase (set : CharSet) : CharSet :=
  let touched := foldingClasses.filter fun members => members.any (holdsCode set)
  if touched.isEmpty then set
  else ofRanges (set ++ touched.flatten.map fun code => ⟨code, code⟩)

/-- The set with the other case of every ASCII letter. -/
def foldAsciiCase (set : CharSet) : CharSet :=
  let letters := (List.range 26).flatMap fun i =>
    let upper := 65 + i
    let lower := 97 + i
    (if holdsCode set upper then [⟨lower, lower⟩] else []) ++
      if holdsCode set lower then [⟨upper, upper⟩] else []
  if letters.isEmpty then set else ofRanges (set ++ letters)

end CharSet

end Governance.Pattern

namespace Governance.Pattern

/-!
## Named character classes

The classes a pattern can name: digits, blanks and word characters, the bracketed ASCII classes, and
the categories, scripts and properties of characters. Names of the last kind are compared without
regard to case, spaces, hyphens, underscores and a leading `is`.
-/

open Text

/-- A name without what does not count in comparisons. -/
def looseName (name : List Char) : String :=
  let kept := (name.filter fun c => c != ' ' && c != '_' && c != '-').map Char.toLower
  let bare := match kept with
    | 'i' :: 's' :: rest => if rest = ['c'] then kept else rest
    | rest => rest
  String.ofList bare

/-- The characters of a category or a group of categories. -/
def categorySet? (name : String) : Option CharSet :=
  match name with
  | "any" => some CharSet.everything
  | "ascii" => some [⟨0, 127⟩]
  | "assigned" => some assigned
  | "cn" => some assigned.complement
  | "unassigned" => some assigned.complement
  | "c" => some other
  | "other" => some other
  | _ => (categoryNames.find? fun entry => entry.1.contains name).map fun entry =>
      CharSet.ofRanges (entry.2.flatMap categoryRanges)
where
  assigned : CharSet := CharSet.ofRanges (categoryTable.flatMap fun entry => rangesOfText entry.2)
  other : CharSet := assigned.complement.union
    (CharSet.ofRanges (["Cc", "Cf", "Co"].flatMap categoryRanges))

def scriptSet? (name : String) : Option CharSet :=
  (scriptTable.find? fun entry => entry.1.contains name).map fun entry =>
    CharSet.ofRanges (rangesOfText entry.2)

def propertySet? (name : String) : Option CharSet :=
  (propertyTable.find? fun entry => entry.1.contains name).map fun entry =>
    CharSet.ofRanges (rangesOfText entry.2)

/-- The characters of a class given by one name. A few short names are both a category and a
property; they mean the category. -/
def namedSet? (name : List Char) : Option CharSet :=
  let name := looseName name
  let property := if name = "cf" || name = "sc" || name = "lc" then none else propertySet? name
  property.or ((categorySet? name).or (scriptSet? name))

/-- The characters of a class given by what it is and a value. -/
def valuedSet? (kind value : List Char) : Option CharSet :=
  let kind := looseName kind
  if kind = "gc" || kind = "generalcategory" then categorySet? (looseName value)
  else if kind = "sc" || kind = "script" then scriptSet? (looseName value)
  else none

/-- Decimal digits of every script. -/
def digitSet : CharSet := CharSet.ofRanges (categoryRanges "Nd")

/-- White space of every script. -/
def blankSet : CharSet :=
  [⟨9, 13⟩, ⟨32, 32⟩, ⟨0x85, 0x85⟩, ⟨0xA0, 0xA0⟩, ⟨0x1680, 0x1680⟩, ⟨0x2000, 0x200A⟩,
    ⟨0x2028, 0x2029⟩, ⟨0x202F, 0x202F⟩, ⟨0x205F, 0x205F⟩, ⟨0x3000, 0x3000⟩]

/-- Letters, marks, digits, connectors and joiners of every script. -/
def wordSet : CharSet :=
  CharSet.ofRanges (rangesOfText alphabeticText ++
    ["Mn", "Mc", "Me", "Nd", "Pc"].flatMap categoryRanges ++ [⟨0x200C, 0x200D⟩])

def isWordChar (c : Char) : Bool :=
  if c.toNat < 128 then c.isAlphanum || c = '_' else wordSet.holds c

/-- The ASCII classes that have a name in brackets. -/
def asciiSet? (name : List Char) : Option CharSet :=
  match String.ofList name with
  | "alnum" => some [⟨48, 57⟩, ⟨65, 90⟩, ⟨97, 122⟩]
  | "alpha" => some [⟨65, 90⟩, ⟨97, 122⟩]
  | "ascii" => some [⟨0, 127⟩]
  | "blank" => some [⟨9, 9⟩, ⟨32, 32⟩]
  | "cntrl" => some [⟨0, 31⟩, ⟨127, 127⟩]
  | "digit" => some [⟨48, 57⟩]
  | "graph" => some [⟨33, 126⟩]
  | "lower" => some [⟨97, 122⟩]
  | "print" => some [⟨32, 126⟩]
  | "punct" => some [⟨33, 47⟩, ⟨58, 64⟩, ⟨91, 96⟩, ⟨123, 126⟩]
  | "space" => some [⟨9, 13⟩, ⟨32, 32⟩]
  | "upper" => some [⟨65, 90⟩]
  | "word" => some [⟨48, 57⟩, ⟨65, 90⟩, ⟨95, 95⟩, ⟨97, 122⟩]
  | "xdigit" => some [⟨48, 57⟩, ⟨65, 70⟩, ⟨97, 102⟩]
  | _ => none

end Governance.Pattern
