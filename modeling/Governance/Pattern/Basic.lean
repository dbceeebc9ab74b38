import Governance.Pattern.CharSet

/-!
# Patterns and their occurrences

A pattern describes texts by characters, boundaries, sequence, choice and repetition. Its occurrences
are found by carrying a set of positions through it: `ends p text starts` are the positions at which
a match of `p` that begins at one of `starts` can end. Repetition needs no more rounds than the text
has positions, because a round that does not move on adds nothing.
-/

namespace Governance.Pattern

/-- A condition on a position that consumes nothing. -/
inductive Boundary where
  | textStart
  | textEnd
  | lineStart
  | lineEnd
  | lineStartAny
  | lineEndAny
  | word (unicode : Bool)
  | notWord (unicode : Bool)
  | wordStart (unicode : Bool)
  | wordEnd (unicode : Bool)
  | wordStartHalf (unicode : Bool)
  | wordEndHalf (unicode : Bool)
  deriving DecidableEq, Repr

end Governance.Pattern

namespace Governance

open Governance.Pattern

/-- A regular expression. -/
inductive Pattern where
  | empty
  | chars (set : CharSet)
  | boundary (kind : Boundary)
  | sequence (first second : Pattern)
  | choice (first second : Pattern)
  | repeated (body : Pattern) (least : Nat) (most : Option Nat)
  deriving Repr

end Governance

namespace Governance.Pattern

/-- Whether there is a word character on that side. -/
def isWordAt (unicode : Bool) : Option Char → Bool
  | none => false
  | some c => if unicode then isWordChar c else c.isAlphanum || c = '_'

/-- Whether a boundary lies between two neighbours, of which either may be missing. -/
def Boundary.holds (kind : Boundary) (before after : Option Char) : Bool :=
  match kind with
  | .textStart => before.isNone
  | .textEnd => after.isNone
  | .lineStart => before.isNone || before = some '\n'
  | .lineEnd => after.isNone || after = some '\n'
  | .lineStartAny =>
    before.isNone || before = some '\n' || (before = some '\r' && after != some '\n')
  | .lineEndAny =>
    after.isNone || after = some '\r' || (after = some '\n' && before != some '\r')
  | .word u => isWordAt u before != isWordAt u after
  | .notWord u => isWordAt u before == isWordAt u after
  | .wordStart u => !isWordAt u before && isWordAt u after
  | .wordEnd u => isWordAt u before && !isWordAt u after
  | .wordStartHalf u => !isWordAt u before
  | .wordEndHalf u => !isWordAt u after

def charBefore (text : Array Char) (i : Nat) : Option Char :=
  if i = 0 then none else text[i - 1]?

/-- Joins two ascending lists of positions; `fuel` is at least the sum of their lengths. -/
def mergePositions : Nat → List Nat → List Nat → List Nat
  | 0, _, _ => []
  | _ + 1, [], right => right
  | _ + 1, left, [] => left
  | fuel + 1, a :: left, b :: right =>
    if a < b then a :: mergePositions fuel left (b :: right)
    else if b < a then b :: mergePositions fuel (a :: left) right
    else a :: mergePositions fuel left right

/-- The positions of either list, ascending. -/
def unite (left right : List Nat) : List Nat :=
  mergePositions (left.length + right.length + 1) left right

def iterate (step : List Nat → List Nat) : Nat → List Nat → List Nat
  | 0, positions => positions
  | count + 1, positions => iterate step count (step positions)

/-- All positions that at most so many steps reach; `fresh` are those that the last step added. -/
def closure (step : List Nat → List Nat) : Nat → List Nat → List Nat → List Nat
  | 0, seen, _ => seen
  | count + 1, seen, fresh =>
    let next := (step fresh).filter fun i => !seen.contains i
    if next.isEmpty then seen else closure step count (unite seen next) next

/-- The positions at which a match that begins at one of the given positions can end. -/
def ends (text : Array Char) : Pattern → List Nat → List Nat
  | .empty, starts => starts
  | .chars set, starts =>
    (starts.filter fun i => (text[i]?).any set.holds).map (· + 1)
  | .boundary kind, starts =>
    starts.filter fun i => kind.holds (charBefore text i) text[i]?
  | .sequence first second, starts => ends text second (ends text first starts)
  | .choice first second, starts => unite (ends text first starts) (ends text second starts)
  | .repeated body least most, starts =>
    let rounds := text.size + 2
    let reached := iterate (ends text body) (min least rounds) starts
    match most with
    | none => closure (ends text body) rounds reached reached
    | some most => closure (ends text body) (min (most - least) rounds) reached reached

/-- Whether the pattern occurs anywhere in the text. -/
def occursIn (p : Pattern) (text : String) : Bool :=
  let chars := text.toList.toArray
  !(ends chars p (List.range (chars.size + 1))).isEmpty

end Governance.Pattern

namespace Governance.Pattern

/-!
## The size of a pattern

A pattern is refused when one of the two automata over UTF-8 bytes that it stands for, the one that reads
a text from its beginning or the one that reads it from its end, would take more than ten mebibytes. Read
from the beginning, a set of characters is the smallest automaton for its encodings: characters of one
encoded length share their lead bytes, and equal sets of continuations are one state. Read from the end,
its encodings share what they begin with, range of bytes by range of bytes, and each has an arrow of its
own to where it ends. Counted repetition copies its body.
-/

open Text

/-- The bytes that one state takes. -/
def stateSize : Nat := 32

/-- The most bytes that an automaton may take. -/
def sizeLimit : Nat := 10 * 1024 * 1024

/-- The part of a set that lies in a block of code points, counted from the start of the block. -/
def blockOf (set : List CharRange) (start length : Nat) : List CharRange :=
  set.filterMap fun r =>
    let first := max r.first start
    let last := min r.last (start + length - 1)
    if first ≤ last then some ⟨first - start, last - start⟩ else none

/-- The distinct sets of continuations that follow the first of `count` continuation bytes. -/
def nextBlocks (count : Nat) (set : List CharRange) : List (List CharRange) :=
  let width := Nat.pow 64 count
  let leads := (set.flatMap fun r =>
    (List.range (r.last / width - r.first / width + 1)).map (r.first / width + ·)).eraseDups
  (leads.map fun lead => blockOf set (lead * width) width).eraseDups

/-- The size of the states that read `count` continuation bytes of the given sets. -/
def continuationSize : Nat → List (List CharRange) → Nat
  | 0, _ => 0
  | count + 1, sets =>
    let here := (sets.map fun set =>
      let arrows := if count = 0 then set.length else (nextBlocks count set).length
      if arrows ≤ 1 then stateSize else stateSize + 8 * arrows).foldr (· + ·) 0
    here + continuationSize count
      (if count = 0 then [] else (sets.flatMap (nextBlocks count)).eraseDups)

/-- The size of the automaton of a set of characters. -/
def setSize (set : CharSet) : Nat :=
  if set.isAscii then
    if set.length ≤ 1 then stateSize else stateSize + 8 * set.length
  else
    let blocks := [(0, 0x80, 0), (0x80, 0x780, 1), (0x800, 0xF800, 2), (0x10000, 0x100000, 3)]
    (blocks.map fun (start, length, count) =>
      let leads := (blockOf set start length).map fun r => CharRange.mk (r.first + start) (r.last + start)
      match count, leads with
      | _, [] => 0
      | 0, leads => 8 * leads.length
      | count, leads =>
        8 * (nextBlocks count leads).length +
          continuationSize count (nextBlocks count leads)).foldr (· + ·) stateSize

/-- Parts a range where blocks of so many code points begin and end, unless it lies in one block. -/
def partAt (width : Nat) (r : CharRange) : List CharRange :=
  if r.first / width = r.last / width then [r]
  else
    let first := (r.first + width - 1) / width * width
    let last := (r.last + 1) / width * width
    (if r.first < first then [⟨r.first, first - 1⟩] else []) ++
      (if first < last then [⟨first, last - 1⟩] else []) ++
      (if last ≤ r.last then [⟨last, r.last⟩] else [])

/-- The encodings of a range of which each has `count` continuation bytes, every byte of it from a range. -/
def encodingsOf (count : Nat) (r : CharRange) : List CharRange :=
  (List.range count).foldl (fun parts k => parts.flatMap (partAt (Nat.pow 64 (k + 1)))) [r]

/-- The size of the automaton of a set of characters that is read from the end. -/
def reversedSetSize (set : CharSet) : Nat :=
  if set.isAscii then setSize set
  else
    let blocks := [(0, 0x80, 0), (0x80, 0x780, 1), (0x800, 0xD000, 2), (0xE000, 0x2000, 2),
      (0x10000, 0x100000, 3)]
    (blocks.map fun (start, length, count) =>
      let ranges := (blockOf set start length).map fun r => CharRange.mk (r.first + start) (r.last + start)
      let encodings := ranges.flatMap (encodingsOf count)
      let beginnings := (List.range (count + 1)).map fun k =>
        (encodings.map fun r => (r.first / Nat.pow 64 k, r.last / Nat.pow 64 k)).eraseDups.length
      4 * encodings.length + stateSize * beginnings.foldr (· + ·) 0).foldr (· + ·) (2 * stateSize)

/-- How many characters and boundaries the pattern has when its repetitions are written out. -/
def copies : Pattern → Nat
  | .empty => 1
  | .chars _ => 1
  | .boundary _ => 1
  | .sequence first second => copies first + copies second
  | .choice first second => copies first + copies second
  | .repeated body least most => copies body * max 1 (most.getD (max 1 least))

/-- The size of the automaton of a pattern, by that of its sets of characters. -/
def size (ofSet : CharSet → Nat) : Pattern → Nat
  | .empty => stateSize
  | .chars set => ofSet set
  | .boundary _ => stateSize
  | .sequence first second => size ofSet first + size ofSet second
  | .choice first second => size ofSet first + size ofSet second + stateSize
  | .repeated body least most =>
    match most with
    | none => size ofSet body * max 1 least + stateSize + 8
    | some most => size ofSet body * most + (stateSize + 8) * (most - least)

/-- Whether the automata of the pattern stay within the limit. No set that has a name takes more than 128
kibibytes in either of them, so short patterns need no count. -/
def withinLimit (p : Pattern) : Bool :=
  copies p * (128 * 1024) ≤ sizeLimit ||
    size setSize p ≤ sizeLimit && size reversedSetSize p ≤ sizeLimit

end Governance.Pattern
