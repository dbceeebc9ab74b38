import Governance.Pattern.Basic
import Governance.Text.Basic

/-!
# Reading patterns

The reader goes through the text once. Groups that are open stand on a stack; a group remembers the
flags that hold outside of it, the alternatives it has so far and the parts of the current one. The
flags that a group sets for itself hold from there to its end. Look-around and references to groups
have no notation here, so a pattern is always a regular language with boundaries.
-/

namespace Governance.Pattern

open Text

/-- Why a text is no pattern. -/
inductive PatternError where
  | unclosedGroup
  | unopenedGroup
  | unclosedClass
  | lookAround
  | backReference
  | groupName
  | duplicateGroupName
  | badFlag
  | nothingToRepeat
  | badCount
  | badEscape
  | badCharacter
  | unknownClass
  | badRange
  | badBoundary
  | notText
  | nestedTooDeep
  | tooLarge
  deriving DecidableEq, Repr

def PatternError.message : PatternError → String
  | .unclosedGroup => "unclosed group"
  | .unopenedGroup => "unopened group"
  | .unclosedClass => "unclosed character class"
  | .lookAround => "look-around is not supported"
  | .backReference => "backreferences are not supported"
  | .groupName => "invalid capture group name"
  | .duplicateGroupName => "duplicate capture group name"
  | .badFlag => "invalid flag"
  | .nothingToRepeat => "repetition operator missing expression"
  | .badCount => "invalid repetition count"
  | .badEscape => "unrecognized escape sequence"
  | .badCharacter => "invalid hexadecimal character"
  | .unknownClass => "Unicode property not found"
  | .badRange => "invalid character class range"
  | .badBoundary => "invalid word boundary assertion"
  | .notText => "pattern can match invalid UTF-8"
  | .nestedTooDeep => "exceeds the limit of nesting"
  | .tooLarge => "Compiled regex exceeds size limit of 10485760 bytes."

abbrev Reading (α : Type) := Except PatternError α

/-! ### Flags -/

/-- The flags in force at a place of the pattern. -/
structure Flags where
  ignoreCase : Bool
  multiLine : Bool
  dotAll : Bool
  swapGreed : Bool
  unicode : Bool
  anyNewline : Bool
  spaced : Bool
  deriving Repr

def Flags.initial : Flags := ⟨false, false, false, false, true, false, false⟩

/-- Sets or clears the flag of a letter. -/
def Flags.set (f : Flags) (letter : Char) (on : Bool) : Option Flags :=
  match letter with
  | 'i' => some { f with ignoreCase := on }
  | 'm' => some { f with multiLine := on }
  | 's' => some { f with dotAll := on }
  | 'U' => some { f with swapGreed := on }
  | 'u' => some { f with unicode := on }
  | 'R' => some { f with anyNewline := on }
  | 'x' => some { f with spaced := on }
  | _ => none

/-- Skips blanks and, from a number sign to the end of the line, comments. -/
def skipComments (inComment : Bool) : List Char → List Char
  | [] => []
  | c :: rest =>
    if inComment then skipComments (c != '\n') rest
    else if isBlankChar c then skipComments false rest
    else if c = '#' then skipComments true rest
    else c :: rest

/-- Skips what does not count in a pattern that may be spaced out. -/
def Flags.skip (f : Flags) (cs : List Char) : List Char :=
  if f.spaced then skipComments false cs else cs

/-! ### Parts of a pattern -/

/-- A finished part and how deeply its groups, repetitions and classes nest. -/
structure Part where
  pattern : Pattern
  depth : Nat
  deriving Repr

/-- A member of a sequence: a part, or a change of flags that stands for nothing. -/
inductive Member where
  | directive
  | part (p : Part)
  deriving Repr

def Member.toPart : Member → Part
  | .directive => ⟨.empty, 0⟩
  | .part p => p

/-- A group that is open. Alternatives and members are in reverse. -/
structure OpenGroup where
  outside : Flags
  alternatives : List Part
  members : List Member
  deriving Repr

def sequenceOf (members : List Member) : Part :=
  match members with
  | [] => ⟨.empty, 0⟩
  | [member] => member.toPart
  | last :: rest =>
    let parts := rest.map Member.toPart
    ⟨parts.foldl (fun after p => .sequence p.pattern after) last.toPart.pattern,
      1 + (parts.map Part.depth).foldl max last.toPart.depth⟩

/-- The choice between the alternatives of a group. -/
def OpenGroup.close (g : OpenGroup) : Part :=
  let last := sequenceOf g.members
  match g.alternatives with
  | [] => last
  | before => ⟨before.foldl (fun after p => .choice p.pattern after) last.pattern,
      1 + (before.map Part.depth).foldl max last.depth⟩

/-! ### Escapes -/

/-- What an escape stands for. `byte` marks a character given by two hexadecimal digits. -/
inductive Atom where
  | char (c : Char) (byte : Bool)
  | set (set : CharSet)
  | boundary (kind : Boundary)

def charOfCode? (code : Nat) : Option Char :=
  if code < 0xD800 || (0xE000 ≤ code && code ≤ 0x10FFFF) then some (Char.ofNat code) else none

def hexDigit? (c : Char) : Option Nat :=
  if '0' ≤ c && c ≤ '9' then some (c.toNat - '0'.toNat)
  else if 'a' ≤ c && c ≤ 'f' then some (c.toNat - 'a'.toNat + 10)
  else if 'A' ≤ c && c ≤ 'F' then some (c.toNat - 'A'.toNat + 10)
  else none

def readHexDigits (f : Flags) : Nat → Nat → List Char → Reading (Nat × List Char)
  | 0, value, cs => .ok (value, cs)
  | _ + 1, _, [] => .error .badEscape
  | count + 1, value, c :: rest => match hexDigit? c with
    | some digit => readHexDigits f count (value * 16 + digit) (f.skip rest)
    | none => .error .badCharacter

/-- Reads hexadecimal digits up to a closing brace. -/
def readHexBrace (value count : Nat) : List Char → Reading (Nat × List Char)
  | [] => .error .badEscape
  | c :: rest =>
    if c = '\x7d' then if count = 0 then .error .badCharacter else .ok (value, rest)
    else match hexDigit? c with
      | some digit => readHexBrace (min (value * 16 + digit) UInt32.size) (count + 1) rest
      | none => .error .badCharacter

def readHexEscape (f : Flags) (letter : Char) (cs : List Char) : Reading (Atom × List Char) := do
  match f.skip cs with
  | [] => .error .badEscape
  | '\x7b' :: rest =>
    let (code, rest) ← readHexBrace 0 0 (f.skip rest)
    match charOfCode? code with
    | some c => .ok (.char c false, rest)
    | none => .error .badCharacter
  | cs =>
    let count := if letter = 'x' then 2 else if letter = 'u' then 4 else 8
    let (code, rest) ← readHexDigits f count 0 cs
    match charOfCode? code with
    | some c => .ok (.char c (count = 2), rest)
    | none => .error .badCharacter

/-- Splits a text at the first occurrence of a short separator. -/
def splitAtText (separator : List Char) : List Char → Option (List Char × List Char)
  | [] => none
  | c :: rest =>
    if separator.isPrefixOf (c :: rest) then some ([], (c :: rest).drop separator.length)
    else (splitAtText separator rest).map fun (before, after) => (c :: before, after)

/-- The set that the name of a class in braces stands for. -/
def classOfName (name : List Char) : Reading CharSet :=
  let found := match splitAtText ['!', '='] name with
    | some (kind, value) => (valuedSet? kind value).map CharSet.complement
    | none => match splitAtText [':'] name with
      | some (kind, value) => valuedSet? kind value
      | none => match splitAtText ['='] name with
        | some (kind, value) => valuedSet? kind value
        | none => namedSet? name
  match found with
  | some set => .ok set
  | none => .error .unknownClass

/-- A set as the flags and a negation leave it. -/
def finishSet (f : Flags) (negated : Bool) (set : CharSet) : Reading CharSet :=
  let folded :=
    if f.ignoreCase then if f.unicode then set.foldCase else set.foldAsciiCase else set
  if f.unicode then .ok (if negated then folded.complement else folded)
  else if negated || !folded.isAscii then .error .notText
  else .ok folded

def readNamedClass (f : Flags) (negated : Bool) (cs : List Char) :
    Reading (Atom × List Char) := do
  if !f.unicode then throw .notText
  match f.skip cs with
  | [] => .error .badEscape
  | '\x7b' :: rest =>
    let name := rest.takeWhile (· != '\x7d')
    match rest.dropWhile (· != '\x7d') with
    | [] => .error .badEscape
    | _ :: rest =>
      let set ← classOfName (if f.spaced then name.filter (!isBlankChar ·) else name)
      .ok (.set (← finishSet f negated set), rest)
  | '\\' :: _ => .error .unknownClass
  | c :: rest =>
    let set ← classOfName [c]
    .ok (.set (← finishSet f negated set), rest)

def letterClass (f : Flags) (letter : Char) : Reading CharSet :=
  let set : CharSet := match letter.toLower with
    | 'd' => if f.unicode then digitSet else [⟨48, 57⟩]
    | 's' => if f.unicode then blankSet else [⟨9, 13⟩, ⟨32, 32⟩]
    | _ => if f.unicode then wordSet else [⟨48, 57⟩, ⟨65, 90⟩, ⟨95, 95⟩, ⟨97, 122⟩]
  if letter.isUpper then
    if f.unicode then .ok set.complement else .error .notText
  else .ok set

/-- Punctuation that has a meaning of its own. -/
def isMeta (c : Char) : Bool :=
  c = '\\' || c = '.' || c = '+' || c = '*' || c = '?' || c = '(' || c = ')' || c = '|' ||
    c = '[' || c = ']' || c = '\x7b' || c = '\x7d' || c = '^' || c = '$' || c = '#' || c = '&' ||
    c = '-' || c = '~'

/-- Whether an escaped character may stand for itself. -/
def isEscapable (c : Char) : Bool :=
  isMeta c || (c.toNat < 128 && !c.isAlphanum && c != '<' && c != '>')

/-- Reads a word boundary, which may be followed by its kind in braces. What follows in braces may
also be a count of repetitions. -/
def readWordBoundary (f : Flags) (cs : List Char) : Reading (Atom × List Char) :=
  match cs with
  | '\x7b' :: rest =>
    let isNameChar := fun (c : Char) => c.isAlpha || c = '-'
    match f.skip rest with
    | [] => .error .badBoundary
    | c :: more =>
      if !isNameChar c then .ok (.boundary (.word f.unicode), cs)
      else
        let inside := (c :: more).takeWhile fun c => isNameChar c || (f.spaced && isBlankChar c)
        let after := (c :: more).dropWhile fun c => isNameChar c || (f.spaced && isBlankChar c)
        match after with
        | '\x7d' :: rest =>
          match String.ofList (inside.filter isNameChar) with
          | "start" => .ok (.boundary (.wordStart f.unicode), rest)
          | "end" => .ok (.boundary (.wordEnd f.unicode), rest)
          | "start-half" => .ok (.boundary (.wordStartHalf f.unicode), rest)
          | "end-half" => .ok (.boundary (.wordEndHalf f.unicode), rest)
          | _ => .error .badBoundary
        | _ => .error .badBoundary
  | cs => .ok (.boundary (.word f.unicode), cs)

def readEscape (f : Flags) (cs : List Char) : Reading (Atom × List Char) := do
  match cs with
  | [] => .error .badEscape
  | c :: rest =>
    if c.isDigit then .error .backReference
    else if c = 'x' || c = 'u' || c = 'U' then readHexEscape f c rest
    else if c = 'p' || c = 'P' then readNamedClass f (c = 'P') rest
    else if c = 'd' || c = 's' || c = 'w' || c = 'D' || c = 'S' || c = 'W' then
      .ok (.set (← letterClass f c), rest)
    else if isEscapable c then .ok (.char c false, rest)
    else match c with
      | 'a' => .ok (.char '\x07' false, rest)
      | 'f' => .ok (.char '\x0c' false, rest)
      | 't' => .ok (.char '\t' false, rest)
      | 'n' => .ok (.char '\n' false, rest)
      | 'r' => .ok (.char '\r' false, rest)
      | 'v' => .ok (.char '\x0b' false, rest)
      | 'A' => .ok (.boundary .textStart, rest)
      | 'z' => .ok (.boundary .textEnd, rest)
      | 'b' => readWordBoundary f rest
      | 'B' => .ok (.boundary (.notWord f.unicode), rest)
      | '<' => .ok (.boundary (.wordStart f.unicode), rest)
      | '>' => .ok (.boundary (.wordEnd f.unicode), rest)
      | _ => .error .badEscape

def literalPattern (f : Flags) (c : Char) (byte : Bool) : Reading Pattern :=
  if !f.unicode && byte && 128 ≤ c.toNat then .error .notText
  else if f.ignoreCase then
    if f.unicode then .ok (.chars (CharSet.single c).foldCase)
    else .ok (.chars (CharSet.single c).foldAsciiCase)
  else .ok (.chars (CharSet.single c))

def Atom.toPattern (f : Flags) : Atom → Reading Pattern
  | .char c byte => literalPattern f c byte
  | .set members => .ok (.chars members)
  | .boundary kind => .ok (.boundary kind)

/-! ### Bracketed classes -/

/-- What two sets in a class are combined by. -/
inductive SetOperator where
  | inter
  | diff
  | symmDiff
  deriving Repr

/-- The characters of a class that have been read since its last operator. -/
structure ClassItems where
  set : CharSet
  count : Nat
  depth : Nat
  deriving Repr

def ClassItems.initial : ClassItems := ⟨[], 0, 0⟩

def ClassItems.add (items : ClassItems) (set : CharSet) (depth : Nat) : ClassItems :=
  ⟨items.set.union set, items.count + 1, max items.depth depth⟩

def ClassItems.nesting (items : ClassItems) : Nat :=
  if items.count ≤ 1 then items.depth else items.depth + 1

/-- A class that is open: what surrounds it, whether it is negated, and the left side of an operator
that waits for its right side. -/
structure OpenClass where
  outer : ClassItems
  negated : Bool
  pending : Option (SetOperator × CharSet × Nat)
  deriving Repr

/-- Combines the items with the left side that waits for them. -/
def OpenClass.combine (f : Flags) (c : OpenClass) (items : ClassItems) : CharSet × Nat :=
  match c.pending with
  | none => (items.set, items.nesting)
  | some (operator, left, depth) =>
    let fold := fun (chars : CharSet) =>
      if f.ignoreCase then if f.unicode then chars.foldCase else chars.foldAsciiCase else chars
    let right := fold items.set
    let left := fold left
    let set := match operator with
      | .inter => left.inter right
      | .diff => left.diff right
      | .symmDiff => left.symmDiff right
    (set, 1 + max depth items.nesting)

/-- Reads the name of an ASCII class after its bracket, `:alpha:]` or `:^alpha:]`. -/
def readAsciiClass (cs : List Char) : Option (CharSet × List Char) :=
  match cs with
  | ':' :: rest =>
    let (negated, rest) := match rest with
      | '^' :: rest => (true, rest)
      | rest => (false, rest)
    let name := rest.takeWhile (· != ':')
    match rest.dropWhile (· != ':') with
    | ':' :: ']' :: rest => (asciiSet? name).map fun set =>
        (if negated then set.complement else set, rest)
    | _ => none
  | _ => none

/-- Reads hyphens that stand for themselves at the start of a class. -/
def readLeadingHyphens (f : Flags) : Nat → ClassItems → List Char → ClassItems × List Char
  | 0, items, cs => (items, cs)
  | fuel + 1, items, cs => match cs with
    | '-' :: rest =>
      readLeadingHyphens f fuel (items.add (CharSet.single '-') 0) (f.skip rest)
    | cs => (items, cs)

/-- Opens a class after its bracket: a negation, hyphens and a closing bracket that stand for
themselves. -/
def openClass (f : Flags) (outer : ClassItems) (cs : List Char) :
    Reading (OpenClass × ClassItems × List Char) := do
  let cs := f.skip cs
  let (negated, cs) := match cs with
    | '^' :: rest => (true, f.skip rest)
    | cs => (false, cs)
  let (items, cs) := readLeadingHyphens f cs.length ClassItems.initial cs
  match cs with
  | [] => .error .unclosedClass
  | ']' :: rest =>
    if items.count = 0 then
      let rest := f.skip rest
      if rest.isEmpty then .error .unclosedClass
      else .ok (⟨outer, negated, none⟩, items.add (CharSet.single ']') 0, rest)
    else .ok (⟨outer, negated, none⟩, items, cs)
  | cs => .ok (⟨outer, negated, none⟩, items, cs)

def readClassAtom (f : Flags) (cs : List Char) : Reading (Atom × List Char) :=
  match cs with
  | [] => .error .unclosedClass
  | '\\' :: rest => readEscape f rest
  | c :: rest => .ok (.char c false, rest)

def Atom.toChar (f : Flags) : Atom → Reading Char
  | .char c _ => if !f.unicode && 128 ≤ c.toNat then .error .notText else .ok c
  | _ => .error .badRange

def readClassItem (f : Flags) (cs : List Char) : Reading (CharSet × List Char) := do
  let (first, rest) ← readClassAtom f cs
  let rest := f.skip rest
  let single : Reading (CharSet × List Char) := match first with
    | .char c _ => do
      let c ← Atom.toChar f (.char c false)
      .ok (CharSet.single c, rest)
    | .set set => .ok (set, rest)
    | .boundary _ => .error .badEscape
  match rest with
  | [] => .error .unclosedClass
  | '-' :: after =>
    match f.skip after with
    | [] => .error .unclosedClass
    | ']' :: _ => single
    | '-' :: _ => single
    | after =>
      let (second, rest) ← readClassAtom f after
      let first ← first.toChar f
      let last ← second.toChar f
      if first.toNat ≤ last.toNat then .ok ([⟨first.toNat, last.toNat⟩], rest)
      else .error .badRange
  | _ => single

/-- Reads a bracketed class from inside its outermost bracket on. Each round reads at least one
character, so `fuel` is the number of characters left. -/
def readClass (f : Flags) :
    Nat → List OpenClass → ClassItems → List Char → Reading (CharSet × Nat × List Char)
  | 0, _, _, _ => .error .unclosedClass
  | _ + 1, [], _, _ => .error .unclosedClass
  | fuel + 1, current :: outer, items, cs =>
    let operator := fun (operator : SetOperator) (rest : List Char) =>
      let (set, depth) := current.combine f items
      readClass f fuel ({ current with pending := some (operator, set, depth) } :: outer)
        ClassItems.initial rest
    match f.skip cs with
    | [] => .error .unclosedClass
    | '[' :: rest =>
      match readAsciiClass rest with
      | some (set, rest) => do
        if !f.unicode && !set.isAscii then throw .notText
        readClass f fuel (current :: outer) (items.add set 0) rest
      | none => do
        let (opened, inner, rest) ← openClass f items rest
        readClass f fuel (opened :: current :: outer) inner rest
    | ']' :: rest => do
      let (set, depth) := current.combine f items
      let set ← finishSet f current.negated set
      match outer with
      | [] => .ok (set, depth + 1, rest)
      | outer => readClass f fuel outer (current.outer.add set (depth + 1)) rest
    | '&' :: '&' :: rest => operator .inter rest
    | '-' :: '-' :: rest => operator .diff rest
    | '~' :: '~' :: rest => operator .symmDiff rest
    | cs => do
      let (set, rest) ← readClassItem f cs
      readClass f fuel (current :: outer) (items.add set 0) rest

/-! ### Repetition -/

def readDigits (f : Flags) : Nat → List Char → List Char → List Char × List Char
  | 0, taken, cs => (taken.reverse, cs)
  | fuel + 1, taken, cs => match cs with
    | c :: rest =>
      if c.isDigit then readDigits f fuel (c :: taken) (f.skip rest) else (taken.reverse, cs)
    | [] => (taken.reverse, [])

/-- Reads a count of at most thirty-two bits, blanks around it; nothing if there are no digits. -/
def readCount (f : Flags) (cs : List Char) : Reading (Option Nat × List Char) :=
  let cs := trimStart cs
  let (digits, rest) := readDigits f cs.length [] cs
  let rest := f.skip (trimStart rest)
  let value := digits.foldl (fun n c => n * 10 + (c.toNat - '0'.toNat)) 0
  if digits.isEmpty then .ok (none, rest)
  else if value < UInt32.size then .ok (some value, rest)
  else .error .badCount

def readCounts (f : Flags) (cs : List Char) : Reading (Nat × Option Nat × List Char) := do
  let cs := f.skip cs
  if cs.isEmpty then throw .badCount
  let (least, rest) ← readCount f cs
  match rest with
  | ',' :: rest =>
    let rest := f.skip rest
    match rest with
    | [] => .error .badCount
    | '\x7d' :: rest => match least with
      | some least => .ok (least, none, rest)
      | none => .error .badCount
    | rest =>
      let (most, rest) ← readCount f rest
      match least, most, rest with
      | some least, some most, '\x7d' :: rest =>
        if least ≤ most then .ok (least, some most, rest) else .error .badCount
      | _, _, _ => .error .badCount
  | '\x7d' :: rest => match least with
    | some count => .ok (count, some count, rest)
    | none => .error .badCount
  | _ => .error .badCount

/-- Repeats the last member of a sequence, which has to be a part. -/
def repeatLast (least : Nat) (most : Option Nat) : List Member → Reading (List Member)
  | .part p :: rest => .ok (.part ⟨.repeated p.pattern least most, p.depth + 1⟩ :: rest)
  | _ => .error .nothingToRepeat

/-! ### Groups -/

/-- Reads flags up to the colon or the parenthesis that ends them. `negated` tells that a minus sign
has been read, `dangling` that nothing has followed it yet. -/
def readFlags (outside f : Flags) (seen : List Char) (negated dangling : Bool) :
    List Char → Reading (Flags × Bool × Char × List Char)
  | [] => .error .badFlag
  | c :: rest =>
    if c = ':' || c = ')' then
      if dangling then .error .badFlag else .ok (f, seen.isEmpty, c, rest)
    else if c = '-' then
      if negated then .error .badFlag else readFlags outside f seen true true rest
    else if seen.contains c then .error .badFlag
    else match f.set c !negated with
      | some g => readFlags outside g (c :: seen) negated false rest
      | none => .error .badFlag

def isNameChar (first : Bool) (c : Char) : Bool :=
  let letter := c = '_' || holdsCode alphabetic c.toNat
  if first then letter
  else letter || c = '.' || c = '[' || c = ']' || holdsCode numeric c.toNat
where
  alphabetic : List CharRange := rangesOfText alphabeticText
  numeric : List CharRange := ["Nd", "Nl", "No"].flatMap categoryRanges

def readGroupName (cs : List Char) : Reading (String × List Char) :=
  let name := cs.takeWhile (· != '>')
  match name, cs.dropWhile (· != '>') with
  | first :: more, _ :: rest =>
    if isNameChar true first && more.all (isNameChar false) then .ok (String.ofList name, rest)
    else .error .groupName
  | _, _ => .error .groupName

/-- Everything the reader keeps between two steps. -/
structure ReaderState where
  flags : Flags
  current : OpenGroup
  outer : List OpenGroup
  names : List String

def ReaderState.add (s : ReaderState) (p : Part) : ReaderState :=
  { s with current := { s.current with members := .part p :: s.current.members } }

def ReaderState.enter (s : ReaderState) (inside : Flags) : ReaderState :=
  { s with flags := inside, current := ⟨s.flags, [], []⟩, outer := s.current :: s.outer }

def ReaderState.openGroup (s : ReaderState) (cs : List Char) :
    Reading (ReaderState × List Char) := do
  let named := fun (rest : List Char) => do
    let (name, rest) ← readGroupName rest
    if s.names.contains name then throw .duplicateGroupName
    pure ({ s.enter s.flags with names := name :: s.names }, rest)
  match s.flags.skip cs with
  | '?' :: '=' :: _ => .error .lookAround
  | '?' :: '!' :: _ => .error .lookAround
  | '?' :: '<' :: '=' :: _ => .error .lookAround
  | '?' :: '<' :: '!' :: _ => .error .lookAround
  | '?' :: 'P' :: '<' :: rest => named rest
  | '?' :: '<' :: rest => named rest
  | '?' :: rest =>
    let (inside, bare, stop, rest) ← readFlags s.flags s.flags [] false false rest
    if stop = ')' then
      if bare then .error .nothingToRepeat
      else
        let current := { s.current with members := .directive :: s.current.members }
        .ok ({ s with flags := inside, current := current }, rest)
    else .ok (s.enter inside, rest)
  | rest => .ok (s.enter s.flags, rest)

def ReaderState.closeGroup (s : ReaderState) : Reading ReaderState :=
  match s.outer with
  | [] => .error .unopenedGroup
  | outer :: more =>
    let inside := s.current.close
    let closed : ReaderState :=
      { s with flags := s.current.outside, current := outer, outer := more }
    .ok (closed.add ⟨inside.pattern, inside.depth + 1⟩)

def ReaderState.alternate (s : ReaderState) : ReaderState :=
  let g := s.current
  { s with current := ⟨g.outside, sequenceOf g.members :: g.alternatives, []⟩ }

/-- Repeats the last part; a question mark behind the operator only changes which match is
preferred. -/
def ReaderState.repeatPart (s : ReaderState) (least : Nat) (most : Option Nat)
    (rest : List Char) : Reading (ReaderState × List Char) := do
  let members ← repeatLast least most s.current.members
  let rest := match rest with
    | '?' :: rest => rest
    | rest => rest
  pure ({ s with current := { s.current with members := members } }, rest)

def dotSet (f : Flags) : Reading CharSet :=
  if !f.unicode then .error .notText
  else if f.dotAll then .ok CharSet.everything
  else if f.anyNewline then .ok (CharSet.complement [⟨10, 10⟩, ⟨13, 13⟩])
  else .ok (CharSet.complement [⟨10, 10⟩])

/-- Reads what begins at a character outside of classes. -/
def ReaderState.step (s : ReaderState) (c : Char) (rest : List Char) :
    Reading (ReaderState × List Char) := do
  let f := s.flags
  match c with
  | '(' => s.openGroup rest
  | ')' => .ok (← s.closeGroup, rest)
  | '|' => .ok (s.alternate, rest)
  | '[' =>
    let (opened, items, rest) ← openClass f ClassItems.initial rest
    let (set, depth, rest) ← readClass f (rest.length + 1) [opened] items rest
    .ok (s.add ⟨.chars set, depth⟩, rest)
  | '?' => s.repeatPart 0 (some 1) rest
  | '*' => s.repeatPart 0 none rest
  | '+' => s.repeatPart 1 none rest
  | '\x7b' =>
    let _ ← repeatLast 0 none s.current.members
    let (least, most, rest) ← readCounts f rest
    s.repeatPart least most (f.skip rest)
  | '\\' =>
    let (atom, rest) ← readEscape f rest
    .ok (s.add ⟨← atom.toPattern f, 0⟩, rest)
  | '.' => .ok (s.add ⟨.chars (← dotSet f), 0⟩, rest)
  | '^' =>
    let kind := if !f.multiLine then .textStart
      else if f.anyNewline then .lineStartAny else .lineStart
    .ok (s.add ⟨.boundary kind, 0⟩, rest)
  | '$' =>
    let kind := if !f.multiLine then .textEnd
      else if f.anyNewline then .lineEndAny else .lineEnd
    .ok (s.add ⟨.boundary kind, 0⟩, rest)
  | c => .ok (s.add ⟨← literalPattern f c false, 0⟩, rest)

/-- Reads a pattern to its end. Each round reads at least one character, so `fuel` is the number of
characters left. -/
def ReaderState.readAll : Nat → ReaderState → List Char → Reading Part
  | 0, s, cs => if cs.isEmpty then finish s else .error .tooLarge
  | fuel + 1, s, cs => match s.flags.skip cs with
    | [] => finish s
    | c :: rest => do
      let (s, rest) ← s.step c rest
      readAll fuel s rest
where
  finish (s : ReaderState) : Reading Part :=
    if s.outer.isEmpty then .ok s.current.close else .error .unclosedGroup

/-- How deep groups, repetitions and classes may nest. -/
def nestingLimit : Nat := 250

def ofText (text : String) : Reading Pattern := do
  let cs := text.toList
  let start : ReaderState := ⟨Flags.initial, ⟨Flags.initial, [], []⟩, [], []⟩
  let part ← start.readAll cs.length cs
  if nestingLimit < part.depth then throw .nestedTooDeep
  if !withinLimit part.pattern then throw .tooLarge
  pure part.pattern

end Governance.Pattern
