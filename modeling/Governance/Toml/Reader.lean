import Governance.Json.Value
import Governance.Toml.Scalar

/-!
# TOML documents

The tables of a document, and how it is read.
-/

namespace Governance.Toml

/-!
## Tables of a TOML document

A document is a table of tables. A table can be opened by a header, by a header of a table inside it, or
by a dotted key; it can be opened by a header once, and a dotted key reaches only what dotted keys have
opened. A value that is written inline is closed. What breaks these rules has no meaning.
-/

/-- What opened a table: a header of its own, a header of a table inside it, or a dotted key. -/
inductive Origin where
  | stated
  | implied
  | dotted
  deriving DecidableEq, Repr

/-- What stands under a key: a value, a table, or a list of tables with the latest first. -/
inductive Node where
  | value (json : Json)
  | table (origin : Origin) (members : List (String × Node))
  | tables (elements : List (List (String × Node)))
  deriving Repr

/-- The keys of a table with what stands under them. -/
abbrev Members := List (String × Node)

namespace Members

def find (key : String) : Members → Option Node
  | [] => none
  | (other, node) :: rest => if other = key then some node else find key rest

/-- The same members with something else under a key. -/
def put (key : String) (node : Node) : Members → Members
  | [] => [(key, node)]
  | (other, old) :: rest =>
    if other = key then (key, node) :: rest else (other, old) :: put key node rest

/-- Changes the table at the end of a path, which is opened where there is none. Through a list of
tables the path leads to the latest one. -/
def change (isDotted : Bool) (act : Origin → Members → Option Members) (origin : Origin) :
    List String → Members → Option Members
  | [], members => act origin members
  | key :: path, members =>
    match members.find key with
    | none =>
      let origin := if isDotted then Origin.dotted else .implied
      (change isDotted act origin path []).map fun inner => members.put key (.table origin inner)
    | some (.table origin inner) =>
      if isDotted && origin = .stated then none
      else (change isDotted act origin path inner).map fun inner =>
        members.put key (.table origin inner)
    | some (.tables (latest :: earlier)) =>
      (change isDotted act .stated path latest).map fun latest =>
        members.put key (.tables (latest :: earlier))
    | some _ => none

/-- Enters a value under a dotted key. The table that it is entered in must have been opened by dotted
keys exactly if it is not the one that the key starts from. -/
def enter (path : List String) (key : String) (value : Json) (members : Members) :
    Option Members :=
  members.change true (fun origin inner =>
    if (origin == .dotted) == path.isEmpty then none
    else match inner.find key with
      | none => some (inner.put key (.value value))
      | some _ => none) .stated path

def openTable (path : List String) (key : String) (members : Members) : Option Members :=
  members.change false (fun _ inner =>
    match inner.find key with
    | none => some (inner.put key (.table .stated []))
    | some (.table .implied old) => some (inner.put key (.table .stated old))
    | some _ => none) .stated path

/-- Adds a table to the list of tables of a header. -/
def addTable (path : List String) (key : String) (members : Members) : Option Members :=
  members.change false (fun _ inner =>
    match inner.find key with
    | none => some (inner.put key (.tables [[]]))
    | some (.tables elements) => some (inner.put key (.tables ([] :: elements)))
    | some _ => none) .stated path

/-- Enters a value under a dotted key into the table at the end of a path. -/
def enterAt (table path : List String) (key : String) (value : Json) (members : Members) :
    Option Members :=
  members.change false (fun _ inner => inner.enter path key value) .stated table

end Members

mutual

/-- What stands under a key as JSON. -/
def Node.toJson : Node → Json
  | .value json => json
  | .table _ members => .object (membersJson members)
  | .tables elements => .array (elementsJson elements [])

def membersJson : Members → List (String × Json)
  | [] => []
  | (key, node) :: rest => (key, node.toJson) :: membersJson rest

/-- A list of tables as JSON, the earliest first. -/
def elementsJson : List Members → List Json → List Json
  | [], later => later
  | members :: rest, later => elementsJson rest (.object (membersJson members) :: later)

end

/-!
## Reading TOML documents

A document is read line by line: a key and its value, which may be an array over several lines, or the
header of a table. A text that breaks a rule of the language is no document at all.
-/

/-! ### Blank lines and comments -/

/-- The rest without a comment in front. -/
def skipComment : List Char → List Char
  | '#' :: rest => rest.dropWhile isLineChar
  | cs => cs

/-- What stands behind the end of a line: blanks, a comment, and a line break unless all ends. -/
def endOfLine? (cs : List Char) : Option (List Char) :=
  match skipComment (skipBlanks cs) with
  | [] => some []
  | rest => lineBreak? rest

/-- The rest without blanks, comments and line breaks in front; `fuel` is more than its length. -/
def skipLines : Nat → List Char → List Char
  | 0, cs => cs
  | fuel + 1, cs =>
    let rest := skipComment (skipBlanks cs)
    match lineBreak? rest with
    | some lines => skipLines fuel lines
    | none => rest

/-! ### Keys -/

/-- Whether a character may stand in a key that is not in quotation marks. -/
def isKeyChar (c : Char) : Bool := c.isAlphanum || c = '_' || c = '-'

def readKeyPart : Reader String
  | '"' :: rest => asString (quotedLine rest)
  | '\'' :: rest => asString (plainLine rest)
  | cs =>
    let word := cs.takeWhile isKeyChar
    if word.isEmpty then none else some (String.ofList word, cs.dropWhile isKeyChar)

/-- Reads a key, whose parts are separated by points, with the blanks around it; `fuel` is more than
the number of its parts. -/
def readKey : Nat → Reader (List String)
  | 0, _ => none
  | fuel + 1, cs => do
    let (part, rest) ← readKeyPart (skipBlanks cs)
    match skipBlanks rest with
    | '.' :: rest => do
      let (parts, rest) ← readKey fuel rest
      return (part :: parts, rest)
    | rest => return ([part], rest)

/-- Reads a key as the path to its table and its last part. -/
def readPath : Reader (List String × String) := fun cs => do
  let (parts, rest) ← readKey (cs.length + 1) cs
  return ((parts.dropLast, parts.getLastD ""), rest)

/-! ### Values -/

mutual

/-- Reads a value; `fuel` is more than twice its length. -/
def readValue : Nat → Reader Json
  | 0, _ => none
  | fuel + 1, cs =>
    match cs with
    | '[' :: rest => (readItems fuel rest).map fun (items, rest) => (.array items, rest)
    | '\x7b' :: rest => do
      let (members, rest) ← match skipBlanks rest with
        | '\x7d' :: rest => some ([], rest)
        | rest => readPairs fuel [] rest
      return (.object (membersJson members), rest)
    | '"' :: _ => (readText cs).map fun (text, rest) => (.string text, rest)
    | '\'' :: _ => (readText cs).map fun (text, rest) => (.string text, rest)
    | _ => readWord cs

/-- Reads the items of an array up to its end. -/
def readItems : Nat → Reader (List Json)
  | 0, _ => none
  | fuel + 1, cs =>
    match skipLines (cs.length + 1) cs with
    | ']' :: rest => some ([], rest)
    | cs => do
      let (item, rest) ← readValue fuel cs
      match skipLines (rest.length + 1) rest with
      | ']' :: rest => some ([item], rest)
      | ',' :: rest => (readItems fuel rest).map fun (items, rest) => (item :: items, rest)
      | _ => none

/-- Reads the keys and values of a table in braces up to its end. -/
def readPairs : Nat → Members → Reader Members
  | 0, _, _ => none
  | fuel + 1, members, cs => do
    let ((path, key), rest) ← readPath cs
    let '=' :: rest := rest | none
    let (value, rest) ← readValue fuel (skipBlanks rest)
    let members ← members.enter path key value
    match skipBlanks rest with
    | ',' :: rest => readPairs fuel members rest
    | '\x7d' :: rest => some (members, rest)
    | _ => none

end

/-! ### Lines -/

/-- A document that has been read so far, and the path of the table that keys are entered in. -/
structure Progress where
  root : Members
  table : List String

/-- Reads the header of a table behind its brackets. -/
def readHeader (opened : List String → String → Members → Option Members) (closing : List Char)
    (p : Progress) : Reader Progress := fun cs => do
  let ((path, key), rest) ← readPath cs
  let rest ← if closing.isPrefixOf rest then some (rest.drop closing.length) else none
  let root ← opened path key p.root
  return (⟨root, path ++ [key]⟩, rest)

def readEntry (p : Progress) : Reader Progress := fun cs => do
  let ((path, key), rest) ← readPath cs
  let '=' :: rest := rest | none
  let rest := skipBlanks rest
  let (value, rest) ← readValue (2 * rest.length + 2) rest
  let root ← p.root.enterAt p.table path key value
  return (⟨root, p.table⟩, rest)

/-- Reads what stands in a line that is not blank. -/
def readLine (p : Progress) : Reader Progress
  | '[' :: '[' :: rest => readHeader (fun path key m => m.addTable path key) [']', ']'] p rest
  | '[' :: rest => readHeader (fun path key m => m.openTable path key) [']'] p rest
  | cs => readEntry p cs

/-- Reads lines until all ends; `fuel` is more than their number. -/
def readLines : Nat → Progress → List Char → Option Members
  | 0, _, _ => none
  | fuel + 1, p, cs =>
    match skipLines (cs.length + 1) cs with
    | [] => some p.root
    | cs => do
      let (p, rest) ← readLine p cs
      readLines fuel p (← endOfLine? rest)

/-- The rest without the mark that may stand in front of a document. -/
def skipMark : List Char → List Char
  | '\uFEFF' :: rest => rest
  | cs => cs

/-- The members of a document, or nothing when a text is none. -/
def parse? (text : String) : Option (List (String × Json)) :=
  let cs := skipMark text.toList
  (readLines (cs.length + 1) ⟨[], []⟩ cs).map membersJson

end Governance.Toml
