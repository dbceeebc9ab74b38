import Governance.Decimal.Shortest

/-!
# Socket addresses

The place where a server listens: an address of the Internet Protocol, in version four or six, and a
port. An address of version six has one written form: the longest run of at least two zero groups is
left out, the first of equally long ones, and an address that stands for one of version four ends in
that address.
-/

namespace Governance

/-- An address of the Internet Protocol with a port. -/
inductive SocketAddress where
  | v4 (octets : List Nat) (port : Nat)
  | v6 (groups : List Nat) (scope port : Nat)
  deriving DecidableEq, Repr

namespace SocketAddress

/-- The usual place: every address of version four, port 8080. -/
def standard : SocketAddress := .v4 [0, 0, 0, 0] 8080

/-! ### Reading -/

/-- A reader of the beginning of a text, which answers a value and the rest. -/
abbrev Reader (α : Type) := List Char → Option (α × List Char)

def readChar (c : Char) : Reader Unit
  | d :: rest => if c = d then some ((), rest) else none
  | [] => none

/-- The value of a digit in a base of at most sixteen. -/
def digitIn? (base : Nat) (c : Char) : Option Nat :=
  let value := if c.isDigit then c.toNat - 48
    else if 'a' ≤ c && c ≤ 'f' then c.toNat - 87
    else if 'A' ≤ c && c ≤ 'F' then c.toNat - 55
    else 16
  if value < base then some value else none

/-- A natural number in a base, of at most so many digits, no greater than a bound. Zeros may stand
before it where that is allowed. -/
def readNumber (base : Nat) (digits : Option Nat) (bound : Nat) (zeros : Bool) : Reader Nat :=
  fun cs =>
    let taken := cs.takeWhile fun c => (digitIn? base c).isSome
    let value := taken.foldl (fun n c => n * base + (digitIn? base c).getD 0) 0
    if taken.isEmpty || digits.any (· < taken.length) || bound < value ||
        (!zeros && 1 < taken.length && taken.head? = some '0') then none
    else some (value, cs.drop taken.length)

/-- The value of a reader after a separator, which the first of several values does not have. -/
def readNext {α : Type} (separator : Char) (first : Bool) (read : Reader α) : Reader α :=
  fun cs =>
    if first then read cs else do
      let (_, rest) ← readChar separator cs
      read rest

/-- So many numbers with dots between them. -/
def readOctets (first : Bool) : Nat → Reader (List Nat)
  | 0 => fun cs => some ([], cs)
  | n + 1 => fun cs => do
    let (octet, rest) ← readNext '.' first (readNumber 10 (some 3) 255 false) cs
    let (octets, rest) ← readOctets false n rest
    return (octet :: octets, rest)

/-- The two groups that four octets make. -/
def groupsOfOctets : List Nat → List Nat
  | [a, b, c, d] => [a * 256 + b, c * 256 + d]
  | _ => []

/-- At most so many groups with colons between them. An address of version four may stand for the last
two; whether it does is answered too. -/
def readGroups (first : Bool) : Nat → List Char → List Nat × Bool × List Char
  | 0, cs => ([], false, cs)
  | n + 1, cs =>
    match if n = 0 then none else readNext ':' first (readOctets true 4) cs with
    | some (octets, rest) => (groupsOfOctets octets, true, rest)
    | none => match readNext ':' first (readNumber 16 (some 4) 65535 true) cs with
      | some (group, rest) =>
        let (groups, embedded, rest) := readGroups false n rest
        (group :: groups, embedded, rest)
      | none => ([], false, cs)

def readAddress6 : Reader (List Nat) := fun cs =>
  let (head, embedded, rest) := readGroups true 8 cs
  if head.length = 8 then some (head, rest)
  else if embedded then none
  else do
    let (_, rest) ← readChar ':' rest
    let (_, rest) ← readChar ':' rest
    let (tail, _, rest) := readGroups true (7 - head.length) rest
    return (head ++ List.replicate (8 - head.length - tail.length) 0 ++ tail, rest)

def readPort : Reader Nat := readNext ':' false (readNumber 10 none 65535 true)

def read4 : Reader SocketAddress := fun cs => do
  let (octets, rest) ← readOctets true 4 cs
  let (port, rest) ← readPort rest
  return (.v4 octets port, rest)

/-- The scope of an address of version six, if it names one. -/
def readScope (cs : List Char) : Nat × List Char :=
  match readNext '%' false (readNumber 10 none 4294967295 true) cs with
  | some (scope, rest) => (scope, rest)
  | none => (0, cs)

def read6 : Reader SocketAddress := fun cs => do
  let (_, rest) ← readChar '[' cs
  let (groups, rest) ← readAddress6 rest
  let (scope, rest) := readScope rest
  let (_, rest) ← readChar ']' rest
  let (port, rest) ← readPort rest
  return (.v6 groups scope port, rest)

def parse? (text : String) : Option SocketAddress :=
  match (read4 text.toList).orElse fun _ => read6 text.toList with
  | some (address, []) => some address
  | _ => none

/-! ### Writing -/

def join (separator : Char) : List (List Char) → List Char
  | [] => []
  | [last] => last
  | text :: rest => text ++ separator :: join separator rest

def octetsText (octets : List Nat) : List Char := join '.' (octets.map Decimal.naturalText)

def groupsText (groups : List Nat) : List Char := join ':' (groups.map (Nat.toDigits 16))

def zeroRun (groups : List Nat) : Nat := (groups.takeWhile (· = 0)).length

/-- The longest run of zeros in a list, as its place and its length; `index` is the place of the list. -/
def longestRun (index : Nat) : List Nat → Nat × Nat
  | [] => (index, 0)
  | group :: rest =>
    let here := zeroRun (group :: rest)
    let later := longestRun (index + 1) rest
    if later.2 ≤ here then (index, here) else later

def address6Text (groups : List Nat) : List Char :=
  match groups with
  | [0, 0, 0, 0, 0, 65535, a, b] =>
    "::ffff:".toList ++ octetsText [a / 256, a % 256, b / 256, b % 256]
  | _ =>
    let (start, length) := longestRun 0 groups
    if length < 2 then groupsText groups
    else groupsText (groups.take start) ++ [':', ':'] ++ groupsText (groups.drop (start + length))

def text : SocketAddress → List Char
  | .v4 octets port => octetsText octets ++ ':' :: Decimal.naturalText port
  | .v6 groups scope port =>
    let zone := if scope = 0 then [] else '%' :: Decimal.naturalText scope
    '[' :: address6Text groups ++ zone ++ [']', ':'] ++ Decimal.naturalText port

def render (a : SocketAddress) : String := String.ofList a.text

end SocketAddress

end Governance
