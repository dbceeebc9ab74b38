/-!
# Parts of texts

The white space of every script, what stands between the marks in a text, and the integers that texts
stand for.
-/

namespace Governance.Text

/-!
## Blanks

The characters that count as white space in every script, and texts that consist of nothing else.
-/

/-- White space of every script: the ASCII controls from tab to carriage return, the space, and
the separators and spaces of the other blocks. -/
def isBlankChar (c : Char) : Bool :=
  let code := c.toNat
  (9 ≤ code && code ≤ 13) || code = 32 || code = 0x85 || code = 0xA0 || code = 0x1680 ||
    (0x2000 ≤ code && code ≤ 0x200A) || code = 0x2028 || code = 0x2029 || code = 0x202F ||
    code = 0x205F || code = 0x3000

def trimStart (cs : List Char) : List Char := cs.dropWhile isBlankChar

def trimEnd (cs : List Char) : List Char := (cs.reverse.dropWhile isBlankChar).reverse

/-- A text without the white space around it. -/
def trim (cs : List Char) : List Char := trimEnd (trimStart cs)

def trimmed (text : String) : String := String.ofList (trim text.toList)

/-- Whether a string holds nothing but white space. -/
def isBlank (text : String) : Bool := text.toList.all isBlankChar

/-!
## Splitting texts

A text is split at every occurrence of a mark; so there is always one part more than there are marks.
-/

/-- The parts of a text between the marks in it. -/
def splitAtMark (mark : Char) : List Char → List (List Char)
  | [] => [[]]
  | c :: rest =>
    match splitAtMark mark rest with
    | [] => [[c]]
    | first :: others => if c = mark then [] :: first :: others else (c :: first) :: others

/-!
## Integers in texts

A run of decimal digits, behind a sign if there is one, and nothing else.
-/

def digits? (cs : List Char) : Option Nat :=
  if cs.isEmpty || !cs.all Char.isDigit then none
  else some (cs.foldl (fun n c => n * 10 + (c.toNat - '0'.toNat)) 0)

/-- The natural number of a text; a plus sign may stand in front. -/
def natural? : List Char → Option Nat
  | '+' :: rest => digits? rest
  | cs => digits? cs

/-- The integer of a text; a sign may stand in front. -/
def integer? : List Char → Option Int
  | '-' :: rest => (digits? rest).map fun n => -(n : Int)
  | cs => (natural? cs).map Int.ofNat

/-- The integer of a text between two bounds, both included. -/
def boundedInteger? (low high : Int) (text : String) : Option Int :=
  (integer? text.toList).filter fun n => low ≤ n && n ≤ high

end Governance.Text
