import Governance.Json.Token

/-!
# Texts in TOML documents

A text stands in quotation marks, in which a backslash starts an escape, or in apostrophes, in which
every character stands for itself. Three marks open a text of several lines; a line break right behind
them does not count, and a backslash at the end of a line takes the blanks that follow with it.
-/

namespace Governance.Toml

/-- The reader of the beginning of a text, which answers what it read and the rest. -/
abbrev Reader (α : Type) := List Char → Option (α × List Char)

/-- Whether a character may stand in a line. -/
def isLineChar (c : Char) : Bool := c = '\t' || (32 ≤ c.toNat && c.toNat ≠ 127)

/-- The character of a number in hexadecimal digits, unless it is none. -/
def charOfHex? (digits : List Char) : Option Char := do
  let values ← digits.mapM Json.hexValue?
  let code := values.foldl (fun n d => n * 16 + d) 0
  if code < 0xD800 || (0xE000 ≤ code && code < 0x110000) then some (Char.ofNat code) else none

/-- The character that a letter behind a backslash stands for. -/
def escaped? : Char → Option Char
  | '/' => none
  | c => Json.escapedChar? c

/-- Puts a character in front of what a reader has read. -/
def before (c : Char) (read : Option (List Char × List Char)) : Option (List Char × List Char) :=
  read.map fun (text, rest) => (c :: text, rest)

/-- Reads a text of one line up to the closing quotation mark. -/
def quotedLine : Reader (List Char)
  | [] => none
  | '"' :: rest => some ([], rest)
  | '\\' :: 'u' :: a :: b :: c :: d :: rest => do
    before (← charOfHex? [a, b, c, d]) (quotedLine rest)
  | '\\' :: 'U' :: a :: b :: c :: d :: e :: f :: g :: h :: rest => do
    before (← charOfHex? [a, b, c, d, e, f, g, h]) (quotedLine rest)
  | '\\' :: c :: rest => do before (← escaped? c) (quotedLine rest)
  | c :: rest => if isLineChar c then before c (quotedLine rest) else none

/-- Reads a text of one line up to the closing apostrophe. -/
def plainLine : Reader (List Char)
  | [] => none
  | '\'' :: rest => some ([], rest)
  | c :: rest => if isLineChar c then before c (plainLine rest) else none

/-- What stands behind a line break. -/
def lineBreak? : List Char → Option (List Char)
  | '\n' :: rest => some rest
  | '\r' :: '\n' :: rest => some rest
  | _ => none

def skipBlanks (cs : List Char) : List Char := cs.dropWhile fun c => c = ' ' || c = '\t'

/-- Whether a character is a blank or part of a line break. -/
def isSpace (c : Char) : Bool := c = ' ' || c = '\t' || c = '\n' || c = '\r'

/-- Reads the closing marks of a text of several lines: three of them, in front of which two more may
stand for themselves. -/
def closing? (mark : Char) (cs : List Char) : Option (List Char × List Char) :=
  let marks := (cs.takeWhile (· = mark)).length
  if marks < 3 then none
  else some (List.replicate (min marks 5 - 3) mark, cs.drop (min marks 5))

/-- Reads a text of several lines in quotation marks; `fuel` is more than its length. -/
def quotedLines : Nat → Reader (List Char)
  | 0, _ => none
  | fuel + 1, cs =>
    match closing? '"' cs with
    | some closed => some closed
    | none => match cs with
      | [] => none
      | '\\' :: 'u' :: a :: b :: c :: d :: rest => do
        before (← charOfHex? [a, b, c, d]) (quotedLines fuel rest)
      | '\\' :: 'U' :: a :: b :: c :: d :: e :: f :: g :: h :: rest => do
        before (← charOfHex? [a, b, c, d, e, f, g, h]) (quotedLines fuel rest)
      | '\\' :: rest =>
        match lineBreak? (skipBlanks rest), rest with
        | some lines, _ => quotedLines fuel (lines.dropWhile isSpace)
        | none, c :: rest => do before (← escaped? c) (quotedLines fuel rest)
        | none, [] => none
      | c :: rest =>
        match lineBreak? (c :: rest) with
        | some lines => before '\n' (quotedLines fuel lines)
        | none => if isLineChar c then before c (quotedLines fuel rest) else none

/-- Reads a text of several lines in apostrophes; `fuel` is more than its length. -/
def plainLines : Nat → Reader (List Char)
  | 0, _ => none
  | fuel + 1, cs =>
    match closing? '\'' cs with
    | some closed => some closed
    | none => match cs with
      | [] => none
      | c :: rest =>
        match lineBreak? (c :: rest) with
        | some lines => before '\n' (plainLines fuel lines)
        | none => if isLineChar c then before c (plainLines fuel rest) else none

def asString (read : Option (List Char × List Char)) : Option (String × List Char) :=
  read.map fun (text, rest) => (String.ofList text, rest)

/-- The rest without a line break in front. -/
def skipBreak (cs : List Char) : List Char := (lineBreak? cs).getD cs

def readText : Reader String
  | '"' :: '"' :: '"' :: rest => asString (quotedLines (rest.length + 1) (skipBreak rest))
  | '"' :: rest => asString (quotedLine rest)
  | '\'' :: '\'' :: '\'' :: rest => asString (plainLines (rest.length + 1) (skipBreak rest))
  | '\'' :: rest => asString (plainLine rest)
  | _ => none

end Governance.Toml
