import Governance.Audit.Backend
import Governance.Audit.Codec
import Governance.Json.Printer
import Governance.Json.Reader
import Governance.Text.Percent

/-!
# Audit entries in a journal

A journal is a file with one entry in JSON on each line. A transaction collects lines and appends all
of them at once when it is committed. Lines that are no entries are passed over when the journal is
searched.

A file that is removed is gone for readers, while a writer that has it open goes on writing to what
nobody can read any more. Generations tell a file from the one that stands in its place later.
-/

namespace Governance

/-- The place of a journal in the file system. The bytes are absent when there is no file. -/
structure JournalFile where
  path : String
  generation : Nat
  bytes : Option (List UInt8)
  deriving Repr

/-- A journal: its place, and the generation of the file that it has open. -/
structure Journal where
  file : JournalFile
  handle : Nat
  deriving Repr

/-- A transaction of a journal: the generation of the file it writes to, and what it will append. -/
structure JournalLines where
  handle : Nat
  bytes : List UInt8
  deriving Repr

/-- What the file system says about a file that does not exist. -/
def missingFileMessage : String := "No such file or directory (os error 2)"

namespace JournalFile

def absent (path : String) : JournalFile := ⟨path, 0, none⟩

/-- Adds bytes to the file that has been opened in a generation. -/
def append (f : JournalFile) (handle : Nat) (added : List UInt8) : JournalFile :=
  if f.generation = handle then { f with bytes := f.bytes.map (· ++ added) } else f

def remove (f : JournalFile) : JournalFile := { f with bytes := none }

end JournalFile

namespace Journal

/-- The byte that ends a line. -/
def lineEnd : UInt8 := 10

/-- Opens the file at a place, which is created when it does not exist. -/
def openAt (f : JournalFile) : Journal :=
  match f.bytes with
  | some _ => ⟨f, f.generation⟩
  | none => ⟨⟨f.path, f.generation + 1, some []⟩, f.generation + 1⟩

/-- Splits bytes at the ends of lines; `line` is the line so far in reverse. -/
def splitLines (line : List UInt8) : List UInt8 → List (List UInt8)
  | [] => [line.reverse]
  | b :: rest => if b = lineEnd then line.reverse :: splitLines [] rest
      else splitLines (b :: line) rest

/-- The lines of a file that are not empty. -/
def linesOf (bytes : List UInt8) : List (List UInt8) :=
  (splitLines [] bytes).filter fun line => !line.isEmpty

/-- What is read in place of bytes that are no UTF-8: the escape of half a pair, which makes the text void
that it stands in, behind a letter with which no escape goes on. Nothing but a text can hold it. -/
def brokenChars : List Char := ['x', '\\', 'u', 'd', '8', '0', '0']

/-- The characters of a line. -/
def charsOf (line : List UInt8) : List Char :=
  (Text.charsOf line).flatMap fun
    | some c => [c]
    | none => brokenChars

/-- The entry on a line. Whatever else the line says of it may be void, or no UTF-8 within a text. -/
def entryOf? (line : List UInt8) : Option AuditEntry :=
  match Json.readFor AuditEntry.interest (charsOf line) with
  | .error _ => none
  | .ok value => (AuditEntry.ofJson value).toOption

def lineOf (e : AuditEntry) : List UInt8 := e.toJson.render.toUTF8.toList ++ [lineEnd]

def entriesOf (bytes : List UInt8) : List AuditEntry := (linesOf bytes).filterMap entryOf?

/-- The event of passing over the line with an index. -/
def skippedEvent (path : String) (index : Nat) : Event :=
  ⟨.warn, "skipping unreadable audit line", [("path", .string path), ("line", .ofNat index),
    ("error", .string "not an audit entry")]⟩

/-- The events of reading lines, the first of which has an index. -/
def skippedEvents (path : String) (index : Nat) : List (List UInt8) → List Event
  | [] => []
  | line :: rest =>
    (if (entryOf? line).isNone then [skippedEvent path index] else []) ++
      skippedEvents path (index + 1) rest

def start : Acting Journal (Except AuditError JournalLines) := do
  return .ok ⟨(← get).handle, []⟩

def insert (e : AuditEntry) (t : JournalLines) :
    Acting Journal (Except AuditError Unit × JournalLines) :=
  return (.ok (), ⟨t.handle, t.bytes ++ lineOf e⟩)

/-- Appends what a transaction has collected. -/
def commit (t : JournalLines) : Acting Journal (Except AuditError Unit) := do
  modify fun s => { s with file := s.file.append t.handle t.bytes }
  return .ok ()

/-- Tells whether there is a file at the place of the journal. -/
def ping : Acting Journal (Except AuditError Unit) := do
  match (← get).file.bytes with
  | some _ => return .ok ()
  | none => return .error (.io missingFileMessage)

def search (criteria : Criteria) : Acting Journal (Except AuditError (List AuditEntry)) := do
  let file := (← get).file
  match file.bytes with
  | none => return .error (.io missingFileMessage)
  | some bytes =>
    StateT.lift (Ambient.emitAll (skippedEvents file.path 0 (linesOf bytes)))
    return .ok (criteria.select (entriesOf bytes))

def backend : AuditBackend Journal JournalLines where
  start := start
  prepare t := return (.ok (), t)
  insert := insert
  commit := commit
  rollback _ := return .ok ()
  ping := ping
  pingTime _ := ⟨0⟩
  search := search

end Journal

end Governance
