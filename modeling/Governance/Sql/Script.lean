import Governance.Sql.Call

/-!
# A database that follows a script

The script holds a reply for every command and faults for what controls transactions; what is sent is
noted down. Nothing is stored, and what was asked before has no influence on a reply.

Only the handling of transactions is real. A level of a transaction that is left without being ended, or
whose ending fails, is owed the control that undoes it. What is owed is sent before anything else on that
connection, and a failure of it is the failure of what comes next.
-/

namespace Governance.Sql

/-- A reply to a command. Rows are written in JSON. -/
inductive Reply where
  | refused (reason : String)
  | answered (rows : List (List (String × Json))) (affected : Nat)
  deriving Repr

/-- The reply when the script has none left. -/
def Reply.nothing : Reply := .answered [] 0

/-- Something that was sent. -/
inductive Statement where
  | control (c : Control)
  | command (c : Command)
  | preparation (c : Command)
  deriving Repr

/-- A database with its script, and what was sent so far, latest first. -/
structure Script where
  replies : List Reply
  faults : List (Control × String)
  preparationFault : Option String
  isClosed : Bool
  sent : List Statement
  deriving Repr

namespace Script

variable {α : Type}

def blank : Script := ⟨[], [], none, false, []⟩

/-- Notes down what is sent. -/
def note (s : Statement) : Acting Script Unit :=
  modify fun script => { script with sent := s :: script.sent }

/-- Sends a control. A fault for it makes it fail once. -/
def send (c : Control) : Acting Script (Except SqlError Unit) := do
  note (.control c)
  match (← get).faults.find? (·.1 = c) with
  | none => return .ok ()
  | some fault =>
    modify fun script => { script with faults := script.faults.filter (·.1 ≠ c) }
    return .error (.refused fault.2)

/-- A row with the columns that a command returns. -/
def typedRow (columns : List (String × ColumnType)) (members : List (String × Json)) : Row :=
  columns.map fun (name, type) => (name, .ofJson type ((Json.lookup name members).getD .null))

/-- Sends a command and takes the next reply. -/
def run (c : Command) : Acting Script (Except SqlError Result) := do
  note (.command c)
  let script ← get
  set { script with replies := script.replies.tail }
  match script.replies.headD .nothing with
  | .refused reason => return .error (.refused reason)
  | .answered rows affected => return .ok ⟨rows.map (typedRow c.returned), affected⟩

/-! ### Transactions -/

/-- What opens another level in a transaction. -/
def opening (t : Transaction) : Control := if t.depth = 0 then .begin else .savepoint

/-- What ends the innermost level of a transaction. -/
def closing (t : Transaction) : Ending → Control
  | .commit => if t.depth = 1 then .commit else .release
  | .rollback => if t.depth = 1 then .rollback else .rollbackTo

/-- The transaction without its innermost level, which is to be undone. -/
def left (t : Transaction) : Transaction :=
  if t.depth = 0 then t else ⟨t.depth - 1, t.owed ++ [closing t .rollback]⟩

/-- Sends controls; the first failure counts. -/
def sendAll : List Control → Acting Script (Except SqlError Unit)
  | [] => return .ok ()
  | c :: rest => do
    let outcome ← send c
    let others ← sendAll rest
    return outcome.bind fun () => others

/-- Sends what a transaction owes. -/
def pay (t : Transaction) : Acting Script (Except SqlError Unit × Transaction) := do
  return (← sendAll t.owed, { t with owed := [] })

/-- Sends what a transaction owes, and something else unless that failed. -/
def afterPaying (t : Transaction) (act : Acting Script (Except SqlError α)) :
    Acting Script (Except SqlError α × Transaction) := do
  match ← pay t with
  | (.error e, t) => return (.error e, t)
  | (.ok (), t) => return (← act, t)

/-- Gives a connection back. What is still owed is sent; nobody learns of its failure. -/
def giveBack (t : Transaction) : Acting Script Unit := do
  let _ ← pay t

/-- Opens another level; both what is owed and the control are sent before either answer is looked at.
When it fails the level around it is left. -/
def mark (t : Transaction) : Acting Script (Except SqlError Unit × Transaction) := do
  let (outcome, t) ← pay t
  let opened ← send (opening t)
  match outcome.bind fun () => opened with
  | .ok () => return (.ok (), { t with depth := t.depth + 1 })
  | .error e => return (.error e, left t)

/-- Ends the innermost level, if there is one. -/
def settle (e : Ending) (t : Transaction) :
    Acting Script (Except SqlError Unit × Transaction) := do
  if t.depth = 0 then return (.ok (), t)
  match ← afterPaying t (send (closing t e)) with
  | (.ok (), t) => return (.ok (), { t with depth := t.depth - 1 })
  | (.error failure, t) => return (.error failure, left t)

/-- Makes a command ready in a transaction. -/
def prepare (t : Transaction) (c : Command) :
    Acting Script (Except SqlError Unit × Transaction) :=
  afterPaying t do
    note (.preparation c)
    match (← get).preparationFault with
    | some reason => return .error (.refused reason)
    | none => return .ok ()

/-! ### Calls -/

/-- Does something on a new connection, unless the database is closed. -/
def whenOpen (act : Acting Script (Except SqlError α)) : Acting Script (Except SqlError α) := do
  if (← get).isClosed then return .error .closed
  act

def answer : (c : Call) → Acting Script c.Answer
  | .connect => whenOpen (return .ok ())
  | .execute c => whenOpen (run c)
  | .start => whenOpen do return (← send .begin).map fun () => ⟨1, []⟩
  | .finish e t => do
    let (outcome, t) ← settle e t
    giveBack t
    return outcome
  | .abandon t => giveBack (left t)
  | .within t c => afterPaying t (run c)
  | .prepare t c => prepare t c
  | .mark t => mark t
  | .settle e t => settle e t
  | .leave t => return left t
  | .now => StateT.lift Ambient.now
  | .uuid => StateT.lift Ambient.uuid
  | .report e => StateT.lift (Ambient.emit e.level e.message e.fields)

end Script

end Governance.Sql
