import Governance.Ambient
import Governance.Program
import Governance.Sql.Command

/-!
# What a database can be asked

Commands run on a connection of their own or in a transaction. Inside a transaction there may be
savepoints, each within the one before; what is undone back to a savepoint leaves the transaction open.

A computation over a database is a program over the calls below. It also reads the clock, draws
identifiers and reports events.
-/

namespace Governance.Sql

/-- A row: columns and their values. -/
abbrev Row := List (String × Value)

/-- What a command brought about: the rows it returned and the number of rows it concerned. -/
structure Result where
  rows : List Row
  affected : Nat
  deriving Repr

/-- Why a database did not do what it was asked. -/
inductive SqlError where
  | refused (reason : String)
  | closed
  | noRow
  | unreadable (column : String)
  deriving DecidableEq, Repr

def SqlError.message : SqlError → String
  | .refused reason => "error returned from database: " ++ reason
  | .closed => "attempted to acquire a connection on a closed pool"
  | .noRow => "no rows returned by a query that expected to return at least one row"
  | .unreadable column => "error occurred while decoding column \"" ++ column ++ "\""

/-- What controls transactions. -/
inductive Control where
  | begin
  | commit
  | rollback
  | savepoint
  | release
  | rollbackTo
  deriving DecidableEq, Repr

def Control.words : Control → String
  | .begin => "BEGIN"
  | .commit => "COMMIT"
  | .rollback => "ROLLBACK"
  | .savepoint => "SAVEPOINT"
  | .release => "RELEASE"
  | .rollbackTo => "ROLLBACK TO"

/-- The connection of a transaction: how deep transaction and savepoints are nested in it, and what it has
to send before anything else, because a level was left without being ended. -/
structure Transaction where
  depth : Nat
  owed : List Control
  deriving DecidableEq, Repr

/-- How a transaction or savepoint is ended. -/
inductive Ending where
  | commit
  | rollback
  deriving DecidableEq, Repr

/-- What is asked of a database, and of the surroundings.

* `connect` makes sure that there is a connection, `execute` runs a command on one.
* `start` opens a transaction, `finish` ends it and `abandon` leaves it to be undone.
* `within` runs a command in a transaction, `prepare` only makes one ready.
* `mark` sets a savepoint in a transaction, `settle` ends it and `leave` leaves it to be undone. -/
inductive Call where
  | connect
  | execute (c : Command)
  | start
  | finish (e : Ending) (t : Transaction)
  | abandon (t : Transaction)
  | within (t : Transaction) (c : Command)
  | prepare (t : Transaction) (c : Command)
  | mark (t : Transaction)
  | settle (e : Ending) (t : Transaction)
  | leave (t : Transaction)
  | now
  | uuid
  | report (e : Event)
  deriving Repr

abbrev Call.Answer : Call → Type
  | .connect => Except SqlError Unit
  | .execute _ => Except SqlError Result
  | .start => Except SqlError Transaction
  | .finish .. => Except SqlError Unit
  | .abandon _ => Unit
  | .within .. => Except SqlError Result × Transaction
  | .prepare .. => Except SqlError Unit × Transaction
  | .mark _ => Except SqlError Unit × Transaction
  | .settle .. => Except SqlError Unit × Transaction
  | .leave _ => Transaction
  | .now => Instant
  | .uuid => Uuid
  | .report _ => Unit

/-- A database as programs see it. -/
abbrev sqlInterface : Interface := ⟨Call, Call.Answer⟩

/-- A computation over a database. -/
abbrev SqlProgram (α : Type) := Program sqlInterface α

def ask (c : Call) : SqlProgram c.Answer := Program.perform (I := sqlInterface) c

/-- Runs commands one after the other until one of them fails. -/
def runAll : List Command → SqlProgram (Except SqlError Unit)
  | [] => return .ok ()
  | c :: rest => do
    match ← ask (.execute c) with
    | .ok _ => runAll rest
    | .error e => return .error e

end Governance.Sql
