import Governance.Ambient
import Governance.Audit.Entry
import Governance.Time.Instant

/-!
# Where audit entries are kept and found

A backend takes batches of entries in transactions and can be searched.
-/

namespace Governance

/-!
## Searching audit entries

Criteria select the entries that agree with all of them, newest first and equal times in the order in
which the entries were committed, and no more of them than the limit.
-/

/-- Which entries are wanted. -/
structure Criteria where
  email : Option String
  client : Option String
  requestKind : Option String
  start : Option Instant
  finish : Option Instant
  limit : Option Nat
  deriving DecidableEq, Repr

namespace Criteria

/-- The criteria that every entry agrees with. -/
def all : Criteria := ⟨none, none, none, none, none, none⟩

/-- Whether an entry agrees with all criteria. Bounds of time are included. -/
def admits (c : Criteria) (e : AuditEntry) : Bool :=
  c.email.all (e.actor.email = ·) && c.client.all (e.client = some ·) &&
    c.requestKind.all (e.requestKind = ·) && c.start.all (·.le e.timestamp) &&
    c.finish.all (e.timestamp.le ·)

/-- The limit, unless it is absent or nought, which means that there is none. -/
def cap (c : Criteria) : Option Nat := c.limit.filter fun n => 0 < n

/-- Whether an entry may stand before another one. -/
def notOlder (a b : AuditEntry) : Bool := b.timestamp.le a.timestamp

/-- The wanted entries among those committed, newest first. -/
def select (c : Criteria) (committed : List AuditEntry) : List AuditEntry :=
  let sorted := (committed.filter c.admits).mergeSort notOlder
  match c.cap with
  | some limit => sorted.take limit
  | none => sorted

end Criteria

/-!
## Where audit entries are kept

A backend takes batches of entries in transactions and can be searched. `σ` is what it holds and `τ`
is a transaction that is open. A transaction ends by being committed or rolled back; one that fails to
be committed has ended too.
-/

/-- Why an audit component failed. -/
inductive AuditError where
  | invalidConfig (problem : String)
  | io (reason : String)
  | serialization (reason : String)
  | transaction (reason : String)
  | store (reason : String)
  deriving DecidableEq, Repr

def AuditError.message : AuditError → String
  | .invalidConfig problem => "invalid audit configuration: " ++ problem
  | .io reason => "i/o error: " ++ reason
  | .serialization reason => "serialization error: " ++ reason
  | .transaction reason => "audit transaction failed: " ++ reason
  | .store reason => "audit store error: " ++ reason

/-- What a backend can do. -/
structure AuditBackend (σ τ : Type) where
  /-- Opens a transaction. -/
  start : Acting σ (Except AuditError τ)
  /-- Makes ready for inserting entries. -/
  prepare : τ → Acting σ (Except AuditError Unit × τ)
  /-- Adds an entry to a transaction. -/
  insert : AuditEntry → τ → Acting σ (Except AuditError Unit × τ)
  /-- Makes the entries of a transaction last. -/
  commit : τ → Acting σ (Except AuditError Unit)
  /-- Drops the entries of a transaction. -/
  rollback : τ → Acting σ (Except AuditError Unit)
  /-- Tells whether the backend can be reached. -/
  ping : Acting σ (Except AuditError Unit)
  /-- How long it takes to tell. -/
  pingTime : σ → Duration
  /-- Finds entries. -/
  search : Criteria → Acting σ (Except AuditError (List AuditEntry))

end Governance
