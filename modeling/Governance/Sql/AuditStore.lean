import Governance.Sql.AuditTable

/-!
# Audit entries in a database

A batch is a transaction, and every entry is added under a savepoint of its own, so that an entry that
cannot be added leaves the others alone. What answers the calls of these computations makes a backend of
them.
-/

namespace Governance.Sql.AuditStore

open AuditTable

def storeError (purpose : String) (e : SqlError) : AuditError :=
  .store (purpose ++ ": " ++ e.message)

def transactionError (purpose : String) (e : SqlError) : AuditError :=
  .transaction (purpose ++ ": " ++ e.message)

def start : SqlProgram (Except AuditError Transaction) := do
  return (← ask .start).mapError (transactionError "Failed to begin transaction")

/-- Makes adding entries ready. -/
def prepare (t : Transaction) : SqlProgram (Except AuditError Unit × Transaction) := do
  let (outcome, t) ← ask (.prepare t blankInsertion)
  return (outcome.mapError (transactionError "Failed to prepare audit insert"), t)

/-- Adds an entry under a savepoint. -/
def insert (e : AuditEntry) (t : Transaction) :
    SqlProgram (Except AuditError Unit × Transaction) := do
  match ← ask (.mark t) with
  | (.error failure, t) => return (.error (storeError "Failed to open savepoint" failure), t)
  | (.ok (), t) =>
    match ← ask (.within t (insertion e)) with
    | (.error failure, t) =>
      let t ← ask (.leave t)
      return (.error (storeError "Failed to insert audit entry" failure), t)
    | (.ok _, t) =>
      let (outcome, t) ← ask (.settle .commit t)
      return (outcome.mapError (storeError "Failed to release savepoint"), t)

/-- Makes the entries of a transaction last. -/
def commit (t : Transaction) : SqlProgram (Except AuditError Unit) := do
  return (← ask (.finish .commit t)).mapError (transactionError "Failed to commit audit batch")

def rollback (t : Transaction) : SqlProgram (Except AuditError Unit) := do
  return (← ask (.finish .rollback t)).mapError
    (transactionError "Failed to roll back audit batch")

def ping : SqlProgram (Except AuditError Unit) := do
  match ← ask (.execute .probe) with
  | .ok _ => return .ok ()
  | .error e => return .error (storeError "Audit database unreachable" e)

/-- Finds entries. Every row is read before one of them counts as corrupt. -/
def search (c : Criteria) : SqlProgram (Except AuditError (List AuditEntry)) := do
  match (← ask (.execute (searching c))).bind (Result.readAll ofRow) with
  | .ok rows => return rows.mapM id
  | .error e => return .error (storeError "Failed to search audit logs" e)

/-- Defines the table unless it is there. -/
def define : SqlProgram (Except AuditError Unit) := do
  return (← runAll definition).mapError (storeError "Failed to create audit schema")

/-- The database as a backend of whatever answers the calls. -/
def backend {σ : Type} (answer : (c : Call) → Acting σ c.Answer) :
    AuditBackend σ Transaction where
  start := Program.run answer start
  prepare t := Program.run answer (prepare t)
  insert e t := Program.run answer (insert e t)
  commit t := Program.run answer (commit t)
  rollback t := Program.run answer (rollback t)
  ping := Program.run answer ping
  pingTime := fun _ => ⟨0⟩
  search c := Program.run answer (search c)

end Governance.Sql.AuditStore
