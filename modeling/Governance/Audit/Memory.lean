import Governance.Audit.Backend

/-!
# Audit entries in memory

The committed entries in the order of their commits. Every operation can be made to fail, and the
transactions are counted.
-/

namespace Governance

/-- Entries kept in memory. -/
structure MemoryAudit where
  committed : List AuditEntry
  rejected : List String
  failsStart : Bool
  failsPrepare : Bool
  failsCommit : Bool
  failsPing : Bool
  pingTime : Duration
  starts : Nat
  commits : Nat
  rollbacks : Nat
  deriving Repr

/-- Entries inserted in a transaction that is still open. -/
structure StagedEntries where
  entries : List AuditEntry
  deriving Repr

namespace MemoryAudit

/-- No entries, and nothing fails. -/
def empty : MemoryAudit := ⟨[], [], false, false, false, false, ⟨0⟩, 0, 0, 0⟩

/-- Makes the insertion of entries of a request fail. -/
def reject (s : MemoryAudit) (request : String) : MemoryAudit :=
  { s with rejected := request :: s.rejected }

def start : Acting MemoryAudit (Except AuditError StagedEntries) := do
  if (← get).failsStart then return .error (.transaction "begin refused")
  modify fun s => { s with starts := s.starts + 1 }
  return .ok ⟨[]⟩

/-- Makes ready for inserting entries. -/
def prepare (t : StagedEntries) :
    Acting MemoryAudit (Except AuditError Unit × StagedEntries) := do
  if (← get).failsPrepare then return (.error (.transaction "prepare refused"), t)
  return (.ok (), t)

/-- Adds an entry to a transaction, unless entries of its request are rejected. -/
def insert (e : AuditEntry) (t : StagedEntries) :
    Acting MemoryAudit (Except AuditError Unit × StagedEntries) := do
  if (← get).rejected.contains e.request.text then
    return (.error (.store ("insert rejected for " ++ e.request.text)), t)
  return (.ok (), ⟨t.entries ++ [e]⟩)

/-- Makes the entries of a transaction last; when that fails the transaction is rolled back. -/
def commit (t : StagedEntries) : Acting MemoryAudit (Except AuditError Unit) := do
  if (← get).failsCommit then
    modify fun s => { s with rollbacks := s.rollbacks + 1 }
    return .error (.transaction "commit refused")
  modify fun s => { s with committed := s.committed ++ t.entries, commits := s.commits + 1 }
  return .ok ()

def rollback (_ : StagedEntries) : Acting MemoryAudit (Except AuditError Unit) := do
  modify fun s => { s with rollbacks := s.rollbacks + 1 }
  return .ok ()

def ping : Acting MemoryAudit (Except AuditError Unit) := do
  if (← get).failsPing then return .error (.store "store unreachable")
  return .ok ()

def backend : AuditBackend MemoryAudit StagedEntries where
  start := start
  prepare := prepare
  insert := insert
  commit := commit
  rollback := rollback
  ping := ping
  pingTime := pingTime
  search criteria := do return .ok (criteria.select (← get).committed)

end MemoryAudit

end Governance
