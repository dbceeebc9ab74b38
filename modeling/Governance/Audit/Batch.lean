import Governance.Audit.Backend

/-!
# Batches of audit entries

A batch is written in one transaction. An entry that cannot be inserted is passed over and the others
are committed; when the transaction itself fails nothing of the batch is. A writer collects entries and
writes them when its batch is full. Whatever happens to a batch, it is never offered again.

Where no entries are kept there is no backend, and writing does nothing. A writer does not know how a
batch is written: that is given to it as a `BatchAction`.
-/

namespace Governance

/-- What became of the entries of a batch. -/
structure WriteReport where
  written : Nat
  failed : Nat
  deriving DecidableEq, Repr

/-- Reports an event while something is being done with `σ`. -/
def tell {σ : Type} (level : Level) (message : String) (fields : List (String × Json)) :
    Acting σ Unit :=
  StateT.lift (Ambient.emit level message fields)

namespace AuditBackend

variable {σ τ : Type}

/-- Inserts entries one after the other and counts what became of them. -/
def insertAll (b : AuditBackend σ τ) : List AuditEntry → τ → WriteReport →
    Acting σ (WriteReport × τ)
  | [], t, r => return (r, t)
  | e :: rest, t, r => do
    match ← b.insert e t with
    | (.ok (), t) => b.insertAll rest t { r with written := r.written + 1 }
    | (.error error, t) =>
      tell .warn "failed to insert audit entry" [("audit_id", .string e.id.text),
        ("request_id", .string e.request.text), ("error", .string error.message)]
      b.insertAll rest t { r with failed := r.failed + 1 }

/-- Rolls a transaction back that could not be made ready. -/
def abandon (b : AuditBackend σ τ) (t : τ) : Acting σ Unit := do
  match ← b.rollback t with
  | .ok () => pure ()
  | .error error => tell .warn "audit batch rollback failed" [("error", .string error.message)]

/-- Writes a batch in one transaction. -/
def write (b : AuditBackend σ τ) (batch : List AuditEntry) :
    Acting σ (Except AuditError WriteReport) := do
  match ← b.start with
  | .error e => return .error (.transaction ("failed to begin audit batch: " ++ e.message))
  | .ok t =>
    match ← b.prepare t with
    | (.error e, t) =>
      b.abandon t
      return .error (.transaction ("failed to prepare audit insert: " ++ e.message))
    | (.ok (), t) =>
      let (r, t) ← b.insertAll batch t ⟨0, 0⟩
      match ← b.commit t with
      | .error e => return .error (.transaction ("failed to commit audit batch: " ++ e.message))
      | .ok () =>
        tell .debug "audit batch committed" [("written", .ofNat r.written),
          ("failed", .ofNat r.failed)]
        return .ok r

end AuditBackend

abbrev BatchAction (σ : Type) := List AuditEntry → Acting σ (Except AuditError WriteReport)

/-- Collects entries until there are enough of them for a batch. -/
structure BatchWriter where
  size : Nat
  pending : List AuditEntry
  deriving Repr

namespace BatchWriter

variable {σ τ : Type}

def defaultSize : Nat := 100

/-- A writer that has not collected anything. -/
def ofSize (size : Nat) : BatchWriter := ⟨size, []⟩

/-- Writes a batch if entries are kept anywhere. -/
def write (b : Option (AuditBackend σ τ)) : BatchAction σ := fun batch =>
  match b with
  | some b => b.write batch
  | none => return .ok ⟨0, 0⟩

/-- Writes all that has been collected, be it nothing. -/
def flush (write : BatchAction σ) (w : BatchWriter) :
    Acting σ (Except AuditError WriteReport × BatchWriter) := do
  return (← write w.pending, { w with pending := [] })

/-- Collects an entry and writes the batch once it is full. -/
def add (write : BatchAction σ) (e : AuditEntry) (w : BatchWriter) : Acting σ BatchWriter := do
  let w := { w with pending := w.pending ++ [e] }
  if w.pending.length < w.size then return w
  match ← w.flush write with
  | (.ok _, w) => return w
  | (.error error, w) =>
    tell .error "failed to write audit batch" [("error", .string error.message)]
    return w

end BatchWriter

end Governance
