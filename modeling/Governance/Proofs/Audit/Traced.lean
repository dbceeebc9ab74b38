import Governance.Audit.Batch
import Governance.Audit.Memory
import Governance.Proofs.Audit.Watched

/-!
# Watching what is done with batches

A traced store is entries in memory that remember what was done in every transaction, and every batch
that was written there: for what it was written, what came of it, and what the store held before and
after. Before each operation others may make anything of the faults of the store. Where nobody does, a
traced store answers as the store itself does: `map_calls`.
-/

namespace Governance

/-! ## Stores whose faults change -/

/-- What is made to fail. -/
structure AuditFaults where
  rejected : List String
  start : Bool
  prepare : Bool
  commit : Bool

/-- What a store holds, and how many transactions it has opened and closed. -/
structure AuditBooks where
  committed : List AuditEntry
  starts : Nat
  commits : Nat
  rollbacks : Nat

namespace MemoryAudit

def faults (s : MemoryAudit) : AuditFaults := ⟨s.rejected, s.failsStart, s.failsPrepare, s.failsCommit⟩

def withFaults (s : MemoryAudit) (f : AuditFaults) : MemoryAudit := { s with
  rejected := f.rejected, failsStart := f.start, failsPrepare := f.prepare, failsCommit := f.commit }

def books (s : MemoryAudit) : AuditBooks := ⟨s.committed, s.starts, s.commits, s.rollbacks⟩

end MemoryAudit

/-! ## Traced stores -/

/-- Something that was done in a transaction, and what came of it. -/
inductive AuditDeed where
  | opened
  | offered (e : AuditEntry) (taken : Bool)
  | committed (kept : Bool)
  | rolledBack

namespace AuditDeed

def isOpening : AuditDeed → Bool
  | .opened => true
  | _ => false

/-- A transaction that fails to be committed is closed as well. -/
def isClosing : AuditDeed → Bool
  | .committed _ | .rolledBack => true
  | _ => false

def offer? : AuditDeed → Option (AuditEntry × Bool)
  | .offered e taken => some (e, taken)
  | _ => none

end AuditDeed

/-- Why a batch was written: it had become full, it was flushed, or it was given to be written. -/
inductive BatchOrigin where
  | filled
  | flushed
  | given
  deriving DecidableEq

/-- A batch that was written. A transaction goes by how many had been opened before it. -/
structure Writing where
  origin : BatchOrigin
  batch : List AuditEntry
  before : AuditBooks
  outcome : Except AuditError WriteReport
  after : AuditBooks
  deeds : List (Nat × AuditDeed)

namespace Writing

/-- The entries that were offered to a transaction, with whether they were taken. -/
def offers (w : Writing) : List (AuditEntry × Bool) := w.deeds.filterMap (·.2.offer?)

/-- The entries that a transaction took. -/
def taken (w : Writing) : List AuditEntry := (w.offers.filter (·.2)).map (·.1)

/-- The entries that a transaction did not take. -/
def passedOver (w : Writing) : List AuditEntry := (w.offers.filter (!·.2)).map (·.1)

def openings (w : Writing) : List Nat := (w.deeds.filter (·.2.isOpening)).map (·.1)

def closings (w : Writing) : List Nat := (w.deeds.filter (·.2.isClosing)).map (·.1)

/-- The entries that were committed. -/
def kept (w : Writing) : List AuditEntry :=
  match w.outcome with
  | .ok _ => w.taken
  | .error _ => []

end Writing

/-- A store that remembers what was done: since the last batch was written, and with the batches. -/
structure TracedAudit where
  store : MemoryAudit
  operations : Nat
  deeds : List (Nat × AuditDeed)
  writings : List Writing

namespace TracedAudit

variable {α : Type}

/-- A store before anything has been done. -/
def ofStore (s : MemoryAudit) : TracedAudit := ⟨s, 0, [], []⟩

/-- Does something with the store, after others have made of its faults what they like. -/
def act (disturb : Nat → AuditFaults → AuditFaults) (x : Acting MemoryAudit α) :
    Acting TracedAudit α := fun s => do
  let (value, store) ← x.run (s.store.withFaults (disturb s.operations s.store.faults))
  return (value, { s with store := store, operations := s.operations + 1 })

def note (n : Nat) (deed : AuditDeed) : Acting TracedAudit Unit :=
  modify fun s => { s with deeds := s.deeds ++ [(n, deed)] }

/-- The operations of a store, each of which is remembered with its transaction. -/
def backend (disturb : Nat → AuditFaults → AuditFaults) : AuditBackend TracedAudit (Nat × StagedEntries) where
  start := do
    let n := (← get).store.starts
    match ← act disturb MemoryAudit.start with
    | .error e => return .error e
    | .ok t =>
      note n .opened
      return .ok (n, t)
  prepare t := do
    let (outcome, staged) ← act disturb (MemoryAudit.prepare t.2)
    return (outcome, (t.1, staged))
  insert e t := do
    let (outcome, staged) ← act disturb (MemoryAudit.insert e t.2)
    note t.1 (.offered e outcome.isOk)
    return (outcome, (t.1, staged))
  commit t := do
    let outcome ← act disturb (MemoryAudit.commit t.2)
    note t.1 (.committed outcome.isOk)
    return outcome
  rollback t := do
    let outcome ← act disturb (MemoryAudit.rollback t.2)
    note t.1 .rolledBack
    return outcome
  ping := act disturb MemoryAudit.ping
  pingTime s := s.store.pingTime
  search criteria := act disturb (MemoryAudit.backend.search criteria)

/-- Writes a batch and remembers what came of it. -/
def write (disturb : Nat → AuditFaults → AuditFaults) (origin : BatchOrigin) : BatchAction TracedAudit :=
    fun batch => do
  let before ← get
  let outcome ← BatchWriter.write (some (backend disturb)) batch
  modify fun s => { s with
    deeds := []
    writings := s.writings ++ [⟨origin, batch, before.store.books, outcome, s.store.books, s.deeds⟩] }
  return outcome

end TracedAudit

/-! ## Calls of a writer -/

/-- A call of a writer. -/
inductive WriterCall where
  | add (e : AuditEntry)
  | flush
  | write (batch : List AuditEntry)

namespace WriterCall

def added? : WriterCall → Option AuditEntry
  | .add e => some e
  | _ => none

/-- Whether a call asks for a batch to be written, and is answered what came of it. -/
def asks : WriterCall → Bool
  | .add _ => false
  | _ => true

end WriterCall

/-- The call that a batch was written for, if it was not an entry that made it full. -/
def Writing.call? (w : Writing) : Option WriterCall :=
  match w.origin with
  | .filled => none
  | .flushed => some .flush
  | .given => some (.write w.batch)

/-- A writer that is called: the answers to the flushes and writes so far. -/
structure WriterStage (σ : Type) where
  writer : BatchWriter
  store : σ
  ambient : Ambient
  answers : List (Except AuditError WriteReport)

namespace WriterStage

variable {σ : Type}

def start (size : Nat) (store : σ) (a : Ambient) : WriterStage σ := ⟨.ofSize size, store, a, []⟩

def call (write : BatchOrigin → BatchAction σ) (stage : WriterStage σ) : WriterCall → WriterStage σ
  | .add e =>
    let ((writer, store), a) := (BatchWriter.add (write .filled) e stage.writer).run stage.store stage.ambient
    { stage with writer := writer, store := store, ambient := a }
  | .flush =>
    let (((answer, writer), store), a) :=
      (BatchWriter.flush (write .flushed) stage.writer).run stage.store stage.ambient
    ⟨writer, store, a, stage.answers ++ [answer]⟩
  | .write batch =>
    let ((answer, store), a) := (write .given batch).run stage.store stage.ambient
    ⟨stage.writer, store, a, stage.answers ++ [answer]⟩

def calls (write : BatchOrigin → BatchAction σ) (stage : WriterStage σ) (cs : List WriterCall) :
    WriterStage σ :=
  cs.foldl (call write) stage

end WriterStage

/-! ## Watching changes nothing -/

namespace TracedAudit

variable {α β γ δ : Type}

/-- The faults are left as they are. -/
def undisturbed : Nat → AuditFaults → AuditFaults := fun _ f => f

/-- Running `y` in the store that is traced gives what `x` gives, seen through `g`. -/
def Mirrors (g : α → β) (x : Acting TracedAudit α) (y : Acting MemoryAudit β) : Prop :=
  ∀ s a, y.run s.store a = ((g (x.run s a).1.1, (x.run s a).1.2.store), (x.run s a).2)

namespace Mirrors

theorem pure {g : α → β} {value : α} {value' : β} (hvalue : value' = g value) :
    Mirrors g (Pure.pure value) (Pure.pure value') := by
  subst hvalue
  exact fun _ _ => rfl

theorem bind {g : α → β} {h : γ → δ} {x : Acting TracedAudit α} {y : Acting MemoryAudit β}
    {k : α → Acting TracedAudit γ} {l : β → Acting MemoryAudit δ} (hx : Mirrors g x y)
    (hk : ∀ value, Mirrors h (k value) (l (g value))) : Mirrors h (x >>= k) (y >>= l) := by
  intro s a
  rw [Acting.run_bind_eq, Acting.run_bind_eq, hx]
  exact hk _ _ _

theorem tell_bind {g : α → β} {level : Level} {message : String} {fields : List (String × Json)}
    {k : Unit → Acting TracedAudit α} {l : Unit → Acting MemoryAudit β}
    (hk : Mirrors g (k ()) (l ())) :
    Mirrors g (tell level message fields >>= k) (tell level message fields >>= l) :=
  fun s a => hk s (Ambient.emit level message fields a).2

/-- What is remembered does not matter. -/
theorem note_bind {g : α → β} {n : Nat} {deed : AuditDeed} {k : Unit → Acting TracedAudit α}
    {y : Acting MemoryAudit β} (hk : Mirrors g (k ()) y) : Mirrors g (note n deed >>= k) y :=
  fun s a => hk { s with deeds := s.deeds ++ [(n, deed)] } a

theorem get_bind {g : α → β} {k : TracedAudit → Acting TracedAudit α} {y : Acting MemoryAudit β}
    (hk : ∀ s, Mirrors g (k s) y) : Mirrors g (get >>= k) y :=
  fun s a => hk s s a

theorem act_bind {x : Acting MemoryAudit α} {k : α → Acting TracedAudit β} {g : β → α}
    (hk : ∀ value, Mirrors g (k value) (Pure.pure value)) :
    Mirrors g (act undisturbed x >>= k) x := by
  have hact : Mirrors id (act undisturbed x) x := fun _ _ => rfl
  have hbound := bind hact hk
  rwa [bind_pure] at hbound

end Mirrors

theorem mirrors_start : Mirrors (·.map (·.2)) (backend undisturbed).start MemoryAudit.start := by
  refine .get_bind fun s => .act_bind fun outcome => ?_
  cases outcome with
  | error e => exact .pure rfl
  | ok t => exact .note_bind (.pure rfl)

theorem mirrors_insert (e : AuditEntry) (t : Nat × StagedEntries) :
    Mirrors (·.map id (·.2)) ((backend undisturbed).insert e t) (MemoryAudit.insert e t.2) :=
  .act_bind fun _ => .note_bind (.pure rfl)

theorem mirrors_commit (t : Nat × StagedEntries) :
    Mirrors id ((backend undisturbed).commit t) (MemoryAudit.commit t.2) :=
  .act_bind fun _ => .note_bind (.pure rfl)

theorem mirrors_insertAll (batch : List AuditEntry) (t : Nat × StagedEntries) (r : WriteReport) :
    Mirrors (·.map id (·.2)) ((backend undisturbed).insertAll batch t r)
      (MemoryAudit.backend.insertAll batch t.2 r) := by
  induction batch generalizing t r with
  | nil => exact .pure rfl
  | cons e rest ih =>
    refine .bind (mirrors_insert e t) ?_
    rintro ⟨error | done, t'⟩
    · exact .tell_bind (ih t' _)
    · exact ih t' _

theorem mirrors_abandon (t : Nat × StagedEntries) :
    Mirrors id ((backend undisturbed).abandon t) (MemoryAudit.backend.abandon t.2) := by
  have hrollback : Mirrors id ((backend undisturbed).rollback t) (MemoryAudit.rollback t.2) :=
    .act_bind fun _ => .note_bind (.pure rfl)
  refine .bind hrollback fun outcome => ?_
  cases outcome with
  | error e => exact fun _ _ => rfl
  | ok done => exact .pure rfl

theorem mirrors_prepare (t : Nat × StagedEntries) :
    Mirrors (·.map id (·.2)) ((backend undisturbed).prepare t) (MemoryAudit.prepare t.2) :=
  .act_bind fun _ => .pure rfl

theorem mirrors_backend_write (batch : List AuditEntry) :
    Mirrors id ((backend undisturbed).write batch) (MemoryAudit.backend.write batch) := by
  refine .bind mirrors_start fun outcome => ?_
  rcases outcome with e | t
  · exact .pure rfl
  refine .bind (mirrors_prepare t) ?_
  rintro ⟨e | done, t'⟩
  · exact .bind (mirrors_abandon t') fun _ => .pure rfl
  refine .bind (mirrors_insertAll batch t' ⟨0, 0⟩) ?_
  rintro ⟨r, t''⟩
  refine .bind (mirrors_commit t'') ?_
  rintro (e | done)
  · exact .pure rfl
  · exact .tell_bind (.pure rfl)

theorem erases_write (origin : BatchOrigin) (batch : List AuditEntry) :
    Acting.Erases store (write undisturbed origin batch)
      (BatchWriter.write (some MemoryAudit.backend) batch) :=
  fun s a => mirrors_backend_write batch s a

end TracedAudit

namespace WriterStage

variable {σ τ : Type}

/-- The same writer in the store that `f` keeps. -/
def map (f : σ → τ) (stage : WriterStage σ) : WriterStage τ :=
  ⟨stage.writer, f stage.store, stage.ambient, stage.answers⟩

theorem map_call {f : σ → τ} {write : BatchOrigin → BatchAction σ} {write' : BatchOrigin → BatchAction τ}
    (hwrite : ∀ origin batch, Acting.Erases f (write origin batch) (write' origin batch))
    (stage : WriterStage σ) (c : WriterCall) : (stage.map f).call write' c = (stage.call write c).map f := by
  cases c with
  | add e =>
    simp only [call, map]
    rw [BatchWriter.erases_add (hwrite .filled)]
    rfl
  | flush =>
    simp only [call, map]
    rw [BatchWriter.erases_flush (hwrite .flushed)]
    rfl
  | write batch =>
    simp only [call, map]
    rw [hwrite .given batch]
    rfl

theorem map_calls {f : σ → τ} {write : BatchOrigin → BatchAction σ} {write' : BatchOrigin → BatchAction τ}
    (hwrite : ∀ origin batch, Acting.Erases f (write origin batch) (write' origin batch))
    (stage : WriterStage σ) (cs : List WriterCall) :
    (stage.map f).calls write' cs = (stage.calls write cs).map f :=
  List.foldl_hom (map f) fun stage c => map_call hwrite stage c

end WriterStage

end Governance
