import Governance.Audit.Batch

/-!
# The audit queue and its worker

Entries are offered to a queue of bounded length without waiting: one that finds the queue full or the
worker gone is dropped and counted. A worker takes the entries in their order, writes them in batches,
and writes what it has collected at regular intervals. When it notices that it is asked to stop, it
closes the queue, takes what is left of it, writes everything and stops. It does the same when the last
handle to the queue is gone and the queue is empty.

`AuditLine` is the queue, its worker and the place where the entries end up; how a batch is written is
left open. Each thing that can happen to it is a `LineAction`; actions that cannot happen in a state
leave it alone, so that every list of actions is a possible course of events. When several can happen,
which one does is open.
-/

namespace Governance

/-- What became of an entry that was offered. -/
inductive OfferOutcome where
  | enqueued
  | dropped
  | closed
  deriving DecidableEq, Repr

def OfferOutcome.name : OfferOutcome → String
  | .enqueued => "Enqueued"
  | .dropped => "Dropped"
  | .closed => "Closed"

/-- Entries that wait for the worker, and how many were accepted and dropped so far. -/
structure AuditQueue where
  capacity : Nat
  waiting : List AuditEntry
  closed : Bool
  enqueued : Nat
  dropped : Nat
  deriving Repr

namespace AuditQueue

/-- A queue that nothing was offered to. -/
def ofCapacity (capacity : Nat) : AuditQueue := ⟨capacity, [], false, 0, 0⟩

/-- What becomes of an entry that is offered now. -/
def outcome (q : AuditQueue) : OfferOutcome :=
  if q.closed then .closed else if q.waiting.length < q.capacity then .enqueued else .dropped

def offer (q : AuditQueue) (e : AuditEntry) : AuditQueue :=
  match q.outcome with
  | .enqueued => { q with waiting := q.waiting ++ [e], enqueued := q.enqueued + 1 }
  | _ => { q with dropped := q.dropped + 1 }

/-- What offering an entry reports. -/
def offerEvents (q : AuditQueue) (e : AuditEntry) : List Event :=
  let named := [("request_id", Json.string e.request.text)]
  match q.outcome with
  | .enqueued => []
  | .dropped => [⟨.debug, "audit queue full, dropping entry", named⟩]
  | .closed => [⟨.warn, "audit worker stopped, dropping entry", named⟩]

end AuditQueue

/-- How queue and worker are set up. -/
structure AuditConfig where
  capacity : Nat
  batchSize : Nat
  flushInterval : Duration
  deriving DecidableEq, Repr

namespace AuditConfig

def standard : AuditConfig := ⟨10000, BatchWriter.defaultSize, .ofSeconds 5⟩

/-- A set-up, in which nothing may be nought. -/
def make (capacity batchSize : Nat) (flushInterval : Duration) : Except AuditError AuditConfig :=
  if capacity = 0 then .error (.invalidConfig "audit queue capacity must be positive")
  else if batchSize = 0 then .error (.invalidConfig "audit batch size must be positive")
  else if flushInterval.nanos = 0 then
    .error (.invalidConfig "audit flush interval must be positive")
  else .ok ⟨capacity, batchSize, flushInterval⟩

end AuditConfig

/-- What the worker is doing. -/
inductive WorkerPhase where
  | unstarted
  | running
  | draining
  | stopped
  deriving DecidableEq, Repr

/-- A queue, its worker, and what the backend holds. `askedToStop` is a request that the worker has not
noticed yet, `held` tells whether there is a handle to the queue, and `due` is when the worker writes
next. -/
structure AuditLine (σ : Type) where
  queue : AuditQueue
  writer : BatchWriter
  phase : WorkerPhase
  askedToStop : Bool
  held : Bool
  interval : Duration
  due : Duration
  store : σ
  deriving Repr

/-- What can happen to a queue and its worker. -/
inductive LineAction where
  | offer (e : AuditEntry)
  | start (now : Duration)
  | receive
  | tick (now : Duration)
  | askToStop
  | notice
  | drain
  | finish
  | dropHandles
  | runDry
  | discardWorker
  deriving Repr

namespace AuditLine

variable {σ τ : Type}

def ofConfig (c : AuditConfig) (store : σ) : AuditLine σ :=
  ⟨.ofCapacity c.capacity, .ofSize c.batchSize, .unstarted, false, true, c.flushInterval, ⟨0⟩,
    store⟩

/-- Does something with what the backend holds. -/
def onStore {α : Type} (act : Acting σ α) : Acting (AuditLine σ) α := fun line => do
  let (a, store) ← act.run line.store
  return (a, { line with store := store })

def offer (e : AuditEntry) : Acting (AuditLine σ) OfferOutcome := do
  let line ← get
  StateT.lift (Ambient.emitAll (line.queue.offerEvents e))
  set { line with queue := line.queue.offer e }
  return line.queue.outcome

/-- The worker takes an entry that has left the queue. -/
def collect (write : BatchAction σ) (e : AuditEntry) : Acting (AuditLine σ) Unit := do
  let writer ← onStore ((← get).writer.add write e)
  modify fun line => { line with writer := writer }

def takeFirst (write : BatchAction σ) : Acting (AuditLine σ) Unit := do
  let line ← get
  match line.queue.waiting with
  | [] => pure ()
  | e :: rest =>
    set { line with queue := { line.queue with waiting := rest } }
    collect write e

/-- The worker writes what it has collected; a failure is reported and no more. -/
def flush (write : BatchAction σ) (trigger : String) : Acting (AuditLine σ) Unit := do
  let (outcome, writer) ← onStore ((← get).writer.flush write)
  modify fun line => { line with writer := writer }
  match outcome with
  | .ok _ => pure ()
  | .error e =>
    tell .error "failed to flush audit batch"
      [("trigger", .string trigger), ("error", .string e.message)]

/-- The worker writes what it has and is gone. -/
def stop (write : BatchAction σ) : Acting (AuditLine σ) Unit := do
  flush write "final"
  modify fun line => { line with phase := .stopped, queue := { line.queue with closed := true } }
  tell .info "audit worker stopped" []

/-- How late a regular write may be and still not delay the one after it. -/
def tolerance : Duration := .ofMillis 5

/-- When the worker writes after a write that was due at some time and happens now. -/
def nextDue (due now interval : Duration) : Duration :=
  if due.nanos + tolerance.nanos < now.nanos then ⟨now.nanos + interval.nanos⟩
  else ⟨due.nanos + interval.nanos⟩

/-- Lets an action happen. -/
def act (write : BatchAction σ) (action : LineAction) : Acting (AuditLine σ) Unit := do
  let line ← get
  match action, line.phase with
  | .offer e, _ => if line.held then let _ ← offer e
  | .start now, .unstarted =>
    set { line with phase := .running, due := ⟨now.nanos + line.interval.nanos⟩ }
    tell .info "audit worker started" [("batch_size", .ofNat line.writer.size)]
  | .receive, .running => takeFirst write
  | .tick now, .running =>
    if line.due.nanos ≤ now.nanos then
      set { line with due := nextDue line.due now line.interval }
      flush write "periodic"
  | .askToStop, _ => set { line with askedToStop := true }
  | .notice, .running =>
    if line.askedToStop then
      set { line with
        askedToStop := false, phase := .draining, queue := { line.queue with closed := true } }
  | .drain, .draining => takeFirst write
  | .finish, .draining => if line.queue.waiting.isEmpty then stop write
  | .dropHandles, _ => set { line with held := false }
  | .runDry, .running => if line.queue.waiting.isEmpty && !line.held then stop write
  | .discardWorker, .unstarted =>
    set { line with phase := .stopped, queue := { line.queue with closed := true } }
  | _, _ => pure ()

def actAll (write : BatchAction σ) : List LineAction → Acting (AuditLine σ) Unit
  | [] => pure ()
  | action :: rest => do
    act write action
    actAll write rest

/-- What a worker does that has time enough: it empties the queue, writes if that is due, and stops if
it should. -/
def settlement (now : Duration) (line : AuditLine σ) : List LineAction :=
  line.queue.waiting.map (fun _ => .receive) ++ [.tick now, .notice, .finish, .runDry]

/-- Gives the worker time for everything that it can do now. -/
def settle (write : BatchAction σ) (now : Duration) : Acting (AuditLine σ) Unit := do
  actAll write (settlement now (← get))

/-- Lets time pass up to an instant; the worker writes whenever that is due. `fuel` is at least the
number of times that it is. -/
def passTo (write : BatchAction σ) (time : Duration) :
    Nat → Acting (AuditLine σ) Unit
  | 0 => settle write time
  | fuel + 1 => do
    let line ← get
    if line.phase = .running && line.due.nanos ≤ time.nanos then
      settle write line.due
      passTo write time fuel
    else settle write time

/-- Lets time pass from an instant to a later one. -/
def pass (write : BatchAction σ) (now time : Duration) : Acting (AuditLine σ) Unit := do
  passTo write time ((time.nanos - now.nanos) / (← get).interval.nanos + 1)

/-- How long a backend may take to tell that it can be reached. -/
def pingLimit : Duration := .ofSeconds 1

/-- How long it takes to tell whether entries can be written. -/
def healthTime (b : Option (AuditBackend σ τ)) (line : AuditLine σ) : Duration :=
  match b with
  | some b => if (b.pingTime line.store).nanos ≤ pingLimit.nanos then b.pingTime line.store
      else pingLimit
  | none => ⟨0⟩

/-- Whether entries can be written: the backend answers in time, or there is none. -/
def isHealthy (b : Option (AuditBackend σ τ)) : Acting (AuditLine σ) Bool := do
  match b with
  | none => return true
  | some b =>
    if pingLimit.nanos < (b.pingTime (← get).store).nanos then
      tell .warn "audit store ping timed out" []
      return false
    match ← onStore b.ping with
    | .ok () => return true
    | .error e =>
      tell .warn "audit store ping failed" [("error", .string e.message)]
      return false

def search (b : Option (AuditBackend σ τ)) (criteria : Criteria) :
    Acting (AuditLine σ) (Except AuditError (List AuditEntry)) :=
  match b with
  | some b => onStore (b.search criteria)
  | none => return .ok []

end AuditLine

end Governance
