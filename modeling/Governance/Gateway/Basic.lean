import Governance.Pipeline.Basic
import Governance.Pipeline.Scheduler
import Governance.Service.Basic

/-!
# A running gateway

The store of policies, the audit line, the metrics and the scheduler of a gateway that runs, and how
they answer what governing a request asks for.

There are two clocks. The time of the timers passes only while a collaborator is waited for; the audit
worker writes whenever that is due in the meantime. The clock of the surroundings goes on by itself and
dates entries, policies and failures. The timers begin at the instant at which the gateway is started, and
they reach no further than instants do.
-/

namespace Governance

/-- A running gateway. `elapsed` is the time of the timers since it was started; `routed` and `redacted`
count how often the collaborators were asked. -/
structure Gateway (σ : Type) where
  store : MemoryStore
  line : AuditLine σ
  metrics : Collector
  started : Instant
  scheduler : Scheduler
  elapsed : Duration
  routed : Nat
  redacted : Nat

/-- A collaborator broke down, or a deadline could not be told. -/
structure Breakdown where
  deriving DecidableEq, Repr

/-- What a gateway does, unless it breaks down. -/
abbrev GatewayAction (σ α : Type) := ExceptT Breakdown (Acting (Gateway σ)) α

namespace Gateway

variable {σ τ α : Type}

/-- A gateway in which nothing has happened. -/
def make (store : MemoryStore) (line : AuditLine σ) (metrics : CollectorConfig) (limit : Nat)
    (started : Instant) : Gateway σ :=
  ⟨store, line, .ofConfig metrics, started, .ofLimit limit, ⟨0⟩, 0, 0⟩

def onStore (act : Acting MemoryStore α) : Acting (Gateway σ) α := fun g => do
  let (a, store) ← act.run g.store
  return (a, { g with store := store })

def onLine (act : Acting (AuditLine σ) α) : Acting (Gateway σ) α := fun g => do
  let (a, line) ← act.run g.line
  return (a, { g with line := line })

/-- The time since the gateway started, by the clock of the surroundings. -/
def uptime : Acting (Gateway σ) Duration := do
  let now ← StateT.lift Ambient.now
  return now.since (← get).started

def measure (m : Measurement) : Acting (Gateway σ) Unit := do
  let time ← uptime
  let g ← get
  match m with
  | .sample s =>
    StateT.lift (Ambient.emitAll (g.metrics.recordEvents s time))
    set { g with metrics := g.metrics.record s time }
  | .stage name elapsed => set { g with metrics := g.metrics.recordStage name elapsed }
  | .evaluation elapsed risk applied blocked =>
    set { g with metrics := g.metrics.recordEvaluation elapsed risk applied blocked }
  | .redaction fields =>
    set { g with metrics := g.metrics.recordRedaction (UInt64.ofNat fields) }

/-- Lets time pass up to an instant; the audit worker does what is due. -/
def passTo (b : Option (AuditBackend σ τ)) (time : Duration) : Acting (Gateway σ) Unit := do
  let g ← get
  if g.elapsed.nanos < time.nanos then
    onLine (AuditLine.pass (BatchWriter.write b) g.elapsed time)
    modify fun g => { g with elapsed := time }

/-- Waits for a collaborator until a deadline. One that is ready at the deadline itself is in time. -/
def await (b : Option (AuditBackend σ τ)) (deadline : Duration) (r : Reaction α) :
    GatewayAction σ (Option (Except CollaboratorError α)) := do
  let g : Gateway σ ← get
  let ready : Duration := ⟨g.elapsed.nanos + r.delay.nanos⟩
  if ready.nanos ≤ deadline.nanos then
    passTo b ready
    match r.result with
    | some result => return some result
    | none => throw ⟨⟩
  else
    passTo b deadline
    return none

/-- What the timers will show after some more time, if they reach that far. -/
def deadline? (g : Gateway σ) (allowed : Duration) : Option Duration :=
  let deadline : Duration := ⟨g.elapsed.nanos + allowed.nanos⟩
  (g.started.plus? deadline).map fun _ => deadline

def answer (b : Option (AuditBackend σ τ)) (c : Collaborators) :
    (call : GatewayCall) → GatewayAction σ call.Answer
  | .service call => ExceptT.lift (onStore (Service.answer call))
  | .deadline allowed => do
    match (← get).deadline? allowed with
    | some deadline => return deadline
    | none => throw ⟨⟩
  | .route r deadline => do
    modify fun g => { g with routed := g.routed + 1 }
    await b deadline (c.route r)
  | .redact r response deadline => do
    modify fun g => { g with redacted := g.redacted + 1 }
    await b deadline (c.redact r response)
  | .elapsed => return (← get).elapsed
  | .requestId => ExceptT.lift (StateT.lift (Ambient.identifier .request))
  | .auditId => ExceptT.lift (StateT.lift Ambient.auditId)
  | .offer e => ExceptT.lift (onLine (AuditLine.offer e))
  | .measure m => ExceptT.lift (measure m)

def govern (b : Option (AuditBackend σ τ)) (c : Collaborators) (pipeline : Pipeline)
    (r : Request) : GatewayAction σ (Except PipelineError PipelineOutcome) :=
  Program.run (answer b c) (pipeline.process r).run

/-- Gives the audit worker time for everything that it can do now. -/
def settle (b : Option (AuditBackend σ τ)) : Acting (Gateway σ) Unit := do
  let now := (← get).elapsed
  onLine (AuditLine.settle (BatchWriter.write b) now)

/-- Accepts no more requests and asks the audit worker to stop. -/
def shutdown (b : Option (AuditBackend σ τ)) : Acting (Gateway σ) Unit := do
  modify fun g => { g with scheduler := g.scheduler.act .close }
  onLine (AuditLine.act (BatchWriter.write b) .askToStop)

end Gateway

end Governance
