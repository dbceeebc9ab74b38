/-!
# The request scheduler

Requests are tasks, of which only so many run at once. A task that is accepted waits until it gets a
permit, runs, and gives the permit back when it is done or aborted. Once the scheduler is closed no
task is accepted and those that wait are refused; those that run are left alone.

Each thing that can happen is a `SchedulerAction`; actions that cannot happen in a state leave it
alone. Which waiting task gets a permit is open: `firstWaiting` is the one that waits longest.
-/

namespace Governance

/-- Why a task has no result. -/
inductive SchedulerError where
  | closed
  | failed (reason : String)
  deriving DecidableEq, Repr

def SchedulerError.message : SchedulerError → String
  | .closed => "scheduler closed"
  | .failed reason => "request task failed: " ++ reason

/-- What a task is doing. -/
inductive TaskPhase where
  | waiting
  | running
  | finished
  | refused
  | aborted
  deriving DecidableEq, Repr

/-- Tasks and permits. The tasks stand in the order in which they were accepted; `started` lists those
that began to run, in the order in which they did. -/
structure Scheduler where
  limit : Nat
  available : Nat
  closed : Bool
  tasks : List TaskPhase
  started : List Nat
  deriving DecidableEq, Repr

/-- What can happen to a scheduler; a task is named by its place among the tasks. -/
inductive SchedulerAction where
  | spawn
  | grant (task : Nat)
  | complete (task : Nat)
  | abort (task : Nat)
  | close
  deriving DecidableEq, Repr

namespace Scheduler

/-- The most tasks that run at once unless it is configured. -/
def defaultLimit : Nat := 256

/-- A scheduler without tasks. -/
def ofLimit (limit : Nat) : Scheduler := ⟨limit, limit, false, [], []⟩

/-- The same scheduler with a task in another phase. -/
def setPhase (s : Scheduler) (task : Nat) (phase : TaskPhase) : Scheduler :=
  { s with tasks := s.tasks.set task phase }

/-- Refuses a task that waits. -/
def refuse : TaskPhase → TaskPhase
  | .waiting => .refused
  | phase => phase

def act (s : Scheduler) : SchedulerAction → Scheduler
  | .spawn => if s.closed then s else { s with tasks := s.tasks ++ [.waiting] }
  | .grant task =>
    if s.tasks[task]? = some .waiting && 0 < s.available && !s.closed then
      { s.setPhase task .running with
        available := s.available - 1, started := s.started ++ [task] }
    else s
  | .complete task =>
    if s.tasks[task]? = some .running then
      { s.setPhase task .finished with available := s.available + 1 }
    else s
  | .abort task =>
    match s.tasks[task]? with
    | some .running => { s.setPhase task .aborted with available := s.available + 1 }
    | some .waiting => s.setPhase task .aborted
    | _ => s
  | .close => { s with closed := true, tasks := s.tasks.map refuse }

/-- Lets actions happen one after the other. -/
def actAll (s : Scheduler) (actions : List SchedulerAction) : Scheduler := actions.foldl act s

/-- The task that waits longest. -/
def firstWaiting (s : Scheduler) : Nat := s.tasks.findIdx (· = .waiting)

def runningCount (s : Scheduler) : Nat := s.tasks.count .running

end Scheduler

end Governance
