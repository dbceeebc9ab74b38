import Governance.Api.Answer
import Governance.Console.Audit

/-!
# The console of the scheduler

Commands to a scheduler whose tasks return a value, at once or when they are released, and the life of
a request event by event.
-/

namespace Governance.Console

/-- What a task returns, whether it waits to be released, and whether its result was taken. -/
structure HeldTask where
  value : Json
  holds : Bool
  taken : Bool

/-- A scheduler and its tasks. -/
structure SchedulerDesk where
  scheduler : Scheduler
  tasks : List HeldTask

namespace SchedulerDesk

def act (desk : SchedulerDesk) (action : SchedulerAction) : SchedulerDesk :=
  { desk with scheduler := desk.scheduler.act action }

/-- A running task that need not be released any more. -/
def ready (desk : SchedulerDesk) : Nat :=
  (desk.scheduler.tasks.zip desk.tasks).findIdx fun (phase, task) =>
    phase = .running && !task.holds

/-- Completes what can be completed and lets waiting tasks run. `fuel` is at least twice the number of
tasks. -/
def settle (desk : SchedulerDesk) : Nat → SchedulerDesk
  | 0 => desk
  | fuel + 1 =>
    let next := (desk.act (.complete desk.ready)).act (.grant desk.scheduler.firstWaiting)
    next.settle fuel

end SchedulerDesk

def schedulerFailure (e : SchedulerError) : Failure :=
  [("error", "Closed"), ("message", e.message), ("status", e.status)]

def schedulerCommand (j : Json) : Session SchedulerDesk Json := do
  let desk ← get
  let task := (nat? "task" j).getD desk.tasks.length
  match name j with
  | "spawn" =>
    if desk.scheduler.closed then throw (schedulerFailure .closed)
    let held : HeldTask := ⟨member "value" j, flag "hold" j, false⟩
    set { desk.act .spawn with tasks := desk.tasks ++ [held] }
    return obj [("task", desk.tasks.length)]
  | "release" =>
    set { desk with tasks := desk.tasks.modify task fun t => { t with holds := false } }
    return .null
  | "abort" =>
    set (desk.act (.abort task))
    return .null
  | "close" =>
    set (desk.act .close)
    return .null
  | "join" =>
    match desk.tasks[task]?, desk.scheduler.tasks[task]? with
    | some held, some phase =>
      if held.taken then failBare "NoTask"
      if phase = .waiting || phase = .running then return "pending"
      set { desk with tasks := desk.tasks.modify task fun t => { t with taken := true } }
      match phase with
      | .refused => throw (schedulerFailure .closed)
      | .aborted => failBare "Cancelled"
      | _ => return obj [("value", held.value)]
    | _, _ => failBare "NoTask"
  | _ => return .null

/-- The answers to commands, with what is seen of the scheduler after each. -/
def schedulerAnswers : List Json → Acting SchedulerDesk (List Json)
  | [] => return []
  | j :: rest => do
    let answer ← attempt (schedulerCommand j)
    modify fun desk => desk.settle (2 * desk.tasks.length + 2)
    let s := (← get).scheduler
    let seen := [("available", (s.available : Json)), ("closed", (s.closed : Json)),
      ("started", (s.started : Json))]
    return obj (answer ++ seen) :: (← schedulerAnswers rest)

def schedulerSession (j : Json) : Session Unit Json := do
  let limit := natOr "limit" Scheduler.defaultLimit j
  if limit = 0 then fail "BadLimit" "0"
  let answers ← separately ⟨.ofLimit limit, []⟩ (schedulerAnswers (items "steps" j))
  return .array (obj [("max", limit)] :: answers)

/-! ### The life of a request -/

def pipelineFailure (e : PipelineError) : Failure :=
  let kind := match e with
    | .policy _ => "Policy"
    | .collaborator _ => "Collaborator"
    | .timeout .. => "Timeout"
    | .lifecycle _ => "InvalidTransition"
  [("error", kind), ("message", e.message), ("status", e.status)]

/-- An event in the life of a request. -/
def lifeCommand (j : Json) : Session Progress Json := do
  let p ← get
  let word := match j with
    | .string s => s
    | _ => ""
  let some event := RequestEvent.ofWord? word | fail "UnknownStep" word
  match p.state.next? event with
  | some next =>
    report [transitionEvent p.id p.state next event]
    set { p with state := next }
    return next.word
  | none =>
    let e := PipelineError.lifecycle ⟨p.id, p.state, event⟩
    report e.events
    throw (pipelineFailure e)

/-- The answers to events, with what is seen of the request after each. -/
def lifeAnswers : List Json → Acting Progress (List Json)
  | [] => return []
  | j :: rest => do
    let answer ← attempt (lifeCommand j)
    let p ← get
    let seen := [("state", (p.state.word : Json)), ("terminal", (p.state.isTerminal : Json)),
      ("request_id", (p.id : Json))]
    return obj (answer ++ seen) :: (← lifeAnswers rest)

def lifeSession (j : Json) : Session Unit Json := do
  let id : RequestId ← usable .request (text "request_id" j)
  let answers ← separately ⟨id, .received⟩ (lifeAnswers (items "events" j))
  return .array answers

end Governance.Console
