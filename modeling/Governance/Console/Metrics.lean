import Governance.Console.Basic
import Governance.Health
import Governance.Metrics.Collector

/-!
# The console of the metrics

Commands to a collector, and questions about percentiles, classes of risk and health.
-/

namespace Governance.Console

/-- A score of a command, which is no number when it is null. -/
def scoreOf {σ : Type} (j : Json) : Session σ Float :=
  match j with
  | .null => return 0.0 / 0.0
  | j => decoded j

def microsOf (key : String) (j : Json) : Duration := .ofMicros (natOr key 0 j)

def sampleOfCommand (j : Json) : Session Collector Sample := do
  let word := text "outcome" j
  let some outcome := SampleOutcome.ofWord? word | fail "UnknownKind" word
  return { Sample.ofRequest (text "type" j) (microsOf "latency_us" j) outcome with
    provider := text? "provider" j
    tokens := ← fieldOr "tokens" 0 j
    cost := ← fieldOr "cost" 0.0 j }

/-- Takes note of a sample a number of times. -/
def recordTimes (s : Sample) (time : Duration) : Nat → Session Collector Unit
  | 0 => return ()
  | times + 1 => do
    let c ← get
    report (c.recordEvents s time)
    set (c.record s time)
    recordTimes s time times

def collectorCommand (j : Json) : Session Collector Json := do
  let c ← get
  let time := Duration.ofMillis (natOr "at_ms" 0 j)
  match name j with
  | "record" =>
    recordTimes (← sampleOfCommand j) time (natOr "times" 1 j)
    return (← get).healthy
  | "policy" =>
    let risk ← scoreOf (member "risk" j)
    let applied : List String ← fieldOr "applied" [] j
    set (c.recordEvaluation (microsOf "elapsed_us" j) risk applied (flag "blocked" j))
    return .null
  | "redaction" =>
    set (c.recordRedaction (UInt64.ofNat (natOr "fields" 0 j)))
    return .null
  | "stage" =>
    set (c.recordStage (text "stage" j) (microsOf "elapsed_us" j))
    return .null
  | "snapshot" => return c.snapshot time
  | other => fail "UnknownStep" other

def collectorSession (j : Json) : Session Unit Json := do
  let usual := CollectorConfig.standard
  let c := member "config" j
  let window := natOr "window" usual.window c
  if window = 0 then failBare "BadWindow"
  let threshold ← fieldOr "failure_threshold" usual.failureThreshold c
  let errorWindow := match nat? "error_window_ms" c with
    | some n => Duration.ofMillis n
    | none => usual.errorWindow
  let answers ← inSession (Collector.ofConfig ⟨window, threshold, errorWindow⟩)
    (runAll collectorCommand (items "steps" j))
  return .array answers

def percentileAnswer (j : Json) : Session Unit Json := do
  let micros : List Nat ← field "micros" j
  let percents : List UInt32 ← field "pct" j
  let latencies := micros.map Duration.ofMicros
  return .array (percents.map fun percent => ((percentile latencies percent).nanos / 1000 : Nat))

def riskAnswer (j : Json) : Session Unit Json := do
  let scores ← (items "scores" j).mapM scoreOf
  return .array (scores.map fun score => (RiskClass.ofScore score).word)

def healthAnswer (j : Json) : Session Unit Json :=
  let r : HealthReport :=
    ⟨(items "checks" j).map fun check => ⟨text "name" check, text? "message" check⟩⟩
  return obj [("healthy", r.healthy), ("report", r.toJson)]

end Governance.Console
