import Governance.Ambient
import Governance.Metrics.Series
import Governance.Store.Keyed

/-!
# The metrics of the gateway

The collector is told of every request that has ended, of every evaluation of policies and of the
stages of a request. It counts them, keeps the latest latencies, and tells whether the gateway is
healthy, which it is until too many requests in a row have failed. Blocked requests neither extend nor
end such a run.

Time is what has passed since the collector was made. The failures are forgotten once they are older
than the window over which their rate is taken.
-/

namespace Governance

/-- How a risk score is classed. -/
inductive RiskClass where
  | veryLow
  | low
  | medium
  | high
  | veryHigh
  deriving DecidableEq, Repr

def RiskClass.word : RiskClass → String
  | .veryLow => "very_low"
  | .low => "low"
  | .medium => "medium"
  | .high => "high"
  | .veryHigh => "very_high"

/-- The class of a score; what is no number is in the highest one. -/
def RiskClass.ofScore (score : Float) : RiskClass :=
  if score < 0.2 then .veryLow
  else if score < 0.4 then .low
  else if score < 0.6 then .medium
  else if score < 0.8 then .high
  else .veryHigh

/-- How metrics are collected: how many latencies are kept, how many failures in a row mean that the
gateway is not healthy, and over what time the rate of failures is taken. -/
structure CollectorConfig where
  window : Nat
  failureThreshold : UInt32
  errorWindow : Duration
  deriving DecidableEq, Repr

def CollectorConfig.standard : CollectorConfig := ⟨1000, 5, .ofSeconds 60⟩

/-- Adds one to the number under a key. -/
def Keyed.increment {κ : Type} [DecidableEq κ] (key : κ) (counts : Keyed κ Nat) : Keyed κ Nat :=
  counts.put key ((counts.get? key).getD 0 + 1)

/-- What is counted of the policies. -/
structure PolicyCounts where
  evaluations : Nat
  blocked : Nat
  redactions : UInt64
  hits : Keyed String Nat
  risks : Keyed RiskClass Nat
  spent : Duration
  deriving Repr

namespace PolicyCounts

def zero : PolicyCounts := ⟨0, 0, 0, .empty, .empty, ⟨0⟩⟩

def evaluated (c : PolicyCounts) (elapsed : Duration) (risk : Float) (applied : List String)
    (blocked : Bool) : PolicyCounts :=
  { c with
    evaluations := c.evaluations + 1
    blocked := if blocked then c.blocked + 1 else c.blocked
    hits := applied.foldl (fun counts name => counts.increment name) c.hits
    risks := c.risks.increment (.ofScore risk)
    spent := ⟨c.spent.nanos + elapsed.nanos⟩ }

/-- The mean time of an evaluation in milliseconds. -/
def meanMillis (c : PolicyCounts) : Float :=
  if c.evaluations = 0 then 0.0 else c.spent.toMillisFloat / Float.ofNat c.evaluations

end PolicyCounts

structure Collector where
  config : CollectorConfig
  kinds : Keyed String Series
  providers : Keyed String Series
  stages : Keyed String LatencyWindow
  policies : PolicyCounts
  failures : List Duration
  run : UInt32
  healthy : Bool
  total : Nat
  deriving Repr

namespace Collector

/-- A collector that has not been told of anything. -/
def ofConfig (config : CollectorConfig) : Collector :=
  ⟨config, .empty, .empty, .empty, .zero, [], 0, true, 0⟩

/-- Adds a sample to the series under a key. -/
def addTo (capacity : Nat) (key : String) (s : Sample) (all : Keyed String Series) :
    Keyed String Series :=
  all.put key (((all.get? key).getD (.ofCapacity capacity)).add s)

/-- One failure more in a row, as far as thirty-two bits go. -/
def longer (run : UInt32) : UInt32 := if run.toNat + 1 < UInt32.size then run + 1 else run

/-- Whether a failure that happened at a time is seen at another time. -/
def isRecent (config : CollectorConfig) (now failure : Duration) : Bool :=
  now.nanos - failure.nanos ≤ config.errorWindow.nanos

/-- Forgets the failures at the beginning that are too old. -/
def forget (config : CollectorConfig) (now : Duration) (failures : List Duration) :
    List Duration :=
  failures.dropWhile fun failure => !isRecent config now failure

/-- Counts a sample in its series. -/
def tally (c : Collector) (s : Sample) : Collector :=
  { c with
    total := c.total + 1
    kinds := addTo c.config.window s.requestKind s c.kinds
    providers := match s.outcome, s.provider with
      | .success, some provider | .failure, some provider =>
        addTo c.config.window provider s c.providers
      | _, _ => c.providers }

/-- Draws the consequences of an outcome for health. -/
def judge (c : Collector) (time : Duration) : SampleOutcome → Collector
  | .success => { c with run := 0, healthy := true }
  | .failure =>
    { c with
      run := longer c.run
      failures := c.failures ++ [time]
      healthy := c.healthy && longer c.run < c.config.failureThreshold }
  | .blocked => c

/-- Takes note of a request that has ended at some time. -/
def record (c : Collector) (s : Sample) (time : Duration) : Collector :=
  let c := (c.tally s).judge time s.outcome
  { c with failures := forget c.config time c.failures }

/-- What taking note of a sample reports: that the gateway has ceased to be healthy. -/
def recordEvents (c : Collector) (s : Sample) (time : Duration) : List Event :=
  let next := c.record s time
  if c.healthy && !next.healthy then
    [⟨.warn, "request failures crossed the health threshold",
      [("consecutive_failures", .ofNat next.run.toNat)]⟩]
  else []

def recordEvaluation (c : Collector) (elapsed : Duration) (risk : Float) (applied : List String)
    (blocked : Bool) : Collector :=
  { c with policies := c.policies.evaluated elapsed risk applied blocked }

def recordRedaction (c : Collector) (fields : UInt64) : Collector :=
  { c with policies := { c.policies with redactions := c.policies.redactions + fields } }

def recordStage (c : Collector) (stage : String) (elapsed : Duration) : Collector :=
  let window := (c.stages.get? stage).getD (.ofCapacity c.config.window)
  { c with stages := c.stages.put stage (window.push elapsed) }

/-- The failures that are seen at a time. -/
def recentFailures (c : Collector) (now : Duration) : Nat :=
  (c.failures.filter (isRecent c.config now)).length

/-- The failures per second at a time. -/
def errorRate (c : Collector) (now : Duration) : Float :=
  let seconds := c.config.errorWindow.toSecondsFloat
  if 0.0 < seconds then Float.ofNat (c.recentFailures now) / seconds else 0.0

/-- The written form of what is kept under keys. -/
def keyedJson {κ α : Type} (key : κ → String) (value : α → Json) (all : Keyed κ α) : Json :=
  .object (all.entries.map fun (k, a) => (key k, value a))

def policiesJson (c : PolicyCounts) : Json := .object [
  ("evaluations", .ofNat c.evaluations), ("blocked_by_policy", .ofNat c.blocked),
  ("redactions", .ofNat c.redactions.toNat), ("policy_hits", keyedJson id .ofNat c.hits),
  ("risk_distribution", keyedJson RiskClass.word .ofNat c.risks),
  ("avg_evaluation_ms", .ofFloat c.meanMillis)]

/-- What the metrics are at a time. -/
def snapshot (c : Collector) (now : Duration) : Json := .object [
  ("request_types", keyedJson id Series.toJson c.kinds),
  ("providers", keyedJson id Series.toJson c.providers),
  ("stages", keyedJson id (·.summary.toJson) c.stages),
  ("policy", policiesJson c.policies), ("healthy", .bool c.healthy),
  ("consecutive_failures", .ofNat c.run.toNat), ("error_rate", .ofFloat (c.errorRate now)),
  ("total_requests", .ofNat c.total), ("uptime_secs", .ofNat (now.nanos / 1000000000))]

end Collector

end Governance
