import Governance.Json.Coded
import Governance.Time.Instant

/-!
# Series of samples and their latencies

A sample is a request that has ended, as the metrics see it. A series counts the samples of one kind
and keeps their latest latencies.
-/

namespace Governance

/-!
## Latencies

A window keeps the latest of the latencies that were put into it, and a summary tells their mean and
the latencies below which a given share of them lies.
-/

/-- A latency out of a list such that so many of a hundred are not greater; nought when there are
none. A product that does not fit in sixty-four bits counts as beyond the end of the list. -/
def percentile (latencies : List Duration) (percent : UInt32) : Duration :=
  let sorted := latencies.mergeSort fun a b => a.nanos ≤ b.nanos
  let last := sorted.length - 1
  let scaled := sorted.length * percent.toNat
  let index := if scaled < UInt64.size then min (scaled / 100) last else last
  sorted.getD index ⟨0⟩

/-- The latest latencies, no more of them than fit. -/
structure LatencyWindow where
  capacity : Nat
  latencies : List Duration
  deriving DecidableEq, Repr

/-- How the latencies in a window are spread. -/
structure LatencySummary where
  count : Nat
  mean : Duration
  p50 : Duration
  p95 : Duration
  p99 : Duration
  deriving DecidableEq, Repr

namespace LatencyWindow

def ofCapacity (capacity : Nat) : LatencyWindow := ⟨capacity, []⟩

/-- Adds a latency, in place of the oldest one when the window is full. -/
def push (w : LatencyWindow) (d : Duration) : LatencyWindow :=
  let all := w.latencies ++ [d]
  { w with latencies := all.drop (all.length - w.capacity) }

/-- The mean of the latencies, what is left over dropped. No more of them are counted than thirty-two bits
can count. -/
def mean (w : LatencyWindow) : Duration :=
  ⟨(w.latencies.map (·.nanos)).foldr (· + ·) 0 / min w.latencies.length (UInt32.size - 1)⟩

def summary (w : LatencyWindow) : LatencySummary where
  count := w.latencies.length
  mean := w.mean
  p50 := percentile w.latencies 50
  p95 := percentile w.latencies 95
  p99 := percentile w.latencies 99

end LatencyWindow

/-- The written form of a summary: durations are in milliseconds. -/
def LatencySummary.toJson (s : LatencySummary) : Json := .object [
  ("samples", .ofNat s.count), ("avg_ms", .ofFloat s.mean.toMillisFloat),
  ("p50_ms", .ofFloat s.p50.toMillisFloat), ("p95_ms", .ofFloat s.p95.toMillisFloat),
  ("p99_ms", .ofFloat s.p99.toMillisFloat)]

/-!
## Series of samples

A sample is a request that has ended, as the metrics see it. A series counts the samples of one kind
and keeps their latest latencies.
-/

/-- How a request ended. -/
inductive SampleOutcome where
  | success
  | failure
  | blocked
  deriving DecidableEq, Repr

def SampleOutcome.ofWord? : String → Option SampleOutcome
  | "success" => some .success
  | "failure" => some .failure
  | "blocked" => some .blocked
  | _ => none

/-- A request that has ended. -/
structure Sample where
  requestKind : String
  provider : Option String
  latency : Duration
  outcome : SampleOutcome
  tokens : UInt64
  cost : Float
  deriving BEq, Repr

/-- A sample of which no provider is known. -/
def Sample.ofRequest (requestKind : String) (latency : Duration) (outcome : SampleOutcome) :
    Sample :=
  ⟨requestKind, none, latency, outcome, 0, 0.0⟩

/-- How many samples there were and what they took. Tokens are counted in sixty-four bits. -/
structure Totals where
  count : Nat
  success : Nat
  failure : Nat
  blocked : Nat
  tokens : UInt64
  cost : Float
  deriving BEq, Repr

namespace Totals

def zero : Totals := ⟨0, 0, 0, 0, 0, 0.0⟩

def countOutcome (t : Totals) : SampleOutcome → Totals
  | .success => { t with count := t.count + 1, success := t.success + 1 }
  | .failure => { t with count := t.count + 1, failure := t.failure + 1 }
  | .blocked => { t with count := t.count + 1, blocked := t.blocked + 1 }

def add (t : Totals) (s : Sample) : Totals :=
  { t.countOutcome s.outcome with tokens := t.tokens + s.tokens, cost := t.cost + s.cost }

/-- The share of successful samples in a hundred. -/
def availability (t : Totals) : Float :=
  if t.count = 0 then 0.0 else Float.ofNat t.success / Float.ofNat t.count * 100.0

end Totals

/-- The samples of one kind. -/
structure Series where
  totals : Totals
  window : LatencyWindow
  deriving BEq, Repr

namespace Series

def ofCapacity (capacity : Nat) : Series := ⟨.zero, .ofCapacity capacity⟩

def add (series : Series) (s : Sample) : Series :=
  ⟨series.totals.add s, series.window.push s.latency⟩

def toJson (series : Series) : Json :=
  let t := series.totals
  .object [("count", .ofNat t.count), ("success", .ofNat t.success),
    ("failure", .ofNat t.failure), ("blocked", .ofNat t.blocked),
    ("tokens", .ofNat t.tokens.toNat), ("cost", .ofFloat t.cost),
    ("latency", series.window.summary.toJson), ("availability", .ofFloat t.availability)]

end Series

end Governance
