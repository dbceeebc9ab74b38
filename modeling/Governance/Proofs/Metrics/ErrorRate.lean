import Governance.Proofs.Decimal.Operations
import Governance.Proofs.Metrics.Collector

/-!
# The rate of failures

The collector keeps the times of failures in the order in which they were recorded, which need not be
their order in time. Whenever something is recorded, the failures at the beginning are forgotten that are
too old at that time; one that is not too old protects those behind it, however old they are. A snapshot
looks at each failure again. So it is enough that a failure is never forgotten while it can still be seen:
a time that has been recorded is not later than the time of the snapshot, and what is too old at the
former is too old at the latter.

Only the time between a failure and the snapshot matters, so times may be counted from any instant before
all of them.
-/

namespace Governance

namespace CollectorCall

def time? : CollectorCall → Option Duration
  | record _ time => some time
  | _ => none

def failure? : CollectorCall → Option Duration
  | record s time => if s.outcome = .failure then some time else none
  | _ => none

end CollectorCall

namespace Collector

variable {config : CollectorConfig} {time now : Duration}

theorem isRecent_of_le (hle : time.nanos ≤ now.nanos) {failure : Duration}
    (hrecent : isRecent config now failure = true) : isRecent config time failure = true := by
  rw [isRecent, decide_eq_true_eq] at *
  omega

/-- What is forgotten would not be seen any more. -/
theorem filter_forget (hle : time.nanos ≤ now.nanos) (failures : List Duration) :
    (forget config time failures).filter (isRecent config now) = failures.filter (isRecent config now) := by
  rw [forget]
  induction failures with
  | nil => rfl
  | cons failure rest ih =>
    cases hkept : isRecent config time failure with
    | true => rw [List.dropWhile_cons_of_neg (by simp [hkept])]
    | false =>
      have hold : ¬ isRecent config now failure = true := fun hrecent => by
        rw [isRecent_of_le hle hrecent] at hkept
        cases hkept
      rw [List.dropWhile_cons_of_pos (by simp [hkept]), ih, List.filter_cons_of_neg hold]

theorem record_failures (c : Collector) (s : Sample) (time : Duration) :
    (c.record s time).failures =
      forget c.config time (c.failures ++ if s.outcome = .failure then [time] else []) := by
  unfold Collector.record judge tally
  cases s.outcome <;> simp

theorem config_answer (c : Collector) (call : CollectorCall) : (call.answer c).1.config = c.config := by
  cases call with
  | record s time => exact record_config c s time
  | _ => rfl

/-- Of the failures that can be seen at some time, a call adds its own and takes none away, as long as it
is not later than that. -/
theorem recent_answer (c : Collector) {call : CollectorCall}
    (hle : ∀ time ∈ call.time?, time.nanos ≤ now.nanos) :
    (call.answer c).1.failures.filter (isRecent c.config now) =
      (c.failures ++ call.failure?.toList).filter (isRecent c.config now) := by
  cases call with
  | record s time =>
    have hfailure : (CollectorCall.record s time).failure?.toList =
        if s.outcome = .failure then [time] else [] := by
      rw [CollectorCall.failure?]
      split <;> rfl
    rw [CollectorCall.answer, record_failures, filter_forget (hle time rfl), hfailure]
  | _ => exact congrArg (List.filter _) (List.append_nil c.failures).symm

theorem recent_after (config : CollectorConfig) {calls : List CollectorCall}
    (hlatest : ∀ time ∈ calls.filterMap CollectorCall.time?, time.nanos ≤ now.nanos) :
    ((ofConfig config).after calls).config = config ∧
      ((ofConfig config).after calls).failures.filter (isRecent config now) =
        (calls.filterMap CollectorCall.failure?).filter (isRecent config now) := by
  induction calls using List.reverseRecOn with
  | nil => exact ⟨rfl, rfl⟩
  | append_singleton calls call ih =>
    rw [List.filterMap_append, List.forall_mem_append] at hlatest
    obtain ⟨hconfig, hrecent⟩ := ih hlatest.1
    have hlast : (ofConfig config).after (calls ++ [call]) =
        (call.answer ((ofConfig config).after calls)).1 := by
      rw [after, List.foldl_append]
      rfl
    have hnew : ∀ time ∈ call.time?, time.nanos ≤ now.nanos := by
      intro time htime
      exact hlatest.2 time (List.mem_filterMap.2 ⟨call, List.mem_singleton_self call, htime⟩)
    have hfailure : [call].filterMap CollectorCall.failure? = call.failure?.toList := by
      cases hcall : call.failure? <;> simp [hcall]
    rw [hlast, config_answer, List.filterMap_append, List.filter_append, ← hrecent, hfailure,
      ← List.filter_append]
    refine ⟨hconfig, ?_⟩
    have hanswer := recent_answer ((ofConfig config).after calls) hnew
    rwa [hconfig] at hanswer

/-- However late or early failures are recorded, a snapshot that is not earlier than any recorded sample
counts exactly those that lie within the window before it, and its rate is their number by the seconds of
the window. -/
theorem trailing_failures_counted (config : CollectorConfig) (hwindow : 0 < config.errorWindow.nanos)
    (calls : List CollectorCall) (now : Duration)
    (hlatest : ∀ time ∈ calls.filterMap CollectorCall.time?, time.nanos ≤ now.nanos) :
    let c := (ofConfig config).after calls
    let trailing := (calls.filterMap CollectorCall.failure?).countP fun failure =>
      now.nanos - failure.nanos ≤ config.errorWindow.nanos
    c.recentFailures now = trailing ∧
      c.errorRate now = Float.ofNat trailing / config.errorWindow.toSecondsFloat ∧
      (c.snapshot now).member? "error_rate" =
        some (.ofFloat (Float.ofNat trailing / config.errorWindow.toSecondsFloat)) := by
  intro c trailing
  obtain ⟨hconfig, hrecent⟩ := recent_after config hlatest
  have hcount : c.recentFailures now = trailing := by
    rw [recentFailures, hconfig, hrecent, ← List.countP_eq_length_filter]
    rfl
  have hrate : c.errorRate now = Float.ofNat trailing / config.errorWindow.toSecondsFloat := by
    rw [errorRate, hconfig, hcount]
    exact if_pos (Duration.zero_lt_toSecondsFloat hwindow)
  refine ⟨hcount, hrate, ?_⟩
  rw [← hrate]
  rfl

/-- A failure, one that is recorded late, and a success after which only the late one is too old. It
stands behind the other one and is not forgotten. -/
def lateCalls : List CollectorCall :=
  [.record ⟨"chat", none, ⟨1⟩, .failure, 0, 0.0⟩ (.ofSeconds 50),
    .record ⟨"chat", none, ⟨1⟩, .failure, 0, 0.0⟩ (.ofSeconds 10),
    .record ⟨"chat", none, ⟨1⟩, .success, 0, 0.0⟩ (.ofSeconds 100)]

theorem lateCalls_counted :
    0 < strictConfig.errorWindow.nanos ∧
      (∀ time ∈ lateCalls.filterMap CollectorCall.time?, time.nanos ≤ (Duration.ofSeconds 100).nanos) ∧
      ((ofConfig strictConfig).after lateCalls).failures = [.ofSeconds 50, .ofSeconds 10] ∧
      ((ofConfig strictConfig).after lateCalls).recentFailures (.ofSeconds 100) = 1 ∧
      ((ofConfig strictConfig).after lateCalls).errorRate (.ofSeconds 100) =
        Float.ofNat 1 / strictConfig.errorWindow.toSecondsFloat := by
  have hwindow : 0 < strictConfig.errorWindow.nanos := by decide
  have hlatest : ∀ time ∈ lateCalls.filterMap CollectorCall.time?,
      time.nanos ≤ (Duration.ofSeconds 100).nanos := by decide
  obtain ⟨hcount, hrate, -⟩ :=
    trailing_failures_counted strictConfig hwindow lateCalls (.ofSeconds 100) hlatest
  exact ⟨hwindow, hlatest, by decide +kernel, hcount, hrate⟩

end Collector

end Governance
