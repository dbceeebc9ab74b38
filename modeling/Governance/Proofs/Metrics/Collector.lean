import Mathlib.Algebra.Ring.Nat
import Mathlib.Data.List.DropRight
import Governance.Metrics.Collector
import Governance.Proofs.Store.Keyed

/-!
# What the metrics say of the samples

The samples that the collector was told of say everything that it counts. They are parted by the key of
the series to which they belong, and every series covers its part: the kinds of request part all of the
samples, the providers only those that name one and were not blocked. Of a series it is enough to know
what one more sample does, and of the collector what one more call does.
-/

namespace Governance

/-! ## Latencies and totals -/

theorem LatencyWindow.latencies_push {w : LatencyWindow} {latencies : List Duration} (d : Duration)
    (hw : w.latencies = latencies.rtake w.capacity) :
    (w.push d).latencies = (latencies ++ [d]).rtake w.capacity := by
  simp only [push, hw, List.rtake]
  rw [← List.drop_append_of_le_length (Nat.sub_le ..), List.drop_drop]
  -- both are what is left of one list; only how much is left out has to be compared
  congr 1
  simp only [List.length_drop, List.length_append, List.length_singleton]
  omega

namespace Totals

variable (t : Totals) (s : Sample)

theorem count_add : (t.add s).count = t.count + 1 := by
  simp only [add]
  cases s.outcome <;> rfl

/-- How many samples ended in some way. -/
def ended (t : Totals) : SampleOutcome → Nat
  | .success => t.success
  | .failure => t.failure
  | .blocked => t.blocked

theorem ended_add (o : SampleOutcome) :
    (t.add s).ended o = t.ended o + if s.outcome = o then 1 else 0 := by
  simp only [add]
  cases s.outcome <;> cases o <;> rfl

end Totals

/-! ## Series -/

namespace Series

/-- What a series is that was told of some samples. -/
structure Covers (window : Nat) (samples : List Sample) (series : Series) : Prop where
  length : series.totals.count = samples.length
  ended : ∀ o, series.totals.ended o = samples.countP (·.outcome = o)
  count : series.totals.count =
    series.totals.success + series.totals.failure + series.totals.blocked
  tokens : series.totals.tokens.toNat = (samples.map (·.tokens.toNat)).sum % 2 ^ 64
  cost : series.totals.cost = (samples.map (·.cost)).foldl (· + ·) 0.0
  capacity : series.window.capacity = window
  latencies : series.window.latencies =
    (samples.map (·.latency)).rtake (min series.totals.count window)

variable {window : Nat} {samples : List Sample} {series : Series} {key : String}

theorem covers_nil (window : Nat) : (ofCapacity window).Covers window [] where
  length := rfl
  ended := fun o => by cases o <;> rfl
  count := rfl
  tokens := rfl
  cost := rfl
  capacity := rfl
  latencies := (List.rtake_nil _).symm

theorem Covers.latencies_eq (hcovers : series.Covers window samples) :
    series.window.latencies = (samples.map (·.latency)).rtake window := by
  rw [hcovers.latencies, hcovers.length]
  simp only [List.rtake, List.length_map]
  congr 1
  omega

theorem Covers.add (hcovers : series.Covers window samples) (s : Sample) :
    (series.add s).Covers window (samples ++ [s]) where
  length := by
    simp only [Series.add, Totals.count_add, hcovers.length, List.length_append,
      List.length_singleton]
  ended := by
    intro o
    simp only [Series.add, Totals.ended_add, hcovers.ended, List.countP_append,
      List.countP_singleton, decide_eq_true_eq]
  count := by
    have hcount := hcovers.count
    simp only [Series.add, Totals.add]
    cases s.outcome <;> simp only [Totals.countOutcome] <;> omega
  tokens := by
    have hadd : (series.add s).totals.tokens.toNat =
        (series.totals.tokens.toNat + s.tokens.toNat) % 2 ^ 64 := by
      simp only [Series.add, Totals.add, UInt64.toNat_add]
    rw [hadd, hcovers.tokens, List.map_append, List.sum_append, Nat.mod_add_mod]
    rfl
  cost := by
    simp only [Series.add, Totals.add, hcovers.cost, List.map_append, List.foldl_append]
    rfl
  capacity := hcovers.capacity
  latencies := by
    have hpush := LatencyWindow.latencies_push s.latency
      (hcovers.latencies_eq.trans (by rw [hcovers.capacity]))
    simp only [Series.add, Totals.count_add, hcovers.length, hpush, hcovers.capacity, List.rtake,
      List.map_append, List.map_cons, List.map_nil, List.length_append, List.length_map,
      List.length_singleton]
    congr 1
    omega

/-- What is kept under a key: nothing before the first sample, and then the series of the samples. -/
def Keeps (window : Nat) (samples : List Sample) : Option Series → Prop
  | none => samples = []
  | some series => samples ≠ [] ∧ series.Covers window samples

theorem Keeps.add {kept : Option Series} (hkeeps : Keeps window samples kept) (s : Sample) :
    Keeps window (samples ++ [s]) (some ((kept.getD (ofCapacity window)).add s)) := by
  refine ⟨by simp, Covers.add ?_ s⟩
  cases kept with
  | none =>
    rw [show samples = [] from hkeeps]
    exact covers_nil window
  | some series => exact hkeeps.2

/-- Under every key there is the series of the samples with that key. -/
def Parted (window : Nat) (keyOf : Sample → Option String) (samples : List Sample)
    (all : Keyed String Series) : Prop :=
  ∀ key, Keeps window (samples.filter fun s => keyOf s = some key) (all.get? key)

variable {keyOf : Sample → Option String} {all : Keyed String Series} {s : Sample}

theorem Parted.addTo (hparted : Parted window keyOf samples all) (hkey : keyOf s = some key) :
    Parted window keyOf (samples ++ [s]) (Collector.addTo window key s all) := by
  intro other
  rw [Collector.addTo, Keyed.get?_put, List.filter_append]
  by_cases hsame : key = other
  · subst hsame
    simp only [if_true, List.filter_singleton, hkey, decide_true, cond_true]
    exact (hparted key).add s
  · have hother : keyOf s ≠ some other := fun h => hsame (Option.some.inj (hkey.symm.trans h))
    simp only [if_neg hsame, List.filter_singleton, hother, decide_false, cond_false,
      List.append_nil]
    exact hparted other

theorem Parted.of_none (hparted : Parted window keyOf samples all) (hkey : keyOf s = none) :
    Parted window keyOf (samples ++ [s]) all := by
  intro key
  rw [List.filter_append, List.filter_singleton, hkey]
  simpa using hparted key

/-- A sample that is added to its series is counted once. -/
theorem sum_count_addTo (window : Nat) (key : String) (s : Sample) (all : Keyed String Series) :
    ((Collector.addTo window key s all).values.map (·.totals.count)).sum =
      (all.values.map (·.totals.count)).sum + 1 := by
  have hadd (series : Series) : (series.add s).totals.count = series.totals.count + 1 :=
    series.totals.count_add s
  rw [Collector.addTo]
  cases hget : all.get? key with
  | none =>
    rw [Keyed.values_put_of_none hget, List.map_append, List.sum_append, Option.getD_none]
    simp only [List.map_cons, List.map_nil, List.sum_singleton, hadd]
    rfl
  | some series =>
    rw [Option.getD_some]
    obtain ⟨before, after, hbefore, hafter⟩ := Keyed.values_put_of_some (v := series.add s) hget
    rw [hafter, hbefore]
    simp only [List.map_append, List.map_cons, List.sum_append, List.sum_cons, hadd]
    omega

end Series

/-- The provider that a sample counts for; none has served a request that was blocked. -/
def Sample.servedBy (s : Sample) : Option String :=
  if s.outcome = .blocked then none else s.provider

/-! ## Failures in a row -/

/-- The failures after the last success; blocked samples are passed over. -/
def failuresInARow (samples : List Sample) : Nat :=
  (samples.rtakeWhile (·.outcome ≠ .success)).countP (·.outcome = .failure)

section Row

variable {samples : List Sample} {s : Sample}

theorem failuresInARow_concat_success (h : s.outcome = .success) :
    failuresInARow (samples ++ [s]) = 0 := by
  rw [failuresInARow, List.rtakeWhile_concat_neg _ _ _ (by simp [h])]
  rfl

theorem failuresInARow_concat (h : s.outcome ≠ .success) :
    failuresInARow (samples ++ [s]) =
      failuresInARow samples + if s.outcome = .failure then 1 else 0 := by
  rw [failuresInARow, List.rtakeWhile_concat_pos _ _ _ (by simpa using h), List.countP_append]
  simp only [List.countP_singleton, decide_eq_true_eq, failuresInARow]

end Row

namespace Collector

theorem toNat_longer (run : UInt32) :
    (longer run).toNat = min (run.toNat + 1) (UInt32.size - 1) := by
  have hlt := run.toNat_lt
  rw [longer]
  split
  · rename_i h
    have hadd : (run + 1).toNat = run.toNat + 1 := by
      rw [UInt32.toNat_add]
      exact Nat.mod_eq_of_lt h
    simp only [hadd, UInt32.size] at h ⊢
    omega
  · rename_i h
    simp only [UInt32.size] at h ⊢
    omega

theorem le_longer (run : UInt32) : run ≤ longer run := by
  have hlt := run.toNat_lt
  rw [UInt32.le_iff_toNat_le, toNat_longer]
  simp only [UInt32.size]
  omega

/-! ## One more call -/

section Record

variable (c : Collector) (s : Sample) (time : Duration)

theorem record_config : (c.record s time).config = c.config := by
  unfold Collector.record judge
  cases s.outcome <;> rfl

theorem record_kinds :
    (c.record s time).kinds = addTo c.config.window s.requestKind s c.kinds := by
  unfold Collector.record judge
  cases s.outcome <;> rfl

theorem record_providers :
    (c.record s time).providers =
      match s.servedBy with
      | some provider => addTo c.config.window provider s c.providers
      | none => c.providers := by
  unfold Collector.record judge tally Sample.servedBy
  cases s.outcome <;> cases s.provider <;> rfl

theorem record_total : (c.record s time).total = c.total + 1 := by
  unfold Collector.record judge
  cases s.outcome <;> rfl

end Record

/-- What the metrics are when the collector was told of some samples. -/
structure TellsOf (config : CollectorConfig) (samples : List Sample) (c : Collector) : Prop where
  configured : c.config = config
  kinds : Series.Parted config.window (fun s => some s.requestKind) samples c.kinds
  providers : Series.Parted config.window Sample.servedBy samples c.providers
  total : c.total = (c.kinds.values.map (·.totals.count)).sum
  length : c.total = samples.length
  run : c.run.toNat = min (failuresInARow samples) (UInt32.size - 1)
  unhealthy : c.healthy = false ↔ config.failureThreshold ≤ c.run

variable {config : CollectorConfig} {samples : List Sample} {c : Collector}

theorem not_le_zero (hthreshold : 1 ≤ config.failureThreshold) :
    ¬config.failureThreshold ≤ 0 := by
  rw [UInt32.le_iff_toNat_le] at hthreshold ⊢
  simp only [UInt32.toNat_one, UInt32.toNat_zero] at hthreshold ⊢
  omega

theorem tellsOf_ofConfig (hthreshold : 1 ≤ config.failureThreshold) :
    (ofConfig config).TellsOf config [] where
  configured := rfl
  kinds := fun _ => rfl
  providers := fun _ => rfl
  total := rfl
  length := rfl
  run := rfl
  unhealthy := iff_of_false Bool.noConfusion (not_le_zero hthreshold)

/-- The run of failures and the health go together. -/
theorem TellsOf.judged (htells : c.TellsOf config samples)
    (hthreshold : 1 ≤ config.failureThreshold) (s : Sample) (time : Duration) :
    (c.record s time).run.toNat = min (failuresInARow (samples ++ [s])) (UInt32.size - 1) ∧
      ((c.record s time).healthy = false ↔ config.failureThreshold ≤ (c.record s time).run) := by
  have hrun := htells.run
  cases houtcome : s.outcome with
  | success =>
    have hnew : (c.record s time).run = 0 ∧ (c.record s time).healthy = true := by
      simp [Collector.record, judge, houtcome]
    rw [failuresInARow_concat_success houtcome, hnew.1, hnew.2]
    exact ⟨rfl, iff_of_false Bool.noConfusion (not_le_zero hthreshold)⟩
  | failure =>
    have hnew : (c.record s time).run = longer c.run ∧
        (c.record s time).healthy =
          (c.healthy && longer c.run < config.failureThreshold) := by
      simp [Collector.record, judge, houtcome, tally, htells.configured]
    rw [failuresInARow_concat (by simp [houtcome]), hnew.1, hnew.2, if_pos houtcome]
    constructor
    · rw [toNat_longer, hrun]
      omega
    · -- a collector that is not healthy has reached the threshold before
      rw [Bool.and_eq_false_iff, htells.unhealthy, decide_eq_false_iff_not, UInt32.not_lt]
      exact or_iff_right_of_imp fun hreached =>
        UInt32.le_trans hreached (le_longer c.run)
  | blocked =>
    have hnew : (c.record s time).run = c.run ∧ (c.record s time).healthy = c.healthy := by
      simp [Collector.record, judge, houtcome, tally]
    rw [failuresInARow_concat (by simp [houtcome]), hnew.1, hnew.2, if_neg (by simp [houtcome])]
    exact ⟨hrun, htells.unhealthy⟩

/-- One more sample is told of, whatever the time at which it is recorded. -/
theorem TellsOf.record (htells : c.TellsOf config samples)
    (hthreshold : 1 ≤ config.failureThreshold) (s : Sample) (time : Duration) :
    (c.record s time).TellsOf config (samples ++ [s]) where
  configured := (record_config c s time).trans htells.configured
  kinds := by
    rw [record_kinds, htells.configured]
    exact htells.kinds.addTo rfl
  providers := by
    rw [record_providers, htells.configured]
    cases hserved : s.servedBy with
    | none => exact htells.providers.of_none hserved
    | some provider => exact htells.providers.addTo hserved
  total := by
    rw [record_total, record_kinds, Series.sum_count_addTo, htells.total]
  length := by
    rw [record_total, htells.length, List.length_append, List.length_singleton]
  run := (htells.judged hthreshold s time).1
  unhealthy := (htells.judged hthreshold s time).2

end Collector

/-! ## All calls -/

/-- A call to the collector. -/
inductive CollectorCall where
  | record (s : Sample) (time : Duration)
  | evaluation (elapsed : Duration) (risk : Float) (applied : List String) (blocked : Bool)
  | redaction (fields : UInt64)
  | stage (name : String) (elapsed : Duration)
  | snapshot (now : Duration)

namespace CollectorCall

/-- What a call leaves of the collector, and the snapshot that it answers with. -/
def answer (c : Collector) : CollectorCall → Collector × Option Json
  | record s time => (c.record s time, none)
  | evaluation elapsed risk applied blocked => (c.recordEvaluation elapsed risk applied blocked, none)
  | redaction fields => (c.recordRedaction fields, none)
  | stage name elapsed => (c.recordStage name elapsed, none)
  | snapshot now => (c, some (c.snapshot now))

def sample? : CollectorCall → Option Sample
  | record s _ => some s
  | _ => none

end CollectorCall

namespace Collector

def after (c : Collector) (calls : List CollectorCall) : Collector :=
  calls.foldl (fun c call => (call.answer c).1) c

/-- The snapshots that calls are answered with. -/
def answers (c : Collector) : List CollectorCall → List Json
  | [] => []
  | call :: rest => (call.answer c).2.toList ++ answers (call.answer c).1 rest

variable {config : CollectorConfig} {samples : List Sample} {c : Collector}

theorem answers_append (c : Collector) (calls rest : List CollectorCall) :
    c.answers (calls ++ rest) = c.answers calls ++ (c.after calls).answers rest := by
  induction calls generalizing c with
  | nil => rfl
  | cons call calls ih =>
    rw [List.cons_append, answers, answers, ih, List.append_assoc]
    rfl

theorem TellsOf.answer (htells : c.TellsOf config samples)
    (hthreshold : 1 ≤ config.failureThreshold) (call : CollectorCall) :
    (call.answer c).1.TellsOf config (samples ++ call.sample?.toList) := by
  cases call with
  | record s time => exact htells.record hthreshold s time
  | evaluation | redaction | stage | snapshot =>
    simp only [CollectorCall.sample?, Option.toList_none, List.append_nil]
    exact { htells with }

theorem tellsOf_after (hthreshold : 1 ≤ config.failureThreshold) (calls : List CollectorCall) :
    ((ofConfig config).after calls).TellsOf config (calls.filterMap CollectorCall.sample?) := by
  induction calls using List.reverseRecOn with
  | nil => exact tellsOf_ofConfig hthreshold
  | append_singleton calls call ih =>
    -- the last call comes to the samples of all others
    rw [after, List.foldl_append, List.filterMap_append]
    have hanswer := ih.answer hthreshold call
    cases hsample : call.sample? <;> simpa [hsample, after] using hanswer

theorem exists_of_mem_answers {calls : List CollectorCall} {shown : Json}
    (hshown : shown ∈ c.answers calls) :
    ∃ before now, before ++ [.snapshot now] <+: calls ∧ shown = (c.after before).snapshot now := by
  induction calls using List.reverseRecOn with
  | nil => cases hshown
  | append_singleton calls call ih =>
    rw [answers_append, List.mem_append] at hshown
    rcases hshown with hearlier | hlast
    · obtain ⟨before, now, hbefore, hsame⟩ := ih hearlier
      exact ⟨before, now, hbefore.trans (List.prefix_append ..), hsame⟩
    · cases call with
      | record | evaluation | redaction | stage => cases hlast
      | snapshot now => exact ⟨calls, now, List.prefix_rfl, List.mem_singleton.1 hlast⟩

/-- However calls come one after the other, what they leave of the collector tells of the samples that
were recorded, and so does every snapshot of those that were recorded before it. -/
theorem samples_told (config : CollectorConfig) (hthreshold : 1 ≤ config.failureThreshold)
    (calls : List CollectorCall) :
    ((ofConfig config).after calls).TellsOf config (calls.filterMap CollectorCall.sample?) ∧
    ∀ shown ∈ (ofConfig config).answers calls,
      ∃ (before : List CollectorCall) (now : Duration) (c : Collector),
        before ++ [.snapshot now] <+: calls ∧
        c.TellsOf config (before.filterMap CollectorCall.sample?) ∧ shown = c.snapshot now := by
  refine ⟨tellsOf_after hthreshold calls, ?_⟩
  intro shown hshown
  obtain ⟨before, now, hbefore, hsame⟩ := exists_of_mem_answers hshown
  exact ⟨before, now, _, hbefore, tellsOf_after hthreshold before, hsame⟩

/-- A collector with room for two latencies that is not healthy after two failures. -/
def strictConfig : CollectorConfig := ⟨2, 2, .ofSeconds 60⟩

/-- Two failures with a blocked request between them. -/
def failingCalls : List CollectorCall :=
  [.record ⟨"chat", some "openai", ⟨30⟩, .failure, 7, 0.5⟩ ⟨1⟩, .snapshot ⟨2⟩,
    .record ⟨"chat", some "openai", ⟨4⟩, .blocked, 0, 0.0⟩ ⟨3⟩, .stage "routing" ⟨9⟩,
    .record ⟨"chat", some "openai", ⟨20⟩, .failure, 8, 0.5⟩ ⟨5⟩]

theorem failingCalls_told :
    1 ≤ strictConfig.failureThreshold ∧
      ((ofConfig strictConfig).after failingCalls).TellsOf strictConfig
        (failingCalls.filterMap CollectorCall.sample?) ∧
      ((ofConfig strictConfig).after failingCalls).healthy = false ∧
      (((ofConfig strictConfig).after failingCalls).kinds.get? "chat").map
        (·.window.latencies) = some [⟨4⟩, ⟨20⟩] ∧
      (((ofConfig strictConfig).after failingCalls).providers.get? "openai").map
        (·.window.latencies) = some [⟨30⟩, ⟨20⟩] := by
  have hthreshold : 1 ≤ strictConfig.failureThreshold := by decide
  have htold := samples_told strictConfig hthreshold failingCalls
  exact ⟨hthreshold, htold.1, by decide +kernel, by decide +kernel, by decide +kernel⟩

end Collector

end Governance
