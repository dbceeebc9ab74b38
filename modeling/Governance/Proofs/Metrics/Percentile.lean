import Mathlib.Data.List.Sort
import Governance.Metrics.Series

/-!
# Percentiles

A percentile is the latency at some place of the latencies in ascending order. What stands at a
place is not below what stands in front of it and not above what stands behind it, so the place
alone says how many latencies lie on either side. The places go up with the percentage, from the
first one to the last; a product that is too great for its bits stands for the last one as well.
-/

namespace Governance

/-! ### Latencies in ascending order -/

namespace Duration

variable {latencies : List Duration} {i j : Nat}

/-- The latencies, the shortest one first. -/
def ascending (latencies : List Duration) : List Duration :=
  latencies.mergeSort fun a b => a.nanos ≤ b.nanos

theorem ascending_perm (latencies : List Duration) : (ascending latencies).Perm latencies :=
  List.mergeSort_perm _ _

theorem length_ascending (latencies : List Duration) :
    (ascending latencies).length = latencies.length :=
  (ascending_perm latencies).length_eq

theorem sorted_ascending (latencies : List Duration) :
    (ascending latencies).Pairwise fun a b => a.nanos ≤ b.nanos := by
  have hsorted : (ascending latencies).Pairwise fun a b => decide (a.nanos ≤ b.nanos) := by
    refine List.pairwise_mergeSort ?_ ?_ latencies
    · exact fun a b c hab hbc =>
        decide_eq_true ((of_decide_eq_true hab).trans (of_decide_eq_true hbc))
    · exact fun a b => by simpa using Nat.le_total a.nanos b.nanos
  exact hsorted.imp of_decide_eq_true

/-- Latencies that are equally long are the same, so nothing is left of the order they came in. -/
theorem ascending_eq_of_perm {reordered : List Duration} (hperm : reordered.Perm latencies) :
    ascending reordered = ascending latencies := by
  refine List.Perm.eq_of_pairwise ?_ (sorted_ascending _) (sorted_ascending _)
    ((ascending_perm _).trans (hperm.trans (ascending_perm _).symm))
  rintro ⟨m⟩ ⟨n⟩ _ _ hle hge
  exact congrArg Duration.mk (Nat.le_antisymm hle hge)

theorem ascending_mono (hj : j < (ascending latencies).length) (hle : i ≤ j) :
    ((ascending latencies)[i]).nanos ≤ ((ascending latencies)[j]).nanos := by
  rcases Nat.eq_or_lt_of_le hle with rfl | hlt
  · exact Nat.le_refl _
  · exact List.pairwise_iff_getElem.1 (sorted_ascending latencies) i j _ hj hlt

theorem lt_countP_le (hi : i < (ascending latencies).length) :
    i < latencies.countP fun other => other.nanos ≤ ((ascending latencies)[i]).nanos := by
  have hfront : ∀ other ∈ (ascending latencies).take (i + 1),
      other.nanos ≤ ((ascending latencies)[i]).nanos := by
    intro other hother
    obtain ⟨j, hj, rfl⟩ := List.mem_take_iff_getElem.1 hother
    exact ascending_mono hi (by omega)
  have hcount := (List.take_sublist (i + 1) (ascending latencies)).countP_le
    (p := fun other => decide (other.nanos ≤ ((ascending latencies)[i]).nanos))
  rw [List.countP_eq_length.2 (fun other hother => decide_eq_true (hfront other hother)),
    List.length_take, (ascending_perm latencies).countP_eq] at hcount
  omega

theorem length_sub_le_countP_ge (hi : i < (ascending latencies).length) :
    latencies.length - i ≤
      latencies.countP fun other => ((ascending latencies)[i]).nanos ≤ other.nanos := by
  have hback : ∀ other ∈ (ascending latencies).drop i,
      ((ascending latencies)[i]).nanos ≤ other.nanos := by
    intro other hother
    obtain ⟨j, hj, rfl⟩ := List.mem_drop_iff_getElem.1 hother
    exact ascending_mono (by omega) (Nat.le_add_right i j)
  have hcount := (List.drop_sublist i (ascending latencies)).countP_le
    (p := fun other => decide (((ascending latencies)[i]).nanos ≤ other.nanos))
  rwa [List.countP_eq_length.2 (fun other hother => decide_eq_true (hback other hother)),
    List.length_drop, (ascending_perm latencies).countP_eq, length_ascending] at hcount

end Duration

open Duration (ascending ascending_perm length_ascending ascending_mono)

variable {percent more : UInt32}

/-! ### The place of a percentile -/

section Place

variable {count : Nat}

/-- The place of a percentile among so many latencies. -/
def percentilePlace (count : Nat) (percent : UInt32) : Nat :=
  if count * percent.toNat < UInt64.size then min (count * percent.toNat / 100) (count - 1)
  else count - 1

theorem percentilePlace_lt (hcount : 0 < count) (percent : UInt32) :
    percentilePlace count percent < count := by
  unfold percentilePlace
  split <;> omega

theorem percentilePlace_zero (count : Nat) : percentilePlace count 0 = 0 := by
  unfold percentilePlace
  rw [if_pos (by simp [UInt64.size])]
  simp

/-- From a hundred on, it makes no difference whether the product has room. -/
theorem percentilePlace_of_hundred_le (hpercent : 100 ≤ percent) :
    percentilePlace count percent = count - 1 := by
  have hpercent : 100 ≤ percent.toNat := UInt32.le_iff_toNat_le.1 hpercent
  unfold percentilePlace
  split
  · have hall : count ≤ count * percent.toNat / 100 :=
      (Nat.le_div_iff_mul_le (by decide)).2 (Nat.mul_le_mul_left count hpercent)
    omega
  · rfl

theorem percentilePlace_mono (hle : percent ≤ more) :
    percentilePlace count percent ≤ percentilePlace count more := by
  have hproduct : count * percent.toNat ≤ count * more.toNat :=
    Nat.mul_le_mul_left count (UInt32.le_iff_toNat_le.1 hle)
  have hquotient := Nat.div_le_div_right (c := 100) hproduct
  unfold percentilePlace
  split <;> split <;> omega

end Place

variable {latencies : List Duration} {d : Duration}

theorem percentile_eq (latencies : List Duration) (percent : UInt32) :
    percentile latencies percent =
      (ascending latencies).getD (percentilePlace latencies.length percent) ⟨0⟩ := by
  rw [← length_ascending]
  rfl

theorem percentile_eq_of_perm {reordered : List Duration} (hperm : reordered.Perm latencies)
    (percent : UInt32) : percentile reordered percent = percentile latencies percent := by
  rw [percentile_eq, percentile_eq, Duration.ascending_eq_of_perm hperm, hperm.length_eq]

/-! ### Shares of the latencies -/

/-- So many of a hundred latencies are not above a latency, and the others of the hundred are not
below it. -/
structure PartedBy (latencies : List Duration) (percent : Nat) (d : Duration) : Prop where
  notAbove : percent * latencies.length ≤ 100 * latencies.countP (·.nanos ≤ d.nanos)
  notBelow : (100 - percent) * latencies.length ≤ 100 * latencies.countP (d.nanos ≤ ·.nanos)

section Share

variable (hsome : latencies ≠ [])
include hsome

theorem exists_percentile_eq (percent : UInt32) :
    ∃ hplace : percentilePlace latencies.length percent < (ascending latencies).length,
      percentile latencies percent =
        (ascending latencies)[percentilePlace latencies.length percent] := by
  have hplace : percentilePlace latencies.length percent < (ascending latencies).length := by
    rw [length_ascending]
    exact percentilePlace_lt (List.length_pos_iff.2 hsome) percent
  refine ⟨hplace, ?_⟩
  rw [percentile_eq, List.getD_eq_getElem?_getD, List.getElem?_eq_getElem hplace,
    Option.getD_some]

theorem percentile_mem (percent : UInt32) : percentile latencies percent ∈ latencies := by
  obtain ⟨hplace, heq⟩ := exists_percentile_eq hsome percent
  rw [heq]
  exact (ascending_perm latencies).subset (List.getElem_mem hplace)

theorem percentile_mono (hle : percent ≤ more) :
    (percentile latencies percent).nanos ≤ (percentile latencies more).nanos := by
  obtain ⟨_, heq⟩ := exists_percentile_eq hsome percent
  obtain ⟨hplace, heq'⟩ := exists_percentile_eq hsome more
  rw [heq, heq']
  exact ascending_mono hplace (percentilePlace_mono hle)

theorem le_percentile_of_hundred_le (hpercent : 100 ≤ percent) (hd : d ∈ latencies) :
    d.nanos ≤ (percentile latencies percent).nanos := by
  obtain ⟨hplace, heq⟩ := exists_percentile_eq hsome percent
  obtain ⟨i, hi, rfl⟩ := List.getElem_of_mem ((ascending_perm latencies).mem_iff.2 hd)
  have hlast : percentilePlace latencies.length percent = latencies.length - 1 :=
    percentilePlace_of_hundred_le hpercent
  rw [length_ascending] at hi
  rw [heq]
  exact ascending_mono hplace (by omega)

theorem percentile_zero_le (hd : d ∈ latencies) : (percentile latencies 0).nanos ≤ d.nanos := by
  obtain ⟨hplace, heq⟩ := exists_percentile_eq hsome 0
  obtain ⟨i, hi, rfl⟩ := List.getElem_of_mem ((ascending_perm latencies).mem_iff.2 hd)
  rw [heq]
  refine ascending_mono hi ?_
  rw [percentilePlace_zero]
  exact Nat.zero_le i

/-- Up to a hundred the product has room, and what its quotient drops is less than one latency. -/
theorem partedBy_percentile (hroom : 100 * latencies.length < UInt64.size)
    (hpercent : percent ≤ 100) :
    PartedBy latencies percent.toNat (percentile latencies percent) := by
  obtain ⟨hplace, heq⟩ := exists_percentile_eq hsome percent
  have hpercent : percent.toNat ≤ 100 := UInt32.le_iff_toNat_le.1 hpercent
  have hproduct := Nat.mul_le_mul_left latencies.length hpercent
  have hvalue : percentilePlace latencies.length percent =
      min (latencies.length * percent.toNat / 100) (latencies.length - 1) := by
    refine if_pos (Nat.lt_of_le_of_lt hproduct ?_)
    rwa [Nat.mul_comm]
  have hfront := Duration.lt_countP_le hplace
  have hback := Duration.length_sub_le_countP_ge hplace
  rw [← heq] at hfront hback
  constructor
  · rw [Nat.mul_comm percent.toNat]
    omega
  · rw [Nat.mul_comm, Nat.mul_sub]
    omega

end Share

/-- In the summary of a window the percentiles stand in their order. -/
theorem LatencyWindow.summary_ordered (w : LatencyWindow) :
    w.summary.p50.nanos ≤ w.summary.p95.nanos ∧ w.summary.p95.nanos ≤ w.summary.p99.nanos := by
  by_cases hsome : w.latencies = []
  · simp [summary, percentile, hsome]
  · exact ⟨percentile_mono hsome (by decide), percentile_mono hsome (by decide)⟩

/-- A percentile of some latencies is one of them. Up to a hundred it parts them into the shares
that the percentage asks for, from a hundred on it is the longest one, and at nought the shortest.
It goes up with the percentage, and the order in which the latencies came in does not matter. -/
theorem percentile_parts_latencies (hsome : latencies ≠ [])
    (hroom : 100 * latencies.length < UInt64.size) (percent : UInt32) :
    percentile latencies percent ∈ latencies ∧
    (percent ≤ 100 → PartedBy latencies percent.toNat (percentile latencies percent)) ∧
    (100 ≤ percent → ∀ d ∈ latencies, d.nanos ≤ (percentile latencies percent).nanos) ∧
    (percent = 0 → ∀ d ∈ latencies, (percentile latencies percent).nanos ≤ d.nanos) ∧
    (∀ more, percent ≤ more →
      (percentile latencies percent).nanos ≤ (percentile latencies more).nanos) ∧
    ∀ reordered, reordered.Perm latencies →
      percentile reordered percent = percentile latencies percent := by
  refine ⟨percentile_mem hsome percent, partedBy_percentile hsome hroom, ?_, ?_, ?_, ?_⟩
  · exact fun hpercent _ => le_percentile_of_hundred_le hsome hpercent
  · rintro rfl _
    exact percentile_zero_le hsome
  · exact fun _ => percentile_mono hsome
  · exact fun _ hperm => percentile_eq_of_perm hperm percent

/-- Sixty in a hundred of the latencies are exactly three, so the percentile is the fourth. -/
def scatteredLatencies : List Duration := [⟨50⟩, ⟨10⟩, ⟨40⟩, ⟨20⟩, ⟨30⟩]

theorem scatteredLatencies_parted :
    scatteredLatencies ≠ [] ∧ 100 * scatteredLatencies.length < UInt64.size ∧
      percentile scatteredLatencies 60 = ⟨40⟩ ∧ PartedBy scatteredLatencies 60 ⟨40⟩ ∧
      ∀ other ∈ scatteredLatencies,
        other.nanos ≤ (percentile scatteredLatencies 4294967295).nanos := by
  have hsome : scatteredLatencies ≠ [] := List.cons_ne_nil _ _
  have hroom : 100 * scatteredLatencies.length < UInt64.size := by decide
  have hordered : [⟨10⟩, ⟨20⟩, ⟨30⟩, ⟨40⟩, ⟨50⟩].Perm scatteredLatencies := by decide
  have hfourth : percentile scatteredLatencies 60 = ⟨40⟩ := by
    rw [← percentile_eq_of_perm hordered, percentile_eq, ascending,
      List.mergeSort_of_pairwise (by decide)]
    rfl
  obtain ⟨_, hparted, _⟩ := percentile_parts_latencies hsome hroom 60
  obtain ⟨_, _, hlongest, _⟩ := percentile_parts_latencies hsome hroom 4294967295
  exact ⟨hsome, hroom, hfourth, hfourth ▸ hparted (by decide), hlongest (by decide)⟩

end Governance
