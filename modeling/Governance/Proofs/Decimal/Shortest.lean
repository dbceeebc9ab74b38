import Mathlib.Data.Nat.Prime.Basic
import Governance.Decimal.Shortest
import Governance.Proofs.Decimal.Doubles

/-!
# The integer that a double is written as

An integer is written as the double nearest to it, by the fewest digits that tell that double from all others: of
the integers that share the double those are chosen that end in the most zeros, and of these the one nearest to the
double. Two of them are never equally near, for then the double would be halfway between two multiples of a power
of ten, and such a power is too small beside the places of the double.
-/

namespace Governance.Decimal

/-! ### The reach of a double in the search -/

theorem Interval.holds_iff (i : Interval) (d e : Nat) :
    i.holds ⟨d, e⟩ = true ↔ i.low ≤ d * 10 ^ e * i.den ∧ d * 10 ^ e * i.den ≤ i.high ∧
      (d * 10 ^ e * i.den = i.low ∨ d * 10 ^ e * i.den = i.high → i.closed = true) := by
  have hscale : Nat.pow 10 (-(e : Int)).toNat = 1 := by rw [Int.toNat_neg_natCast, Nat.pow_eq, Nat.pow_zero]
  have hpow : Nat.pow 10 (e : Int).toNat = 10 ^ e := rfl
  unfold holds
  dsimp only
  rw [hscale, hpow, Nat.mul_one, Nat.mul_one]
  split <;> simp only [Bool.and_eq_true, decide_eq_true_eq] <;> grind

theorem mul_quarter {u den w c p : Nat} (hu : 4 * u = w * den) (hden : 0 < den) :
    (c * u ≤ p * den ↔ c * w ≤ 4 * p) ∧ (p * den ≤ c * u ↔ 4 * p ≤ c * w) := by
  have hc : 4 * (c * u) = c * w * den := by rw [Nat.mul_left_comm, hu, Nat.mul_assoc]
  have hp : 4 * (p * den) = 4 * p * den := (Nat.mul_assoc 4 p den).symm
  constructor
  · rw [← Nat.mul_le_mul_right_iff (n := c * w) hden, ← hc, ← hp]
    omega
  · rw [← Nat.mul_le_mul_right_iff (n := 4 * p) hden, ← hc, ← hp]
    omega

theorem eq_of_mul_near {p v c : Nat} (hle : v * c ≤ p * c + 2) (hge : p * c ≤ v * c + 2) (hc : 2 < c) : p = v := by
  have hbelow : p + 1 ≤ v → (p + 1) * c ≤ v * c := Nat.mul_le_mul_right c
  have habove : v + 1 ≤ p → (v + 1) * c ≤ p * c := Nat.mul_le_mul_right c
  rw [Nat.succ_mul] at hbelow habove
  omega

theorem quarter_eq (k : Nat) :
    4 * 2 ^ ((k : Int) - 2).toNat = 2 ^ k * 2 ^ (-((k : Int) - 2)).toNat := by
  match k with
  | 0 => rfl
  | 1 => rfl
  | k + 2 =>
    rw [show ((k + 2 : Nat) : Int) - 2 = k by omega, Int.toNat_natCast, Int.toNat_neg_natCast, Nat.pow_add]
    omega

theorem toNat_below (k : Nat) :
    (-((k + 1 : Nat) : Int) - 2).toNat = 0 ∧ (-(-((k + 1 : Nat) : Int) - 2)).toNat = k + 3 := by
  omega

section IsDouble

variable {m : Magnitude} {v : Nat}

/-- A double has bits behind the point to spare, or it is a whole number of places. -/
theorem Magnitude.IsDouble.exponent_cases (h : m.IsDouble v) :
    (∃ k : Nat, m.exponent = k ∧ v = m.significand * 2 ^ k) ∨
      ∃ k : Nat, m.exponent = -(k + 1 : Nat) ∧ m.significand = v * 2 ^ k * 2 ∧ v < 2 ^ 53 := by
  have hvalue := h.value_eq
  have hhigh := h.normal.high
  obtain hq | hq := lt_or_ge m.exponent 0
  · obtain ⟨k, hk⟩ : ∃ k : Nat, m.exponent = -(k + 1 : Nat) := ⟨(-m.exponent - 1).toNat, by omega⟩
    rw [hk, Int.toNat_neg_natCast, Int.neg_neg, Int.toNat_natCast, Nat.pow_zero, Nat.mul_one, Nat.pow_succ,
      ← Nat.mul_assoc] at hvalue
    have := Nat.le_mul_of_pos_right v (Nat.two_pow_pos k)
    exact .inr ⟨k, hk, hvalue, by omega⟩
  · obtain ⟨k, hk⟩ := Int.eq_ofNat_of_zero_le hq
    rw [hk, Int.toNat_neg_natCast, Int.toNat_natCast, Nat.pow_zero, Nat.mul_one] at hvalue
    exact .inl ⟨k, hk, hvalue.symm⟩

theorem Magnitude.IsDouble.nearestNat_self (h : m.IsDouble v) : nearestNat v = v := by
  obtain ⟨k, -, rfl⟩ | ⟨k, -, -, hv⟩ := h.exponent_cases
  · exact nearestNat_mul_two_pow h.normal.high.le
  · exact nearestNat_of_lt hv

/-- The search works in quarters of a place. -/
theorem Magnitude.IsDouble.value_interval (h : m.IsDouble v) : m.interval.value = v * m.interval.den := by
  dsimp only [interval]
  rw [Nat.pow_eq, Nat.pow_eq]
  obtain ⟨k, hk, hv⟩ | ⟨k, hk, hs, -⟩ := h.exponent_cases
  · rw [hk, hv, Nat.mul_comm 4, Nat.mul_assoc, quarter_eq, Nat.mul_assoc]
  · rw [hk, (toNat_below k).1, (toNat_below k).2, hs]
    ring

theorem Magnitude.IsDouble.holds_iff (h : m.IsDouble v) (d e : Nat) :
    m.interval.holds ⟨d, e⟩ = true ↔ nearestNat (d * 10 ^ e) = v := by
  have hgap : (if m.narrowBelow = true then 1 else 2) = gapBelow m.significand := by
    rw [h.narrow, gapBelow]
    simp
  rw [Interval.holds_iff]
  generalize d * 10 ^ e = p
  dsimp only [interval]
  rw [hgap, decide_eq_true_eq, Nat.pow_eq, Nat.pow_eq]
  obtain ⟨k, hk, rfl⟩ | ⟨k, hk, hs, hv⟩ := h.exponent_cases
  · rw [hk]
    have hle (c : Nat) := (mul_quarter (c := c) (p := p) (quarter_eq k) (Nat.two_pow_pos _)).1
    have hge (c : Nat) := (mul_quarter (c := c) (p := p) (quarter_eq k) (Nat.two_pow_pos _)).2
    have heq (c : Nat) : p * 2 ^ (-((k : Int) - 2)).toNat = c * 2 ^ ((k : Int) - 2).toNat ↔ 4 * p = c * 2 ^ k := by
      rw [le_antisymm_iff, le_antisymm_iff, hle, hge]
    rw [nearestNat_eq_iff h.normal.low h.normal.high, hle, hge, heq, heq]
  · -- no other integer is within reach
    have hden : 2 ^ (k + 3) = 8 * 2 ^ k := by rw [Nat.pow_add]; omega
    have hfour : 4 * m.significand = v * (8 * 2 ^ k) := by rw [hs]; ring
    have hpos := Nat.two_pow_pos k
    have hgap := gapBelow_bounds m.significand
    rw [hk, (toNat_below k).1, (toNat_below k).2, nearestNat_eq_iff_of_lt hv, Nat.pow_zero, Nat.mul_one,
      Nat.mul_one, hden]
    constructor
    · rintro ⟨hle, hge, -⟩
      exact eq_of_mul_near (c := 8 * 2 ^ k) (by omega) (by omega) (by omega)
    · rintro rfl
      omega

/-! ### One grid -/

def gap (p v : Nat) : Nat := (p - v) + (v - p)

theorem gap_mul (p v c : Nat) : gap p v * c = (p * c - v * c) + (v * c - p * c) := by
  rw [gap, Nat.add_mul, Nat.sub_mul, Nat.sub_mul]

theorem Magnitude.IsDouble.distance_eq (h : m.IsDouble v) (d e : Nat) :
    m.interval.distance ⟨d, e⟩ = gap (d * 10 ^ e) v * m.interval.den := by
  unfold Interval.distance
  dsimp only
  rw [h.value_interval, Int.toNat_neg_natCast, Int.toNat_natCast, Nat.pow_eq, Nat.pow_eq, Nat.pow_zero, Nat.mul_one,
    gap_mul]

theorem Magnitude.den_pos (m : Magnitude) : 0 < m.interval.den := Nat.two_pow_pos _

/-- The search on one grid looks at the two neighbours of the double and takes the nearer one that shares it. -/
theorem Magnitude.IsDouble.onGrid_cases (h : m.IsDouble v) {b e : Nat} (hb : v / 10 ^ e = b) :
    (m.interval.onGrid .up e = none ∧ ¬(0 < b ∧ nearestNat (b * 10 ^ e) = v) ∧
        nearestNat ((b + 1) * 10 ^ e) ≠ v) ∨
      (m.interval.onGrid .up e = some ⟨b, e⟩ ∧ (0 < b ∧ nearestNat (b * 10 ^ e) = v) ∧
        (nearestNat ((b + 1) * 10 ^ e) = v → gap (b * 10 ^ e) v < gap ((b + 1) * 10 ^ e) v)) ∨
      (m.interval.onGrid .up e = some ⟨b + 1, e⟩ ∧ nearestNat ((b + 1) * 10 ^ e) = v ∧
        (nearestNat (b * 10 ^ e) = v → 0 < b → gap ((b + 1) * 10 ^ e) v ≤ gap (b * 10 ^ e) v)) := by
  have hbelow : m.interval.value * Nat.pow 10 (-(e : Int)).toNat /
      (m.interval.den * Nat.pow 10 (e : Int).toNat) = b := by
    rw [← hb, h.value_interval, Int.toNat_neg_natCast, Int.toNat_natCast, Nat.pow_eq, Nat.pow_eq, Nat.pow_zero,
      Nat.mul_one, Nat.mul_comm m.interval.den, Nat.mul_div_mul_right _ _ m.den_pos]
  unfold Interval.onGrid
  dsimp only
  rw [hbelow]
  have hlow : (m.interval.holds ⟨b, e⟩ && decide (0 < b)) = decide (0 < b ∧ nearestNat (b * 10 ^ e) = v) := by
    rw [Bool.eq_iff_iff, Bool.and_eq_true, h.holds_iff, decide_eq_true_eq, decide_eq_true_eq, and_comm]
  have hhigh : m.interval.holds ⟨b + 1, e⟩ = decide (nearestNat ((b + 1) * 10 ^ e) = v) := by
    rw [Bool.eq_iff_iff, h.holds_iff, decide_eq_true_eq]
  have hdistance (p p' : Nat) : gap p v * m.interval.den < gap p' v * m.interval.den ↔ gap p v < gap p' v :=
    Nat.mul_lt_mul_right m.den_pos
  rw [hlow, hhigh, h.distance_eq, h.distance_eq]
  simp only [hdistance]
  by_cases hin : 0 < b ∧ nearestNat (b * 10 ^ e) = v
  · by_cases hin' : nearestNat ((b + 1) * 10 ^ e) = v
    · by_cases hgap : gap (b * 10 ^ e) v < gap ((b + 1) * 10 ^ e) v
      · exact .inr (.inl ⟨by simp [hin, hin', hgap], hin, fun _ => hgap⟩)
      · exact .inr (.inr ⟨by simp [hin, hin', hgap], hin', fun _ _ => Nat.le_of_not_lt hgap⟩)
    · exact .inr (.inl ⟨by simp [hin, hin'], hin, fun h => absurd h hin'⟩)
  · by_cases hin' : nearestNat ((b + 1) * 10 ^ e) = v
    · exact .inr (.inr ⟨by simp [hin, hin'], hin', fun hlow hpos => absurd ⟨hpos, hlow⟩ hin⟩)
    · exact .inl ⟨by simp [hin, hin'], hin, hin'⟩

/-- The multiple of a unit that is nearest to a double among those that share it. -/
structure NearestMultiple (v unit s : Nat) : Prop where
  pos : 0 < s
  rounds : nearestNat s = v
  dvd : unit ∣ s
  closest : ∀ c, nearestNat c = v → unit ∣ c → c ≠ s → gap s v < gap c v

/-- What rounds to a double is at most half a place away from it. -/
theorem gap_le_of_nearestNat {s p k : Nat} {q : Int} (hs : Normal s q) (hp : nearestNat p = s * 2 ^ k) :
    2 * gap p (s * 2 ^ k) ≤ 2 ^ k := by
  obtain ⟨hlow, hhigh, -⟩ := (nearestNat_eq_iff hs.low hs.high).1 hp
  have hgap : gapBelow s * 2 ^ k ≤ 2 * 2 ^ k := Nat.mul_le_mul_right _ (gapBelow_bounds s).2
  rw [Nat.sub_mul, Nat.mul_assoc] at hlow
  rw [Nat.add_mul, Nat.mul_assoc] at hhigh
  unfold gap
  omega

/-- The two neighbours of a double on a grid are never equally near to it if both share it. -/
theorem Magnitude.IsDouble.gap_ne (h : m.IsDouble v) {b e : Nat} (hlow : nearestNat (b * 10 ^ e) = v)
    (hhigh : nearestNat ((b + 1) * 10 ^ e) = v) (hle : b * 10 ^ e ≤ v) (hge : v ≤ (b + 1) * 10 ^ e) :
    gap (b * 10 ^ e) v ≠ gap ((b + 1) * 10 ^ e) v := by
  intro htie
  have hsucc : (b + 1) * 10 ^ e = b * 10 ^ e + 10 ^ e := Nat.succ_mul b (10 ^ e)
  have htwice : 2 * v = (2 * b + 1) * 10 ^ e := by
    have hodd : (2 * b + 1) * 10 ^ e = 2 * (b * 10 ^ e) + 10 ^ e := by ring
    unfold gap at htie
    omega
  have hten : 0 < 10 ^ e := Nat.pow_pos (by decide)
  obtain ⟨k, -, hv⟩ | ⟨k, -, -, hv⟩ := h.exponent_cases
  · rw [hv] at hlow hhigh
    have hwidth : 10 ^ e ≤ 2 ^ k := by
      have := gap_le_of_nearestNat h.normal hlow
      have := gap_le_of_nearestNat h.normal hhigh
      unfold gap at *
      omega
    have hdvd : 2 ^ (k + 1) ∣ (2 * b + 1) * 5 ^ e * 2 ^ e := by
      rw [Nat.mul_assoc, ← Nat.mul_pow, ← htwice, hv, pow_succ]
      exact ⟨m.significand, by ring⟩
    have hodd : Nat.Coprime (2 ^ (k + 1)) ((2 * b + 1) * 5 ^ e) :=
      Nat.Coprime.pow_left _ (Nat.Coprime.mul_right (Nat.coprime_two_left.2 ⟨b, rfl⟩)
        (Nat.Coprime.pow_right _ (by decide)))
    have hexp : k + 1 ≤ e :=
      (Nat.pow_dvd_pow_iff_le_right (by decide)).1 (hodd.dvd_of_dvd_mul_left hdvd)
    have : 2 ^ k < 10 ^ e :=
      calc 2 ^ k < 2 ^ e := Nat.pow_lt_pow_right (by decide) hexp
        _ ≤ 10 ^ e := Nat.pow_le_pow_left (by decide) e
    omega
  · rw [nearestNat_eq_iff_of_lt hv] at hlow hhigh
    omega

/-- A multiple of a unit that shares the double lies beyond one of the two neighbours, which then shares it too. -/
theorem Magnitude.IsDouble.neighbour_of_dvd (h : m.IsDouble v) (hv : 0 < v) {b c e : Nat}
    (hle : b * 10 ^ e ≤ v) (hlt : v < (b + 1) * 10 ^ e) (hc : nearestNat c = v) (hdvd : 10 ^ e ∣ c) :
    (c ≤ b * 10 ^ e ∧ 0 < b ∧ nearestNat (b * 10 ^ e) = v) ∨
      ((b + 1) * 10 ^ e ≤ c ∧ nearestNat ((b + 1) * 10 ^ e) = v) := by
  have hself := h.nearestNat_self
  obtain ⟨j, rfl⟩ := hdvd
  rw [Nat.mul_comm] at hc ⊢
  have hj : 0 < j := by
    by_contra hzero
    obtain rfl : j = 0 := by omega
    rw [Nat.zero_mul, nearestNat_zero] at hc
    omega
  obtain hjb | hbj := Nat.lt_or_ge b j
  · have hge := Nat.mul_le_mul_right (10 ^ e) (Nat.succ_le_of_lt hjb)
    exact .inr ⟨hge, (nearestNat_between hlt.le hge (hself.trans hc.symm)).trans hc⟩
  · have hge := Nat.mul_le_mul_right (10 ^ e) hbj
    exact .inl ⟨hge, by omega, (nearestNat_between hge hle (hc.trans hself.symm)).trans hself⟩

/-- The search on one grid fails when no multiple of the unit shares the double, and otherwise finds the one nearest
to the double. -/
theorem Magnitude.IsDouble.onGrid_spec (h : m.IsDouble v) (hv : 0 < v) (e : Nat) :
    (m.interval.onGrid .up e = none ∧ ∀ c, nearestNat c = v → ¬ 10 ^ e ∣ c) ∨
      ∃ d : Nat, m.interval.onGrid .up e = some ⟨d, e⟩ ∧ NearestMultiple v (10 ^ e) (d * 10 ^ e) := by
  have hten : 0 < 10 ^ e := Nat.pow_pos (by decide)
  obtain ⟨b, hb⟩ : ∃ b, v / 10 ^ e = b := ⟨_, rfl⟩
  have hle : b * 10 ^ e ≤ v := hb ▸ Nat.div_mul_le_self v (10 ^ e)
  have hlt : v < (b + 1) * 10 ^ e := by
    rw [← hb, Nat.mul_comm]
    exact Nat.lt_mul_div_succ v hten
  have hneighbour := fun c => h.neighbour_of_dvd hv (c := c) hle hlt
  obtain ⟨hnone, hlow, hhigh⟩ | ⟨hsome, ⟨hpos, hlow⟩, hnearer⟩ | ⟨hsome, hhigh, hnearer⟩ := h.onGrid_cases hb
  · refine .inl ⟨hnone, fun c hc hdvd => ?_⟩
    obtain ⟨-, hlow'⟩ | ⟨-, hhigh'⟩ := hneighbour c hc hdvd
    · exact hlow hlow'
    · exact hhigh hhigh'
  · refine .inr ⟨b, hsome, Nat.mul_pos hpos hten, hlow, Nat.dvd_mul_left _ _, fun c hc hdvd hne => ?_⟩
    obtain ⟨hbelow, -⟩ | ⟨habove, hhigh⟩ := hneighbour c hc hdvd
    · unfold gap
      omega
    · have := hnearer hhigh
      unfold gap at *
      omega
  · refine .inr ⟨b + 1, hsome, by omega, hhigh, Nat.dvd_mul_left _ _, fun c hc hdvd hne => ?_⟩
    obtain ⟨hbelow, hpos, hlow⟩ | ⟨habove, -⟩ := hneighbour c hc hdvd
    · have := hnearer hlow hpos
      have := h.gap_ne hlow hhigh hle hlt.le
      unfold gap at *
      omega
    · unfold gap
      omega

/-! ### The coarsest grid -/

/-- The integer that a double is written as: it ends in as many zeros as any integer that shares the double, and it
is the nearest to the double of those that do. -/
structure Shortest (v s : Nat) : Prop where
  rounds : nearestNat s = v
  roundest : ∀ c, nearestNat c = v → ∀ k, 10 ^ k ∣ c → 10 ^ k ∣ s
  closest : ∀ c, nearestNat c = v → (∀ k, 10 ^ k ∣ s → 10 ^ k ∣ c) → c ≠ s → gap s v < gap c v

theorem Shortest.unique {s s' : Nat} (h : Shortest v s) (h' : Shortest v s') : s = s' := by
  by_contra hne
  have hlt := h.closest s' h'.rounds (fun k => h'.roundest s h.rounds k) (Ne.symm hne)
  have hlt' := h'.closest s h.rounds (fun k => h.roundest s' h'.rounds k) hne
  omega

theorem NearestMultiple.shortest {s e : Nat} (h : NearestMultiple v (10 ^ e) s)
    (hcoarsest : ∀ k, e < k → ∀ c, nearestNat c = v → ¬ 10 ^ k ∣ c) : Shortest v s where
  rounds := h.rounds
  roundest c hc k hdvd := by
    obtain hk | hk := Nat.lt_or_ge e k
    · exact absurd hdvd (hcoarsest k hk c hc)
    · exact (Nat.pow_dvd_pow 10 hk).trans h.dvd
  closest c hc hdvd hne := h.closest c hc (hdvd e h.dvd) hne

/-- Seventeen digits are enough for every double. -/
theorem Magnitude.IsDouble.exists_multiple (h : m.IsDouble v) {e : Nat} (hdigits : 10 ^ 16 * 10 ^ e ≤ v) :
    ∃ c, nearestNat c = v ∧ 10 ^ e ∣ c := by
  have hten : 0 < 10 ^ e := Nat.pow_pos (by decide)
  obtain ⟨k, -, hv⟩ | ⟨k, -, -, hv⟩ := h.exponent_cases
  · -- the neighbours are less than a place apart, so one of them is within half a place
    have hwidth : v < 2 ^ 53 * 2 ^ k := hv ▸ Nat.mul_lt_mul_of_pos_right h.normal.high (Nat.two_pow_pos k)
    have hle : v / 10 ^ e * 10 ^ e ≤ v := Nat.div_mul_le_self v (10 ^ e)
    have hlt : v < v / 10 ^ e * 10 ^ e + 10 ^ e := Nat.lt_div_mul_add hten
    have hround (c : Nat) := nearestNat_eq_iff (p := c) (q := k) h.normal.low h.normal.high
    rw [← hv, Nat.sub_mul, Nat.add_mul, Nat.mul_assoc, ← hv] at hround
    obtain hnear | hfar := Nat.lt_or_ge (2 * (v / 10 ^ e * 10 ^ e + 10 ^ e - v)) (2 ^ k)
    · exact ⟨v / 10 ^ e * 10 ^ e + 10 ^ e, (hround _).2 (by omega),
        Nat.dvd_add (Nat.dvd_mul_left _ _) (Nat.dvd_refl _)⟩
    · have hgap : gapBelow m.significand = 2 := by
        rw [gapBelow, if_neg]
        intro hs
        rw [hs] at hv
        omega
      rw [hgap] at hround
      exact ⟨v / 10 ^ e * 10 ^ e, (hround _).2 (by omega), Nat.dvd_mul_left _ _⟩
  · omega

theorem not_dvd_of_lt {c k t : Nat} (hv : 0 < v) (hvt : v < 10 ^ (t + 1)) (ht : t < 22) (hk : t < k)
    (hc : nearestNat c = v) : ¬ 10 ^ k ∣ c := by
  intro hdvd
  have hpos : 0 < c := by
    by_contra hzero
    rw [Nat.eq_zero_of_not_pos hzero, nearestNat_zero] at hc
    omega
  have hle : 10 ^ (t + 1) ≤ c := (Nat.pow_le_pow_right (by decide) hk).trans (Nat.le_of_dvd hpos hdvd)
  have hnear := nearestNat_mono hle
  rw [nearestNat_ten_pow ht, hc] at hnear
  omega

theorem exists_digits (hv : 0 < v) : ∃ t, digitCount v = t + 1 ∧ 10 ^ t ≤ v ∧ v < 10 ^ (t + 1) := by
  have hpos : 0 < digitCount v := Nat.length_toDigits_pos
  have hle (k : Nat) (hk : 0 < k) : digitCount v ≤ k ↔ v < 10 ^ k := Nat.length_toDigits_le_iff (by decide) hk
  obtain ⟨t, ht⟩ := Nat.exists_eq_add_of_lt hpos
  refine ⟨t, by omega, ?_, (hle _ (by omega)).1 (by omega)⟩
  obtain rfl | hpos' := Nat.eq_zero_or_pos t
  · exact hv
  · exact Nat.le_of_not_lt fun hlt => by
      have := (hle t hpos').2 hlt
      omega

/-! ### The search -/

theorem Magnitude.IsDouble.leadingExponent_eq (h : m.IsDouble v) (hv : 0 < v) {t : Nat} (ht : digitCount v = t + 1) :
    leadingExponent m.interval.value m.interval.den = t := by
  have hle : m.interval.den ≤ v * m.interval.den := Nat.le_mul_of_pos_left _ hv
  rw [leadingExponent, h.value_interval, if_pos hle, Nat.mul_div_cancel _ m.den_pos, ht]
  omega

/-- A search over the first numbers that is bound to succeed stops at its first success. -/
theorem exists_findSome?_range {α : Type} {f : Nat → Option α} {i n : Nat} (hi : i < n) (hfi : f i ≠ none) :
    ∃ j x, j ≤ i ∧ f j = some x ∧ (∀ k, k < j → f k = none) ∧ (List.range n).findSome? f = some x := by
  classical
  have hex : ∃ j, f j ≠ none := ⟨i, hfi⟩
  have hnone (k : Nat) (hk : k < Nat.find hex) : f k = none := not_not.1 (Nat.find_min hex hk)
  obtain ⟨x, hx⟩ := Option.ne_none_iff_exists'.1 (Nat.find_spec hex)
  have hle : Nat.find hex ≤ i := Nat.find_min' hex hfi
  refine ⟨Nat.find hex, x, hle, hx, hnone, ?_⟩
  obtain ⟨rest, hn⟩ := Nat.exists_eq_add_of_lt (hle.trans_lt hi)
  rw [hn, Nat.add_assoc, List.range_add, List.findSome?_append,
    List.findSome?_eq_none_iff.2 fun k hk => hnone k (List.mem_range.1 hk), Option.none_or,
    List.range_succ_eq_map, List.map_cons, List.findSome?_cons, Nat.add_zero, hx]

theorem Magnitude.IsDouble.exists_multiple_finest (h : m.IsDouble v) {t : Nat} (hlow : 10 ^ t ≤ v) :
    ∃ c, nearestNat c = v ∧ 10 ^ (t - min t 16) ∣ c := by
  obtain hsmall | hlarge := Nat.le_total t 16
  · refine ⟨v, h.nearestNat_self, ?_⟩
    rw [Nat.min_eq_left hsmall, Nat.sub_self, Nat.pow_zero]
    exact Nat.one_dvd v
  · apply h.exists_multiple
    rwa [Nat.min_eq_right hlarge, ← Nat.pow_add, Nat.add_sub_cancel' hlarge]

/-- The search ends on the coarsest grid that has an integer of the double. -/
theorem Magnitude.IsDouble.exists_shortest (h : m.IsDouble v) (hv : 0 < v) (hmax : v ≤ 2 ^ 64) :
    ∃ d e : Nat, m.shortest .up = Scaled.trim 18 ⟨d, e⟩ ∧ 0 < d ∧ Shortest v (d * 10 ^ e) := by
  obtain ⟨t, hcount, hlow, hhigh⟩ := exists_digits hv
  have ht : t < 20 := by
    have hlt : 10 ^ t < 10 ^ 20 := hlow.trans_lt (hmax.trans_lt (by decide))
    exact (Nat.pow_lt_pow_iff_right (by decide)).1 hlt
  let f := fun (count : Nat) => m.interval.onGrid .up ((t : Int) - count)
  have hf {i : Nat} (hi : i ≤ t) : f i = m.interval.onGrid .up (t - i : Nat) := by
    rw [Int.ofNat_sub hi]
  have hfails {i : Nat} (hi : i ≤ t) (hnone : f i = none) : ∀ c, nearestNat c = v → ¬ 10 ^ (t - i) ∣ c := by
    rw [hf hi] at hnone
    obtain ⟨-, hall⟩ | ⟨d, hsome, -⟩ := h.onGrid_spec hv (t - i)
    · exact hall
    · rw [hnone] at hsome
      cases hsome
  have hfinest : f (min t 16) ≠ none := by
    intro hnone
    obtain ⟨c, hc, hdvd⟩ := h.exists_multiple_finest hlow
    exact hfails (Nat.min_le_left t 16) hnone c hc hdvd
  obtain ⟨j, x, hj, hx, hmin, hfound⟩ := exists_findSome?_range (n := 17) (by omega) hfinest
  have hjt : j ≤ t := hj.trans (Nat.min_le_left t 16)
  rw [hf hjt] at hx
  obtain ⟨hnone, -⟩ | ⟨d, hsome, hnearest⟩ := h.onGrid_spec hv (t - j)
  · rw [hnone] at hx
    cases hx
  obtain rfl : x = ⟨d, (t - j : Nat)⟩ := Option.some.inj (hx.symm.trans hsome)
  refine ⟨d, t - j, ?_, Nat.pos_of_mul_pos_right hnearest.pos, hnearest.shortest fun k hk c hc => ?_⟩
  · unfold shortest
    dsimp only
    rw [h.leadingExponent_eq hv hcount, hfound, Option.getD_some]
  · -- coarser grids were searched before, or lie above the double
    obtain htk | hkt := Nat.lt_or_ge t k
    · exact not_dvd_of_lt hv hhigh (by omega) htk hc
    · have hskipped := hfails (Nat.sub_le t k) (hmin (t - k) (by omega))
      rw [Nat.sub_sub_self hkt] at hskipped
      exact hskipped c hc

/-! ### The text of an integer -/

theorem exists_trim_eq (fuel : Nat) {d e : Nat} (hd : 0 < d) :
    ∃ d' e' : Nat, Scaled.trim fuel ⟨d, e⟩ = ⟨d', e'⟩ ∧ 0 < d' ∧ d' * 10 ^ e' = d * 10 ^ e := by
  induction fuel generalizing d e with
  | zero => exact ⟨d, e, rfl, hd, rfl⟩
  | succ fuel ih =>
    unfold Scaled.trim
    dsimp only
    split
    case isTrue hzero =>
      simp only [Bool.and_eq_true, decide_eq_true_eq] at hzero
      obtain ⟨d', e', htrim, hd', heq⟩ := ih (d := d / 10) (e := e + 1) (by omega)
      refine ⟨d', e', htrim, hd', heq.trans ?_⟩
      rw [pow_succ', ← Nat.mul_assoc, Nat.div_mul_cancel (Nat.dvd_of_mod_eq_zero hzero.1)]
    case isFalse => exact ⟨d, e, rfl, hd, rfl⟩

theorem naturalText_mul_ten_pow {d : Nat} (hd : 0 < d) (e : Nat) :
    naturalText (d * 10 ^ e) = naturalText d ++ List.replicate e '0' := by
  induction e with
  | zero => rw [Nat.pow_zero, Nat.mul_one, List.replicate_zero, List.append_nil]
  | succ e ih =>
    have hpos : 0 < d * 10 ^ e := Nat.mul_pos hd (Nat.pow_pos (by decide))
    have happend := Nat.toDigits_append_toDigits (b := 10) (d := 0) (by decide) hpos (by decide)
    rw [List.replicate_succ', ← List.append_assoc, ← ih, naturalText, naturalText, pow_succ, ← Nat.mul_assoc,
      Nat.mul_comm _ 10]
    exact happend.symm

theorem scaledText_plain {d : Nat} (hd : 0 < d) (e : Nat) :
    Layout.plain.scaledText ⟨d, e⟩ = naturalText (d * 10 ^ e) := by
  have hplain : Layout.plain.scaledText ⟨d, e⟩ = positionalText (naturalText d) e false := rfl
  rw [hplain, positionalText, if_pos (Int.natCast_nonneg e), Int.toNat_natCast, naturalText_mul_ten_pow hd]
  simp

theorem Magnitude.IsDouble.exists_text (h : m.IsDouble v) (hv : 0 < v) (hmax : v ≤ 2 ^ 64) :
    ∃ s, Layout.plain.scaledText (m.shortest .up) = naturalText s ∧ Shortest v s := by
  obtain ⟨d, e, hshortest, hd, hspec⟩ := h.exists_shortest hv hmax
  obtain ⟨d', e', htrim, hd', heq⟩ := exists_trim_eq 18 (e := e) hd
  refine ⟨d * 10 ^ e, ?_, hspec⟩
  rw [hshortest, htrim, scaledText_plain hd', heq]

end IsDouble

theorem naturalText_inj {n n' : Nat} : naturalText n = naturalText n' ↔ n = n' := by
  refine ⟨fun heq => ?_, fun heq => by rw [heq]⟩
  rw [← Nat.ofDigitChars_ten_toDigits (n := n), ← Nat.ofDigitChars_ten_toDigits (n := n'), ← naturalText,
    heq, ← naturalText]

theorem isDigit_of_mem_naturalText {n : Nat} {c : Char} (hc : c ∈ naturalText n) : c.isDigit = true :=
  Nat.isDigit_of_mem_toDigits (by decide) (by decide) hc

theorem integerText_inj {a b : Int} : integerText a = integerText b ↔ a = b := by
  refine ⟨fun heq => ?_, fun heq => by rw [heq]⟩
  have hsign (n n' : Nat) : '-' :: naturalText n ≠ naturalText n' := fun hminus =>
    absurd (isDigit_of_mem_naturalText (hminus ▸ List.mem_cons_self)) (by decide)
  unfold integerText at heq
  split at heq <;> split at heq
  · have := naturalText_inj.1 (List.cons_inj_right _ |>.1 heq)
    omega
  · exact absurd heq (hsign _ _)
  · exact absurd heq.symm (hsign _ _)
  · have := naturalText_inj.1 heq
    omega

end Governance.Decimal
