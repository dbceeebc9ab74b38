import Mathlib.Tactic.Linarith
import Mathlib.Tactic.Ring

/-!
# The double nearest to an integer

A double holds the integers of at most fifty-three significant bits. An integer that has more is rounded to a
multiple of the place of its fifty-third bit, to the even multiple when two are equally near. The result never
decreases as the integer grows, so the integers that share their nearest double stand side by side, and how far they
reach is half a place on either side of the double; below a power of two, where the places are half as wide, it is
a quarter.
-/

namespace Governance.Decimal

/-- The number of units nearest to a number, the even one of two that are equally near. -/
def halfEven (n unit : Nat) : Nat :=
  if 2 * (n % unit) < unit then n / unit
  else if unit < 2 * (n % unit) then n / unit + 1
  else n / unit + n / unit % 2

/-- The place of the fifty-third significant bit of a number. -/
def lastPlace (n : Nat) : Nat := 2 ^ (n.log2 - 52)

/-- The double nearest to a natural number. -/
def nearestNat (n : Nat) : Nat := halfEven n (lastPlace n) * lastPlace n

/-- The double nearest to an integer. -/
def nearest (n : Int) : Int := n.sign * nearestNat n.natAbs

/-! ### Rounding to a multiple of a unit -/

section HalfEven

variable {n n' u m : Nat}

theorem halfEven_eq_iff (hu : 0 < u) :
    halfEven n u = m ↔ 2 * (m * u) ≤ 2 * n + u ∧ 2 * n ≤ 2 * (m * u) + u ∧
      (2 * n + u = 2 * (m * u) ∨ 2 * n = 2 * (m * u) + u → m % 2 = 0) := by
  have hn : n / u * u + n % u = n := Nat.div_add_mod' n u
  have hr : n % u < u := Nat.mod_lt n hu
  unfold halfEven
  generalize n / u = q at *
  generalize n % u = r at *
  have hsucc : (q + 1) * u = q * u + u := Nat.succ_mul q u
  constructor
  · rintro rfl
    split
    · omega
    split
    · rw [hsucc]; omega
    · -- halfway between `q` and `q + 1`
      obtain hq | hq := Nat.mod_two_eq_zero_or_one q
      · rw [hq, Nat.add_zero]; omega
      · rw [hq, hsucc]; omega
  · rintro ⟨hlow, hhigh, htie⟩
    have hq : q ≤ m := by
      by_contra hlt
      have : (m + 1) * u ≤ q * u := Nat.mul_le_mul_right u (by omega)
      rw [Nat.succ_mul] at this
      have : r = 0 := by omega
      have : m % 2 = 0 := htie (by omega)
      omega
    have hm : m ≤ q + 1 := by
      by_contra hlt
      have : (q + 1 + 1) * u ≤ m * u := Nat.mul_le_mul_right u (by omega)
      rw [Nat.succ_mul, hsucc] at this
      omega
    obtain rfl | rfl : m = q ∨ m = q + 1 := by omega
    · split
      · rfl
      split <;> omega
    · rw [hsucc] at hlow hhigh htie
      split
      · omega
      split <;> omega

theorem halfEven_mul_self (hu : 0 < u) : halfEven (m * u) u = m := by
  rw [halfEven_eq_iff hu]
  omega

theorem halfEven_mul_right {c : Nat} (hc : 0 < c) : halfEven (n * c) (u * c) = halfEven n u := by
  unfold halfEven
  rw [Nat.mul_div_mul_right _ _ hc, Nat.mul_mod_mul_right, ← Nat.mul_assoc]
  simp only [Nat.mul_lt_mul_right hc]

theorem halfEven_mono (hu : 0 < u) (hle : n ≤ n') : halfEven n u ≤ halfEven n' u := by
  obtain ⟨hlow, -, htie⟩ := (halfEven_eq_iff hu (n := n)).1 rfl
  obtain ⟨-, hhigh', htie'⟩ := (halfEven_eq_iff hu (n := n')).1 rfl
  by_contra hlt
  -- two neighbours can only meet halfway between them, where both would be even
  have hmul : (halfEven n' u + 1) * u ≤ halfEven n u * u := Nat.mul_le_mul_right u (by omega)
  rw [Nat.succ_mul] at hmul
  have heq : halfEven n u * u = (halfEven n' u + 1) * u := by rw [Nat.succ_mul]; omega
  have hsucc : halfEven n u = halfEven n' u + 1 := Nat.eq_of_mul_eq_mul_right hu heq
  have heven := htie (by omega)
  have heven' := htie' (by omega)
  omega

end HalfEven

/-! ### The nearest double -/

section NearestNat

variable {n n' p m q : Nat}

theorem lastPlace_pos (n : Nat) : 0 < lastPlace n := Nat.two_pow_pos _

theorem lastPlace_of_lt (hn : n < 2 ^ 53) : lastPlace n = 1 := by
  have hlog : n.log2 < 53 := by
    by_cases hzero : n = 0
    · subst hzero; decide
    · exact (Nat.log2_lt hzero).2 hn
  rw [lastPlace, Nat.sub_eq_zero_of_le (Nat.le_of_lt_succ hlog), Nat.pow_zero]

theorem lastPlace_eq (hlow : 2 ^ (q + 52) ≤ n) (hhigh : n < 2 ^ (q + 53)) : lastPlace n = 2 ^ q := by
  have hlog : n.log2 = q + 52 :=
    (Nat.log2_eq_iff (by have := Nat.two_pow_pos (q + 52); omega)).2 ⟨hlow, hhigh⟩
  rw [lastPlace, hlog, Nat.add_sub_cancel]

/-- The places of a number that is not small begin fifty-two bits below its first. -/
theorem exists_place (hn : 2 ^ 52 ≤ n) :
    ∃ k, lastPlace n = 2 ^ k ∧ 2 ^ 52 * 2 ^ k ≤ n ∧ n < 2 ^ 53 * 2 ^ k := by
  have hzero : n ≠ 0 := by omega
  have hlog : 52 ≤ n.log2 := (Nat.le_log2 hzero).2 hn
  refine ⟨n.log2 - 52, rfl, ?_, ?_⟩
  · rw [← Nat.pow_add, Nat.add_sub_cancel' hlog]
    exact Nat.log2_self_le hzero
  · rw [← Nat.pow_add, show 53 + (n.log2 - 52) = n.log2 + 1 by omega]
    exact Nat.lt_log2_self

theorem nearestNat_of_dvd (hdvd : lastPlace n ∣ n) : nearestNat n = n := by
  obtain ⟨k, hk⟩ := hdvd
  have hmul : halfEven (k * lastPlace n) (lastPlace n) = k := halfEven_mul_self (lastPlace_pos n)
  rw [Nat.mul_comm k, ← hk] at hmul
  rw [nearestNat, hmul, Nat.mul_comm, ← hk]

theorem nearestNat_of_lt (hn : n < 2 ^ 53) : nearestNat n = n :=
  nearestNat_of_dvd (by rw [lastPlace_of_lt hn]; exact Nat.one_dvd n)

theorem nearestNat_zero : nearestNat 0 = 0 := nearestNat_of_lt (by decide)

theorem halfEven_lastPlace_bounds {k : Nat} (hlow : 2 ^ 52 * 2 ^ k ≤ n) (hhigh : n < 2 ^ 53 * 2 ^ k) :
    2 ^ 52 ≤ halfEven n (2 ^ k) ∧ halfEven n (2 ^ k) ≤ 2 ^ 53 := by
  have hpos : 0 < 2 ^ k := Nat.two_pow_pos k
  have hbelow := halfEven_mono hpos hlow
  have habove := halfEven_mono hpos hhigh.le
  rw [halfEven_mul_self hpos] at hbelow habove
  exact ⟨hbelow, habove⟩

theorem nearestNat_bounds {l : Nat} (hlow : 2 ^ l ≤ n) (hhigh : n < 2 ^ (l + 1)) :
    2 ^ l ≤ nearestNat n ∧ nearestNat n ≤ 2 ^ (l + 1) := by
  obtain hl | hl := Nat.lt_or_ge l 52
  · have hn : n < 2 ^ 53 := hhigh.trans_le (Nat.pow_le_pow_right (by decide) (by omega))
    rw [nearestNat_of_lt hn]
    omega
  · obtain ⟨k, rfl⟩ := Nat.exists_eq_add_of_le hl
    have hplace : lastPlace n = 2 ^ k :=
      lastPlace_eq (by rwa [Nat.add_comm]) (by rwa [show k + 53 = 52 + k + 1 by omega])
    rw [Nat.add_right_comm, Nat.pow_add] at hhigh ⊢
    rw [Nat.pow_add] at hlow ⊢
    obtain ⟨hbelow, habove⟩ := halfEven_lastPlace_bounds hlow hhigh
    rw [nearestNat, hplace]
    exact ⟨Nat.mul_le_mul_right _ hbelow, Nat.mul_le_mul_right _ habove⟩

theorem nearestNat_mono (hle : n ≤ n') : nearestNat n ≤ nearestNat n' := by
  obtain rfl | hpos := Nat.eq_zero_or_pos n
  · rw [nearestNat_zero]
    exact Nat.zero_le _
  have hself := Nat.log2_self_le (n := n) (by omega)
  obtain heq | hlt := ((Nat.le_log2 (by omega)).2 (hself.trans hle)).eq_or_lt
  · have hplace : lastPlace n = lastPlace n' := by rw [lastPlace, heq, lastPlace]
    rw [nearestNat, nearestNat, hplace]
    exact Nat.mul_le_mul_right _ (halfEven_mono (lastPlace_pos n') hle)
  · obtain ⟨-, habove⟩ := nearestNat_bounds hself Nat.lt_log2_self
    obtain ⟨hbelow, -⟩ := nearestNat_bounds (Nat.log2_self_le (n := n') (by omega)) Nat.lt_log2_self
    calc nearestNat n ≤ 2 ^ (n.log2 + 1) := habove
      _ ≤ 2 ^ n'.log2 := Nat.pow_le_pow_right (by decide) hlt
      _ ≤ nearestNat n' := hbelow

/-- The integers that share their nearest double stand side by side. -/
theorem nearestNat_between {a b c : Nat} (hab : a ≤ b) (hbc : b ≤ c) (heq : nearestNat a = nearestNat c) :
    nearestNat b = nearestNat c :=
  le_antisymm (nearestNat_mono hbc) (heq ▸ nearestNat_mono hab)

/-! ### The integers around a double -/

/-- Fifty-three bits are kept, wherever they stand. -/
theorem nearestNat_mul_two_pow (hm : m ≤ 2 ^ 53) : nearestNat (m * 2 ^ q) = m * 2 ^ q := by
  apply nearestNat_of_dvd
  obtain rfl | hpos := Nat.eq_zero_or_pos m
  · rw [Nat.zero_mul]
    exact Nat.dvd_zero _
  obtain rfl | hlt := hm.eq_or_lt
  · rw [← Nat.pow_add, lastPlace, Nat.log2_two_pow]
    exact Nat.pow_dvd_pow 2 (by omega)
  · have hlog : (m * 2 ^ q).log2 < 53 + q := by
      rw [Nat.log2_lt (Nat.mul_pos hpos (Nat.two_pow_pos q)).ne', Nat.pow_add]
      exact Nat.mul_lt_mul_of_pos_right hlt (Nat.two_pow_pos q)
    exact Nat.dvd_mul_left_of_dvd (Nat.pow_dvd_pow 2 (by omega)) m

theorem nearestNat_ten_pow {k : Nat} (hk : k ≤ 22) : nearestNat (10 ^ k) = 10 ^ k := by
  have hfive : 5 ^ k ≤ 2 ^ 53 := (Nat.pow_le_pow_right (by decide) hk).trans (by decide)
  have := nearestNat_mul_two_pow (q := k) hfive
  rwa [← Nat.mul_pow] at this

theorem nearestNat_eq_iff_of_lt {v : Nat} (hv : v < 2 ^ 53) : nearestNat p = v ↔ p = v := by
  refine ⟨?_, fun heq => by rw [heq, nearestNat_of_lt hv]⟩
  rintro rfl
  obtain hp | hp := Nat.lt_or_ge p (2 ^ 53)
  · rw [nearestNat_of_lt hp]
  · have hnear := nearestNat_mono hp
    rw [← Nat.one_mul (2 ^ 53), nearestNat_mul_two_pow (by decide)] at hnear
    omega

/-- The quarters of a place that a double reaches below itself. -/
def gapBelow (m : Nat) : Nat := if m = 2 ^ 52 then 1 else 2

theorem gapBelow_bounds (m : Nat) : 0 < gapBelow m ∧ gapBelow m ≤ 2 := by
  unfold gapBelow
  split <;> omega

theorem nearestNat_eq_iff_of_place {k : Nat} (hplace : lastPlace p = 2 ^ k) :
    nearestNat p = m * 2 ^ k ↔ 2 * (m * 2 ^ k) ≤ 2 * p + 2 ^ k ∧ 2 * p ≤ 2 * (m * 2 ^ k) + 2 ^ k ∧
      (2 * p + 2 ^ k = 2 * (m * 2 ^ k) ∨ 2 * p = 2 * (m * 2 ^ k) + 2 ^ k → m % 2 = 0) := by
  rw [nearestNat, hplace, Nat.mul_left_inj (Nat.two_pow_pos k).ne', halfEven_eq_iff (Nat.two_pow_pos k)]

/-- Below a power of two the places are half as wide. -/
theorem nearestNat_eq_two_pow_iff (hp : p < 2 ^ 52 * 2 ^ q) :
    nearestNat p = 2 ^ 52 * 2 ^ q ↔ (4 * 2 ^ 52 - 1) * 2 ^ q ≤ 4 * p := by
  cases q with
  | zero =>
    rw [nearestNat_of_lt (by omega)]
    omega
  | succ q =>
    have hpos := Nat.two_pow_pos q
    have hsucc : 2 ^ (q + 1) = 2 ^ q * 2 := pow_succ 2 q
    rw [hsucc] at hp ⊢
    obtain hlow | hlow := Nat.lt_or_ge p (2 ^ 52 * 2 ^ q)
    · have hnear := nearestNat_mono hlow.le
      rw [nearestNat_mul_two_pow (by decide)] at hnear
      omega
    · have hplace : lastPlace p = 2 ^ q :=
        lastPlace_eq (by rwa [Nat.add_comm, Nat.pow_add]) (by rw [Nat.add_comm, Nat.pow_add]; omega)
      rw [show 2 ^ 52 * (2 ^ q * 2) = 2 ^ 53 * 2 ^ q by ring, nearestNat_eq_iff_of_place hplace]
      omega

/-- The integers nearest to a double reach half a place up from it and half a place down, or a quarter where the
places below are half as wide; the ends belong to it when its significand is even. -/
theorem nearestNat_eq_iff (hlow : 2 ^ 52 ≤ m) (hhigh : m < 2 ^ 53) :
    nearestNat p = m * 2 ^ q ↔
      (4 * m - gapBelow m) * 2 ^ q ≤ 4 * p ∧ 4 * p ≤ (4 * m + 2) * 2 ^ q ∧
        (4 * p = (4 * m - gapBelow m) * 2 ^ q ∨ 4 * p = (4 * m + 2) * 2 ^ q → m % 2 = 0) := by
  have hpos := Nat.two_pow_pos q
  have hup : (4 * m + 2) * 2 ^ q = 4 * (m * 2 ^ q) + 2 * 2 ^ q := by ring
  have hdown : m ≠ 2 ^ 52 → (4 * m - gapBelow m) * 2 ^ q = 4 * (m * 2 ^ q) - 2 * 2 ^ q := by
    intro hm
    rw [gapBelow, if_neg hm, Nat.sub_mul, Nat.mul_assoc]
  have hmul : 2 ^ 52 * 2 ^ q ≤ m * 2 ^ q := Nat.mul_le_mul_right _ hlow
  have hmul' : (m + 1) * 2 ^ q ≤ 2 ^ 53 * 2 ^ q := Nat.mul_le_mul_right _ hhigh
  rw [Nat.succ_mul] at hmul'
  obtain hp | hp := Nat.lt_or_ge p (2 ^ 52 * 2 ^ q)
  · by_cases hm : m = 2 ^ 52
    · subst hm
      rw [nearestNat_eq_two_pow_iff hp, hup, gapBelow, if_pos rfl]
      omega
    · have hnear := nearestNat_mono hp.le
      rw [nearestNat_mul_two_pow (by decide)] at hnear
      have hmul'' : (2 ^ 52 + 1) * 2 ^ q ≤ m * 2 ^ q := Nat.mul_le_mul_right _ (by omega)
      rw [hdown hm]
      omega
  obtain hp' | hp' := Nat.lt_or_ge p (2 ^ 53 * 2 ^ q)
  · have hplace : lastPlace p = 2 ^ q :=
      lastPlace_eq (by rwa [Nat.add_comm, Nat.pow_add]) (by rwa [Nat.add_comm, Nat.pow_add])
    rw [nearestNat_eq_iff_of_place hplace, hup]
    by_cases hm : m = 2 ^ 52
    · subst hm
      rw [gapBelow, if_pos rfl]
      omega
    · rw [hdown hm]
      omega
  · have hnear := nearestNat_mono hp'
    rw [nearestNat_mul_two_pow le_rfl] at hnear
    rw [hup]
    omega

end NearestNat

/-! ### Integers of either sign -/

section Nearest

variable {a b : Int}

theorem nearestNat_pos {n : Nat} : 0 < nearestNat n ↔ 0 < n := by
  rw [Nat.pos_iff_ne_zero, Nat.pos_iff_ne_zero, Ne, nearestNat_eq_iff_of_lt (by decide)]

theorem sign_nearest (a : Int) : (nearest a).sign = a.sign := by
  obtain rfl | hne := eq_or_ne a 0
  · rfl
  · have hpos : (0 : Int) < nearestNat a.natAbs := Int.natCast_pos.2 (nearestNat_pos.2 (Int.natAbs_pos.2 hne))
    rw [nearest, Int.sign_mul, Int.sign_sign, Int.sign_eq_one_of_pos hpos, Int.mul_one]

theorem natAbs_nearest (a : Int) : (nearest a).natAbs = nearestNat a.natAbs := by
  obtain rfl | hne := eq_or_ne a 0
  · rfl
  · rw [nearest, Int.natAbs_mul, Int.natAbs_sign_of_ne_zero hne, Int.natAbs_natCast, Nat.one_mul]

theorem nearest_eq_iff :
    nearest a = nearest b ↔ a.sign = b.sign ∧ nearestNat a.natAbs = nearestNat b.natAbs := by
  constructor
  · intro heq
    rw [← sign_nearest a, ← sign_nearest b, ← natAbs_nearest, ← natAbs_nearest, heq]
    exact ⟨rfl, rfl⟩
  · rintro ⟨hsign, hnear⟩
    rw [nearest, nearest, hsign, hnear]

/-- An integer of at most fifty-three bits shares its double with no other integer. -/
theorem nearest_eq_iff_of_lt (hsmall : a.natAbs < 2 ^ 53 ∨ b.natAbs < 2 ^ 53) : nearest a = nearest b ↔ a = b := by
  refine ⟨fun heq => ?_, fun heq => by rw [heq]⟩
  obtain ⟨hsign, hnear⟩ := nearest_eq_iff.1 heq
  have habs : a.natAbs = b.natAbs := by
    obtain ha | hb := hsmall
    · rw [nearestNat_of_lt ha, eq_comm, nearestNat_eq_iff_of_lt ha] at hnear
      exact hnear.symm
    · rwa [nearestNat_of_lt hb, nearestNat_eq_iff_of_lt hb] at hnear
  rw [← Int.sign_mul_natAbs a, ← Int.sign_mul_natAbs b, hsign, habs]

end Nearest

end Governance.Decimal
