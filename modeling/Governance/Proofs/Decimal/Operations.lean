import Governance.Proofs.Decimal.Doubles
import Governance.Time.Instant

/-!
# Operations on doubles

When products leave the range of doubles, how doubles compare, and why sums and quotients of positive
doubles are positive.
-/

namespace Governance.Decimal

open Float.Model Float.Model.UnpackedFloat

/-!
## Products of doubles

A product of finite doubles can leave their range, and an infinity that meets nought is no number any
more. So a product is multiplied out factor by factor: it stays what is no number, an infinity stays one
as long as no factor is nought, and the whole product is no number exactly when it had overflowed before a
factor of nought came.

Comparisons go by the numbers that doubles unpack to. Unless one of two doubles is no number, one order or
the other holds between them.
-/

/-! ### Kinds of doubles -/

theorem isNaN_eq (x : Float) : x.isNaN = x.toModel.unpack.isNaN := rfl

theorem isInf_eq (x : Float) : x.isInf = x.toModel.unpack.isInf := rfl

theorem isFinite_eq (x : Float) : x.isFinite = x.toModel.unpack.isFinite := rfl

def isNought : UnpackedFloat → Bool
  | .zero _ => true
  | _ => false

theorem beq_zero_eq (x : Float) : (x == 0) = isNought x.toModel.unpack := by
  change UnpackedFloat.beq x.toModel.unpack (.zero .positive) = _
  cases x.toModel.unpack with
  | notANumber => rfl
  | infinity s => cases s <;> rfl
  | zero s => rfl
  | finite s m e hm => cases s <;> rfl

theorem isNaN_of_isFinite {x : Float} (hx : x.isFinite = true) : x.isNaN = false := by
  rw [isFinite_eq] at hx
  rw [isNaN_eq]
  cases hu : x.toModel.unpack with
  | notANumber => simp [hu, UnpackedFloat.isFinite] at hx
  | _ => rfl

theorem isInf_of_isFinite {x : Float} (hx : x.isFinite = true) : x.isInf = false := by
  rw [isFinite_eq] at hx
  rw [isInf_eq]
  cases hu : x.toModel.unpack with
  | infinity s => simp [hu, UnpackedFloat.isFinite] at hx
  | _ => rfl

/-- Integers of at most sixty-four bits are far from the largest doubles. -/
theorem isFinite_floatOfInt {a : Int} (hexact : Number.isExact a = true) :
    (Number.floatOfInt a).isFinite = true := by
  by_cases hzero : a = 0
  · subst hzero
    decide
  · obtain ⟨m, q, h, heq, -⟩ := exists_ofNat_eq (Int.natAbs_pos.2 hzero) (natAbs_lt_of_isExact hexact)
    have hfinite (s : Sign) :
        (Float.ofModel (Float.Model.pack (.finite s m q h.pos))).isFinite = true :=
      congrArg UnpackedFloat.isFinite (h.unpack_pack s)
    rw [Number.floatOfInt, heq]
    split
    · rw [h.neg_eq]
      exact hfinite _
    · exact hfinite .positive

/-! ### Packing -/

theorem unpack_pack_infinity (s : Sign) : (Float.Model.pack (.infinity s)).unpack = .infinity s := by
  cases s <;> rfl

theorem unpack_pack_zero (s : Sign) : (Float.Model.pack (.zero s)).unpack = .zero s := by
  cases s <;> rfl

theorem isNaN_unpack_packComponents (s : Sign) {e : BitVec 11} (f : BitVec 52) (he : e ≠ -1#11) :
    (UnpackedFloat.unpack .binary64 (packComponents .binary64 s e f)).isNaN = false := by
  rw [UnpackedFloat.unpack, unpackExponent_packComponents, if_neg he]
  split_ifs <;> rfl

/-- A number may become an infinity when it is packed, but it stays a number. -/
theorem isNaN_unpack_pack (u : UnpackedFloat) : (Float.Model.pack u).unpack.isNaN = u.isNaN := by
  cases u with
  | notANumber => rfl
  | infinity s => rw [unpack_pack_infinity]
  | zero s => rw [unpack_pack_zero]
  | finite s m e hm =>
    change (UnpackedFloat.unpack .binary64 (UnpackedFloat.pack .binary64 _)).isNaN = false
    rw [UnpackedFloat.pack]
    dsimp only
    split_ifs with hlarge hnormal
    · exact congrArg UnpackedFloat.isNaN (unpack_pack_infinity s)
    · refine isNaN_unpack_packComponents s _ fun heq => ?_
      have htop := congrArg BitVec.toNat heq
      rw [BitVec.toNat_ofNat, show (-1#11).toNat = 2047 from rfl] at htop
      omega
    · exact isNaN_unpack_packComponents s _ (by decide)

/-! ### Multiplying -/

theorem unpack_mul (x y : Float) : (x * y).toModel.unpack =
    (Float.Model.pack (.mul .binary64 x.toModel.unpack y.toModel.unpack)).unpack := rfl

theorem isNaN_roundWithAccuracy (s : Sign) (m : Nat) (e : Int) (a : Accuracy) :
    (roundWithAccuracy .binary64 s m e a).isNaN = false := by
  rw [roundWithAccuracy]
  dsimp only
  split <;> rfl

/-- A product is no number if a factor is none, or if nought meets an infinity. -/
theorem isNaN_mul (x y : Float) : (x * y).isNaN =
    (x.isNaN || y.isNaN || x.isInf && y == 0 || x == 0 && y.isInf) := by
  simp only [isNaN_eq, isInf_eq, beq_zero_eq, unpack_mul, isNaN_unpack_pack]
  cases x.toModel.unpack with
  | notANumber => rfl
  | infinity s => cases y.toModel.unpack <;> rfl
  | zero s => cases y.toModel.unpack <;> rfl
  | finite s m e hm =>
    cases y.toModel.unpack with
    | finite s' m' e' hm' => exact isNaN_roundWithAccuracy _ _ _ _
    | _ => rfl

theorem isNaN_mul_of_isFinite (x : Float) {y : Float} (hy : y.isFinite = true) :
    (x * y).isNaN = (x.isNaN || x.isInf && y == 0) := by
  rw [isNaN_mul, isNaN_of_isFinite hy, isInf_of_isFinite hy, Bool.and_false, Bool.or_false, Bool.or_false]

theorem isInf_mul {x y : Float} (hx : x.isInf = true) (hy : y.isFinite = true) (hne : (y == 0) = false) :
    (x * y).isInf = true := by
  rw [isInf_eq] at hx
  rw [isFinite_eq] at hy
  rw [beq_zero_eq] at hne
  rw [isInf_eq, unpack_mul]
  cases hu : x.toModel.unpack with
  | infinity s =>
    cases hv : y.toModel.unpack with
    | finite s' m e hm => exact congrArg UnpackedFloat.isInf (unpack_pack_infinity (s * s'))
    | zero s' => simp [hv, isNought] at hne
    | _ => simp [hv, UnpackedFloat.isFinite] at hy
  | _ => simp [hu, UnpackedFloat.isInf] at hx

/-! ### Factor by factor -/

section Factors

variable {x : Float} {factors : List Float}

theorem isInf_foldl_mul (hx : x.isInf = true) (hfinite : ∀ f ∈ factors, f.isFinite = true)
    (hne : ∀ f ∈ factors, (f == 0) = false) : (factors.foldl (· * ·) x).isInf = true := by
  induction factors generalizing x with
  | nil => exact hx
  | cons f rest ih =>
    have hnext := isInf_mul hx (hfinite f List.mem_cons_self) (hne f List.mem_cons_self)
    exact ih hnext (fun g hg => hfinite g (List.mem_cons_of_mem f hg))
      fun g hg => hne g (List.mem_cons_of_mem f hg)

/-- Some factors have taken a number out of the range of doubles before one of them is nought. -/
def OverflowsBeforeNought (x : Float) (factors : List Float) : Prop :=
  ∃ early late, factors = early ++ late ∧ (early.foldl (· * ·) x).isInf = true ∧ ∃ f ∈ late, (f == 0) = true

theorem not_overflowsBeforeNought (hne : ∀ f ∈ factors, (f == 0) = false) :
    ¬ OverflowsBeforeNought x factors := by
  rintro ⟨early, late, rfl, -, f, hf, hzero⟩
  rw [hne f (List.mem_append_right early hf)] at hzero
  cases hzero

/-- With one more factor: it may be the nought that comes after an overflow. -/
theorem overflowsBeforeNought_concat {f : Float} (hfinite : ∀ g ∈ factors, g.isFinite = true) :
    OverflowsBeforeNought x (factors ++ [f]) ↔
      OverflowsBeforeNought x factors ∨ (factors.foldl (· * ·) x).isInf = true ∧ (f == 0) = true := by
  constructor
  · rintro ⟨early, late, heq, hinf, g, hg, hzero⟩
    obtain rfl | ⟨late, f', rfl⟩ := List.eq_nil_or_concat' late
    · cases hg
    rw [← List.append_assoc] at heq
    obtain ⟨rfl, hlast⟩ := List.append_inj' heq rfl
    obtain rfl := List.singleton_inj.1 hlast
    by_cases hnought : ∃ h ∈ late, (h == 0) = true
    · exact .inl ⟨early, late, rfl, hinf, hnought⟩
    · -- no nought came before: the infinity has been kept
      have hne : ∀ h ∈ late, (h == 0) = false := fun h hh =>
        Bool.eq_false_iff.2 fun hz => hnought ⟨h, hh, hz⟩
      obtain hg | hg := List.mem_append.1 hg
      · exact absurd ⟨g, hg, hzero⟩ hnought
      · obtain rfl := List.mem_singleton.1 hg
        rw [List.foldl_append]
        exact .inr ⟨isInf_foldl_mul hinf (fun h hh => hfinite h (List.mem_append_right early hh)) hne, hzero⟩
  · rintro (⟨early, late, rfl, hinf, g, hg, hzero⟩ | ⟨hinf, hzero⟩)
    · exact ⟨early, late ++ [f], List.append_assoc early late [f], hinf, g, List.mem_append_left [f] hg, hzero⟩
    · exact ⟨factors, [f], rfl, hinf, f, List.mem_singleton_self f, hzero⟩

theorem isNaN_foldl_mul (hx : x.isNaN = false) (hfinite : ∀ f ∈ factors, f.isFinite = true) :
    (factors.foldl (· * ·) x).isNaN = true ↔ OverflowsBeforeNought x factors := by
  induction factors using List.reverseRecOn with
  | nil => exact iff_of_false (ne_true_of_eq_false hx) (not_overflowsBeforeNought nofun)
  | append_singleton factors f ih =>
    have hinit : ∀ g ∈ factors, g.isFinite = true := fun g hg => hfinite g (List.mem_append_left [f] hg)
    have hlast : f.isFinite = true := hfinite f (List.mem_append_right factors (List.mem_singleton_self f))
    rw [overflowsBeforeNought_concat hinit, ← ih hinit, List.foldl_concat, isNaN_mul_of_isFinite _ hlast,
      Bool.or_eq_true, Bool.and_eq_true]

end Factors

/-! ### Comparing -/

theorem lt_iff (x y : Float) :
    x < y ↔ UnpackedFloat.compare x.toModel.unpack y.toModel.unpack = some .lt :=
  decide_eq_true_iff.trans beq_iff_eq

theorem le_iff (x y : Float) :
    x ≤ y ↔ (UnpackedFloat.compare x.toModel.unpack y.toModel.unpack).any (·.isLE) = true :=
  decide_eq_true_iff

theorem compare_eq_none {u v : UnpackedFloat} (h : UnpackedFloat.compare u v = none) :
    u.isNaN = true ∨ v.isNaN = true := by
  fun_cases UnpackedFloat.compare u v <;> simp_all [UnpackedFloat.compare, UnpackedFloat.isNaN]

theorem compare_swap (u v : UnpackedFloat) :
    (UnpackedFloat.compare u v).map Ordering.swap = UnpackedFloat.compare v u := by
  cases u with
  | notANumber => cases v <;> rfl
  | infinity s =>
    cases v with
    | infinity s' => cases s <;> cases s' <;> rfl
    | _ => cases s <;> rfl
  | zero s =>
    cases v with
    | infinity s' => cases s' <;> rfl
    | finite s' m' e' hm' => cases s' <;> rfl
    | _ => rfl
  | finite s m e hm =>
    cases v with
    | notANumber => cases s <;> rfl
    | infinity s' => cases s' <;> rfl
    | zero s' => cases s <;> rfl
    | finite s' m' e' hm' =>
      cases s <;> cases s' <;>
        simp [UnpackedFloat.compare, Ordering.swap_then, Int.compare_swap, Nat.compare_swap]

theorem le_of_not_lt {x y : Float} (hx : x.isNaN = false) (hy : y.isNaN = false) (hlt : ¬ x < y) :
    y ≤ x := by
  rw [lt_iff] at hlt
  rw [le_iff, ← compare_swap]
  cases hcompare : UnpackedFloat.compare x.toModel.unpack y.toModel.unpack with
  | none =>
    obtain hnan | hnan := compare_eq_none hcompare
    · exact absurd hnan (ne_true_of_eq_false hx)
    · exact absurd hnan (ne_true_of_eq_false hy)
  | some order =>
    rw [hcompare] at hlt
    cases order with
    | lt => exact absurd rfl hlt
    | _ => rfl

theorem not_lt_of_isNaN {x : Float} (hx : x.isNaN = true) (y : Float) : ¬ x < y ∧ ¬ y < x := by
  rw [isNaN_eq] at hx
  rw [lt_iff, lt_iff]
  cases hu : x.toModel.unpack with
  | notANumber => cases y.toModel.unpack <;> exact ⟨nofun, nofun⟩
  | _ => simp [hu, UnpackedFloat.isNaN] at hx

theorem isFinite_of_le {x y z : Float} (hy : y.isFinite = true) (hz : z.isFinite = true) (hyx : y ≤ x)
    (hxz : x ≤ z) : x.isFinite = true := by
  rw [le_iff] at hyx hxz
  rw [isFinite_eq] at *
  cases hu : x.toModel.unpack with
  | notANumber =>
    rw [hu] at hxz
    cases hxz
  | infinity s =>
    rw [hu] at hyx hxz
    cases s with
    | positive =>
      cases hv : z.toModel.unpack <;> rw [hv] at hz hxz <;>
        simp [UnpackedFloat.compare, UnpackedFloat.isFinite] at hz hxz
    | negative =>
      cases hv : y.toModel.unpack <;> rw [hv] at hy hyx <;>
        simp [UnpackedFloat.compare, UnpackedFloat.isFinite] at hy hyx
  | _ => rfl

/-!
## Positive doubles

A double is greater than nought when it has a positive sign, be it an infinity or a number of fifty-three
bits. Rounding keeps that as long as the significand that is rounded has at least so many bits, and so do
sums, and quotients of numbers that are not far apart. What is lost to rounding never matters here, so the
bits behind the significand can be anything.
-/

/-- A positive infinity, or a positive number of fifty-three bits. -/
def IsPositive : UnpackedFloat → Prop
  | .infinity s => s = .positive
  | .finite s m q _ => s = .positive ∧ 2 ^ 52 ≤ m ∧ m < 2 ^ 53 ∧ -1022 ≤ q
  | _ => False

theorem IsPositive.zero_lt {x : Float} (hx : IsPositive x.toModel.unpack) : 0.0 < x := by
  have hzero : (0.0 : Float).toModel.unpack = .zero .positive := rfl
  rw [lt_iff, hzero]
  cases hu : x.toModel.unpack with
  | infinity s =>
    rw [hu] at hx
    cases hx
    rfl
  | finite s m q hm =>
    rw [hu] at hx
    cases hx.1
    rfl
  | _ =>
    rw [hu] at hx
    exact hx.elim

/-! ### Rounding and packing -/

theorem mantissa_shiftRight (em : ExtendedMantissa) (k : Nat) :
    (em >>> k).mantissa = em.mantissa / 2 ^ k := by
  induction k with
  | zero => exact (Nat.div_one _).symm
  | succ k ih =>
    have hstep : em >>> (k + 1) = (em >>> k).shiftRightOne := rfl
    rw [hstep, ExtendedMantissa.shiftRightOne, ih, Nat.div_div_eq_div_mul, Nat.pow_succ]

theorem mantissa_ofMantissaAndAccuracy (n : Nat) (accuracy : Accuracy) :
    (ExtendedMantissa.ofMantissaAndAccuracy n accuracy).mantissa = n := by
  obtain _ | _ | _ | _ := accuracy <;> rfl

theorem roundedMantissa_bounds (em : ExtendedMantissa) :
    em.mantissa ≤ em.roundedMantissa ∧ em.roundedMantissa ≤ em.mantissa + 1 := by
  rw [ExtendedMantissa.roundedMantissa]
  obtain _ | _ | _ | _ := em.accuracy <;> simp only [Accuracy.roundToNearestEven] <;> omega

theorem shiftToTargetExponent_any {n : Nat} {e : Int} (accuracy : Accuracy) (hlog : 52 ≤ n.log2)
    (he : -1074 ≤ e) :
    shiftToTargetExponent .binary64 n e accuracy =
      (ExtendedMantissa.ofMantissaAndAccuracy n accuracy >>> (n.log2 - 52), e + (n.log2 - 52 : Nat)) := by
  have hamount : (Format.binary64.targetExponent (totalExponent n e) - e).toNat = n.log2 - 52 := by
    simp only [Format.targetExponent, totalExponent, Format.mantissaBits, Format.minExponent]
    omega
  rw [shiftToTargetExponent, shiftToExponent, hamount]

theorem shifted_bounds {n : Nat} (hlow : 2 ^ 52 ≤ n) :
    2 ^ 52 ≤ n / 2 ^ (n.log2 - 52) ∧ n / 2 ^ (n.log2 - 52) < 2 ^ 53 := by
  have hlog : 52 ≤ n.log2 := (Nat.le_log2 (by omega)).2 hlow
  have hpos := Nat.two_pow_pos (n.log2 - 52)
  constructor
  · rw [Nat.le_div_iff_mul_le hpos, ← Nat.pow_add, Nat.add_sub_cancel' hlog]
    exact Nat.log2_self_le (by omega)
  · rw [Nat.div_lt_iff_lt_mul hpos, ← Nat.pow_add, Nat.add_comm, show n.log2 - 52 + 53 = n.log2 + 1 by omega]
    exact Nat.lt_log2_self

theorem isPositive_round {n : Nat} {e : Int} (accuracy : Accuracy) (hlow : 2 ^ 52 ≤ n) (he : -1022 ≤ e) :
    IsPositive (roundWithAccuracy .binary64 .positive n e accuracy) := by
  have hlog : 52 ≤ n.log2 := (Nat.le_log2 (by omega)).2 hlow
  rw [roundWithAccuracy, shiftToTargetExponent_any accuracy hlog (by omega)]
  dsimp only
  -- rounding up may need one bit more, and then the significand is shifted once again
  obtain ⟨hbelow, habove⟩ := shifted_bounds hlow
  obtain ⟨hround, -⟩ := roundedMantissa_bounds
    (ExtendedMantissa.ofMantissaAndAccuracy n accuracy >>> (n.log2 - 52))
  rw [mantissa_shiftRight, mantissa_ofMantissaAndAccuracy] at hround
  generalize ExtendedMantissa.roundedMantissa _ = r at *
  have hr : 2 ^ 52 ≤ r := hbelow.trans hround
  have hrlog : 52 ≤ r.log2 := (Nat.le_log2 (by omega)).2 hr
  obtain ⟨hrbelow, hrabove⟩ := shifted_bounds hr
  rw [shiftToTargetExponent_any .exact hrlog (by omega)]
  dsimp only
  rw [mantissa_shiftRight, mantissa_ofMantissaAndAccuracy, dif_neg (by omega)]
  exact ⟨rfl, hrbelow, hrabove, by omega⟩

theorem isPositive_pack {u : UnpackedFloat} (hu : IsPositive u) : IsPositive (Float.Model.pack u).unpack := by
  cases u with
  | infinity s =>
    rw [unpack_pack_infinity]
    exact hu
  | finite s m q hm =>
    obtain ⟨rfl, hlow, hhigh, hq⟩ := hu
    obtain hlarge | hsmall := Int.lt_or_le 971 q
    · have hinfinity : UnpackedFloat.pack .binary64 (.finite .positive m q hm) =
          packedInfinity .binary64 .positive := by
        have hbias : Format.binary64.exponentBias + Format.binary64.mantissaBitsWithoutImplicit = 1075 := rfl
        have hbits : 2 ^ Format.binary64.exponentBits = 2048 := rfl
        rw [UnpackedFloat.pack, if_pos (by omega)]
      change IsPositive
        (UnpackedFloat.unpack .binary64 (UnpackedFloat.pack .binary64 (.finite .positive m q hm)))
      rw [hinfinity]
      exact congrArg IsPositive (unpack_pack_infinity .positive) ▸ rfl
    · have hnormal : Normal m q := ⟨hlow, hhigh, hq, hsmall⟩
      rw [hnormal.unpack_pack]
      exact ⟨rfl, hlow, hhigh, hq⟩
  | _ => exact hu.elim

/-! ### Integers, sums and quotients -/

theorem isPositive_ofNat {n : Nat} (hn : 0 < n) : IsPositive (Float.ofNat n).toModel.unpack := by
  obtain hsmall | hlarge := Nat.lt_or_ge n (2 ^ 53)
  · obtain ⟨m, q, h, heq, -⟩ := exists_ofNat_eq hn (hsmall.trans (by decide))
    rw [heq]
    exact (congrArg IsPositive (h.unpack_pack .positive)).mpr ⟨rfl, h.low, h.high, h.lowest⟩
  · have hscientific : UnpackedFloat.ofScientific .binary64 n 0 =
        roundWithAccuracy .binary64 .positive (n <<< 53 * 10 ^ 0) (-(53 : Nat)) .exact := by
      have hlowest : ¬ (0 : Int) < -((2 ^ 11 : Int) + n.log2) := by omega
      rw [UnpackedFloat.ofScientific, dif_neg hn.ne', if_neg (by decide), if_neg hlowest, if_pos le_rfl]
      rfl
    have hdef : Float.ofNat n = Float.ofScientific n false 0 := rfl
    rw [hdef, Float.ofScientific, dif_neg (by omega)]
    change IsPositive (Float.Model.pack (UnpackedFloat.ofScientific .binary64 n 0)).unpack
    rw [hscientific, Nat.pow_zero, Nat.mul_one, Nat.shiftLeft_eq]
    exact isPositive_pack (isPositive_round .exact (by omega) (by omega))

theorem unpack_add (x y : Float) : (x + y).toModel.unpack =
    (Float.Model.pack (.add .binary64 x.toModel.unpack y.toModel.unpack)).unpack := rfl

theorem unpack_div (x y : Float) : (x / y).toModel.unpack =
    (Float.Model.pack (.div .binary64 x.toModel.unpack y.toModel.unpack)).unpack := rfl

theorem isPositive_normalize {n : Int} {e : Int} {zero : Sign} (hlow : 2 ^ 52 ≤ n) (he : -1022 ≤ e) :
    IsPositive (UnpackedFloat.normalize .binary64 n e zero) := by
  have hcompare : compare n 0 = .gt := by
    rw [compare_gt_iff_gt]
    omega
  have hlog : 52 ≤ n.toNat.log2 := (Nat.le_log2 (by omega)).2 (by omega)
  have hshift : (e - Format.binary64.targetExponent (totalExponent n.toNat e)).toNat = 0 := by
    simp only [Format.targetExponent, totalExponent, Format.mantissaBits, Format.minExponent]
    omega
  rw [UnpackedFloat.normalize, hcompare]
  dsimp only
  rw [UnpackedFloat.round, decreaseExponent, hshift, Nat.shiftLeft_zero]
  exact isPositive_round .exact (by omega) (by omega)

/-- An infinity stays an infinity, and a sum of two numbers has at least the bits of either. -/
theorem isPositive_add {u v : UnpackedFloat} (hu : IsPositive u) (hv : IsPositive v) :
    IsPositive (.add .binary64 u v) := by
  cases u with
  | infinity s =>
    obtain rfl : s = .positive := hu
    cases v with
    | infinity s' =>
      obtain rfl : s' = .positive := hv
      rfl
    | finite => rfl
    | _ => exact hv.elim
  | finite s m q hm =>
    cases v with
    | infinity => exact hv
    | finite s' m' q' hm' =>
      obtain ⟨rfl, hlow, -, hq⟩ := hu
      obtain ⟨rfl, hlow', -, hq'⟩ := hv
      have hsum : 2 ^ 52 ≤ m <<< (q - min q q').toNat + m' <<< (q' - min q q').toNat := by
        rw [Nat.shiftLeft_eq]
        exact hlow.trans (Nat.le_add_right_of_le (Nat.le_mul_of_pos_right m (Nat.two_pow_pos _)))
      rw [UnpackedFloat.add]
      exact isPositive_normalize (Int.ofNat_le.2 hsum) (by omega)
    | _ => exact hv.elim
  | _ => exact hu.elim

theorem isPositive_add_zero {u : UnpackedFloat} {s : Sign} (hu : IsPositive u) :
    IsPositive (.add .binary64 u (.zero s)) ∧ IsPositive (.add .binary64 (.zero s) u) := by
  cases u with
  | infinity => exact ⟨hu, hu⟩
  | finite => exact ⟨hu, hu⟩
  | _ => exact hu.elim

theorem isPositive_div {m₁ m₂ : Nat} {e₁ e₂ : Int} (h₁ : Normal m₁ e₁) (h₂ : Normal m₂ e₂)
    (hapart : -969 ≤ e₁ - e₂) :
    IsPositive (.div .binary64 (.finite .positive m₁ e₁ h₁.pos) (.finite .positive m₂ e₂ h₂.pos)) := by
  have hlog {m : Nat} {e : Int} (h : Normal m e) : m.log2 = 52 :=
    (Nat.log2_eq_iff h.pos.ne').2 ⟨h.low, h.high⟩
  have htarget :
      Format.binary64.targetExponent (totalExponent m₁ e₁ - totalExponent m₂ e₂) = e₁ - e₂ - 53 := by
    simp only [Format.targetExponent, totalExponent, Format.mantissaBits, Format.minExponent, hlog h₁,
      hlog h₂]
    omega
  have hshift : (e₁ - e₂ - (e₁ - e₂ - 53)).toNat = 53 := by omega
  have hquotient : 2 ^ 52 ≤ m₁ * 2 ^ 53 / m₂ := by
    rw [Nat.le_div_iff_mul_le h₂.pos]
    exact Nat.mul_le_mul h₁.low h₂.high.le
  rw [UnpackedFloat.div, divCore, htarget, min_eq_right (by omega), hshift, Nat.shiftLeft_eq]
  exact isPositive_round _ hquotient (by omega)

/-! ### Seconds -/

theorem isPositive_fraction {n : Nat} (hn : 0 < n) (hsecond : n < 1000000000) :
    IsPositive (Float.ofNat n / 1000000000.0).toModel.unpack := by
  have hbillion : Normal (1000000000 * 2 ^ 23) (-23) := by constructor <;> decide
  have hunpack : (1000000000.0 : Float).toModel.unpack = .finite .positive _ _ hbillion.pos := rfl
  obtain ⟨m, q, h, heq, hvalue⟩ := exists_ofNat_eq hn (by omega)
  -- a whole number is not spread over more places than it needs bits for
  have hq : -53 ≤ q := by
    by_contra hlow
    have hplaces : 2 ^ 53 ≤ 2 ^ (-q).toNat := Nat.pow_le_pow_right (by decide) (by omega)
    have hlarge : 2 ^ 53 ≤ n * 2 ^ (-q).toNat := hplaces.trans (Nat.le_mul_of_pos_left _ hn)
    have hhigh := h.high
    rw [nearestNat_of_lt (by omega), Int.toNat_of_nonpos (by omega), Nat.pow_zero, Nat.mul_one] at hvalue
    omega
  rw [unpack_div, hunpack, heq]
  refine isPositive_pack ?_
  rw [h.unpack_pack]
  exact isPositive_div h hbillion (by omega)

end Governance.Decimal

namespace Governance

open Decimal Float.Model

/-- A length of time that is not nought has some seconds as a double too. -/
theorem Duration.zero_lt_toSecondsFloat {d : Duration} (hd : 0 < d.nanos) : 0.0 < d.toSecondsFloat := by
  have hnought : (Float.ofNat 0).toModel.unpack = .zero .positive := rfl
  have hnone : (Float.ofNat 0 / 1000000000.0).toModel.unpack = .zero .positive := rfl
  have hrest : d.nanos % 1000000000 < 1000000000 := Nat.mod_lt _ (by decide)
  apply IsPositive.zero_lt
  rw [Duration.toSecondsFloat, unpack_add]
  apply isPositive_pack
  obtain hwhole | hwhole := Nat.eq_zero_or_pos (d.nanos / 1000000000)
  · rw [hwhole, hnought]
    exact (isPositive_add_zero (isPositive_fraction (by omega) hrest)).2
  · obtain hfraction | hfraction := Nat.eq_zero_or_pos (d.nanos % 1000000000)
    · rw [hfraction, hnone]
      exact (isPositive_add_zero (isPositive_ofNat hwhole)).1
    · exact isPositive_add (isPositive_ofNat hwhole) (isPositive_fraction hfraction hrest)

end Governance
