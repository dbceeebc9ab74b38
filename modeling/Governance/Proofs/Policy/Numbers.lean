import Governance.Proofs.Decimal.Shortest
import Governance.Proofs.Policy.Operators

/-!
# Integers in conditions

A fact and an operand that are integers are compared by the texts of their doubles. Two integers have the same text
exactly when the same double is nearest to both, so up to fifty-three bits they are compared exactly, and beyond
that an integer is taken for each of those that share its double. Of these one is written: an operand that spells
out the digits is met by the fact only if it spells out that one.
-/

namespace Governance

open Json Decimal

/-! ### The text of an integer's double -/

/-- One integer is written as another: they have the same sign, and the magnitude of the second is what the double
of the first is written as. -/
structure WrittenAs (a b : Int) : Prop where
  sign : b.sign = a.sign
  magnitude : Shortest (nearestNat a.natAbs) b.natAbs

section WrittenAs

variable {a b b' : Int}

theorem WrittenAs.nearest_eq (h : WrittenAs a b) : nearest b = nearest a :=
  nearest_eq_iff.2 ⟨h.sign, h.magnitude.rounds⟩

theorem WrittenAs.unique (h : WrittenAs a b) (h' : WrittenAs a b') : b = b' := by
  rw [← Int.sign_mul_natAbs b, ← Int.sign_mul_natAbs b', h.sign, h'.sign, h.magnitude.unique h'.magnitude]

theorem WrittenAs.congr (h : WrittenAs a b) (heq : nearest a = nearest b') : WrittenAs b' b := by
  obtain ⟨hsign, hnear⟩ := nearest_eq_iff.1 heq
  exact ⟨h.sign.trans hsign, hnear ▸ h.magnitude⟩

/-- An integer of at most fifty-three bits is written as itself. -/
theorem writtenAs_iff_of_lt (hsmall : a.natAbs < 2 ^ 53 ∨ b.natAbs < 2 ^ 53) : WrittenAs a b ↔ a = b := by
  refine ⟨fun h => (nearest_eq_iff_of_lt hsmall).1 h.nearest_eq.symm, ?_⟩
  rintro rfl
  have ha : a.natAbs < 2 ^ 53 := hsmall.elim id id
  have hshared (c : Nat) : nearestNat c = nearestNat a.natAbs ↔ c = a.natAbs := by
    rw [nearestNat_of_lt ha, nearestNat_eq_iff_of_lt ha]
  refine ⟨rfl, rfl, fun c hc k hdvd => ?_, fun c hc _ hne => absurd ((hshared c).1 hc) hne⟩
  rwa [← (hshared c).1 hc]

/-- The text of an integer's double is the text of the integer it is written as. -/
theorem exists_numberText_floatOfInt (hexact : Number.isExact a = true) :
    ∃ b, Fact.numberText (Number.floatOfInt a) = integerText b ∧ WrittenAs a b := by
  obtain rfl | hne := eq_or_ne a 0
  · exact ⟨0, by decide, (writtenAs_iff_of_lt (.inl (by decide))).2 rfl⟩
  obtain ⟨parts, hdouble, hparts, hbit, hzero⟩ := exists_floatOfInt_parts hne hexact
  have hpos : 0 < nearestNat a.natAbs := nearestNat_pos.2 (Int.natAbs_pos.2 hne)
  have hmax : nearestNat a.natAbs ≤ 2 ^ 64 := by
    have := nearestNat_mono (natAbs_lt_of_isExact hexact).le
    rwa [← Nat.one_mul (2 ^ 64), nearestNat_mul_two_pow (by decide)] at this
  obtain ⟨s, htext, hspec⟩ := hdouble.exists_text hpos hmax
  have hs : 0 < s := nearestNat_pos.1 (hspec.rounds.symm ▸ hpos)
  have habs : (a.sign * (s : Int)).natAbs = s := by
    rw [Int.natAbs_mul, Int.natAbs_sign_of_ne_zero hne, Int.natAbs_natCast, Nat.one_mul]
  have hsign : (a.sign * (s : Int)).sign = a.sign := by
    rw [Int.sign_mul, Int.sign_sign, Int.sign_eq_one_of_pos (Int.natCast_pos.2 hs), Int.mul_one]
  refine ⟨a.sign * s, ?_, hsign, by rwa [habs]⟩
  have hneg : a.sign * (s : Int) < 0 ↔ a < 0 := by
    rw [← Int.sign_eq_neg_one_iff_neg, hsign, Int.sign_eq_neg_one_iff_neg]
  have hsignificand : parts.significand ≠ 0 := hdouble.normal.pos.ne'
  rw [Fact.numberText, hzero, Layout.text, hparts, hbit, integerText, habs]
  simp only [hneg, hsignificand, ↓reduceIte]
  rw [show Layout.plain.tie = .up from rfl, htext]
  by_cases ha : a < 0 <;> simp [ha]

end WrittenAs

/-! ### Integers against integers -/

/-- What the conditions on a field make of an integer when the field is one. -/
structure Request.ComparesIntegers (r : Request) (field : String) (a b : Int) : Prop where
  equals : r.satisfies field .equals (.ofInt b) = true ↔ nearest a = nearest b
  notEquals : r.satisfies field .notEquals (.ofInt b) = true ↔ nearest a ≠ nearest b
  isIn : r.satisfies field .isIn (.array [.ofInt b]) = true ↔ nearest a = nearest b
  equalsText : r.satisfies field .equals (.string (String.ofList (integerText b))) = true ↔ WrittenAs a b

theorem Request.comparesIntegers_of_render {r : Request} {field : String} {a a' b : Int}
    (haddress : Addressable field) (hfact : (r.fact field).render = some (String.ofList (integerText a')))
    (ha : WrittenAs a a') (hb : Number.isExact b = true) : r.ComparesIntegers field a b := by
  have hlaws := operatorLaws r haddress
  have hequals (v : Json) : r.satisfies field .equals v = true ↔ String.ofList (integerText a') = operandText v := by
    rw [r.satisfies_eq, isAddressable_iff.2 haddress, hfact, Bool.true_and]
    exact decide_eq_true_iff
  have hnearest : r.satisfies field .equals (.ofInt b) = true ↔ nearest a = nearest b := by
    obtain ⟨b', htext, hb'⟩ := exists_numberText_floatOfInt hb
    have hoperand : operandText (.ofInt b) = String.ofList (integerText b') := congrArg String.ofList htext
    rw [hequals, hoperand, String.ofList_inj, integerText_inj]
    constructor
    · rintro rfl
      exact ha.nearest_eq.symm.trans hb'.nearest_eq
    · exact fun heq => (ha.congr heq).unique hb'
  constructor
  · exact hnearest
  · rw [hlaws.notEquals, Bool.not_eq_true', ← Bool.not_eq_true, hnearest]
  · rw [hlaws.isIn, List.any_cons, List.any_nil, Bool.or_false, hnearest]
  · rw [hequals, operandText, String.ofList_inj, integerText_inj]
    constructor
    · rintro rfl
      exact ha
    · exact ha.unique

/-- Two integers of at most sixty-four bits are compared by the doubles nearest to them, and an integer is compared
with digits by the digits it is written as. When one of them has at most fifty-three bits both comparisons are
exact. -/
theorem integers_compared_as_doubles (r : Request) (key : String) (a b : Int) (ha : Number.isExact a = true)
    (hb : Number.isExact b = true) (hentry : lookup key r.context = some (.ofInt a)) :
    r.ComparesIntegers ("context." ++ key) a b ∧
      (a.natAbs < 2 ^ 53 ∨ b.natAbs < 2 ^ 53 → (nearest a = nearest b ↔ a = b) ∧ (WrittenAs a b ↔ a = b)) := by
  obtain ⟨a', htext, ha'⟩ := exists_numberText_floatOfInt ha
  have hfact : (r.fact ("context." ++ key)).render = some (String.ofList (integerText a')) := by
    rw [r.fact_context, hentry, ← htext]
    rfl
  exact ⟨Request.comparesIntegers_of_render (addressable_context key) hfact ha' hb,
    fun hsmall => ⟨nearest_eq_iff_of_lt hsmall, writtenAs_iff_of_lt hsmall⟩⟩

/-- The first integer that is no double, against the last one of fifty-three bits. -/
theorem integers_compared_beyond_fifty_three_bits :
    (Request.carrying "k" (.ofInt 9007199254740993)).ComparesIntegers ("context." ++ "k")
        9007199254740993 9007199254740991 ∧
      (nearest 9007199254740993 = nearest 9007199254740991 ↔ (9007199254740993 : Int) = 9007199254740991) ∧
      (WrittenAs 9007199254740993 9007199254740991 ↔ (9007199254740993 : Int) = 9007199254740991) := by
  obtain ⟨hcompared, hexact⟩ := integers_compared_as_doubles (.carrying "k" (.ofInt 9007199254740993)) "k"
    9007199254740993 9007199254740991 (by decide) (by decide) rfl
  exact ⟨hcompared, hexact (.inr (by decide))⟩

/-- It is taken for the integer right before it, and its own digits are not recognized. -/
theorem large_integer_taken_for_another :
    (Request.carrying "k" (.ofInt 9007199254740993)).satisfies "context.k" .equals (.ofInt 9007199254740992) = true ∧
      (Request.carrying "k" (.ofInt 9007199254740993)).satisfies "context.k" .notEquals (.ofInt 9007199254740992) =
        false ∧
      (Request.carrying "k" (.ofInt 9007199254740993)).satisfies "context.k" .isIn
        (.array [.ofInt 9007199254740992]) = true ∧
      (Request.carrying "k" (.ofInt 9007199254740993)).satisfies "context.k" .equals
        (.string "9007199254740993") = false := by
  decide

end Governance
