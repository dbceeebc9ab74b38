import Mathlib.Data.List.Induction
import Governance.Audit.Entry
import Governance.Decision.Engine
import Governance.Proofs.Pattern.Spans
import Governance.Proofs.Text.Lowercase

/-!
# Padding a query

Whatever is put in front of a query or behind it, nothing that was noticed in the query goes unnoticed. The
words that flags, sensitivity and complexity go by have no sigma, which is the only letter that changes with its
neighbours, and the patterns that the risk goes by have no boundaries. So the risk of the padded query is at least
that of the query; for the risk hangs on how many patterns are touched, and the sums of doubles that are behind
it are few enough to be compared one by one.
-/

namespace Governance

open Text

variable {tenant : TenantId} {query : String}

/-! ### Words -/

theorem mentionsAny_around {keywords : List String} (hkeywords : ∀ w ∈ keywords, LacksSigma w.toList)
    (before after : String) (h : mentionsAny keywords query = true) :
    mentionsAny keywords (before ++ query ++ after) = true := by
  obtain ⟨w, hw, hoccurs⟩ := List.any_eq_true.1 h
  refine List.any_eq_true.2 ⟨w, hw, ?_⟩
  rw [String.toList_append, String.toList_append]
  exact occurs_lowercase_around (hkeywords w hw) _ _ hoccurs

def ComplianceFlag.isRaised (query : String) (tenant : TenantId) : ComplianceFlag → Bool
  | .hipaaRelevant => mentionsAny medicalKeywords query
  | .gdprApplicable => isEuropean tenant
  | .soxRelevant => mentionsAny accountKeywords query
  | .piiAccess => mentionsAny personalKeywords query

theorem mem_complianceFlags {flag : ComplianceFlag} :
    flag ∈ complianceFlags query tenant ↔ flag.isRaised query tenant = true := by
  simp only [complianceFlags, List.mem_append]
  cases flag <;> simp [ComplianceFlag.isRaised]

theorem complianceFlags_subset_around (tenant : TenantId) (before query after : String) :
    complianceFlags query tenant ⊆ complianceFlags (before ++ query ++ after) tenant := by
  intro flag hflag
  rw [mem_complianceFlags] at hflag ⊢
  cases flag with
  | hipaaRelevant => exact mentionsAny_around (by decide) before after hflag
  | gdprApplicable => exact hflag
  | soxRelevant => exact mentionsAny_around (by decide) before after hflag
  | piiAccess => exact mentionsAny_around (by decide) before after hflag

/-! ### Joins -/

/-- How much there is to a query of a complexity. -/
def Complexity.rank : Complexity → Nat
  | .low => 0
  | .medium => 1
  | .high => 2

theorem Complexity.rank_ofJoins (joins : Nat) :
    (ofJoins joins).rank = if joins = 0 then 0 else if joins ≤ 2 then 1 else 2 := by
  unfold ofJoins
  split
  · rfl
  · split <;> rfl

theorem Complexity.rank_ofJoins_mono {joins joins' : Nat} (h : joins ≤ joins') :
    (ofJoins joins).rank ≤ (ofJoins joins').rank := by
  rw [rank_ofJoins, rank_ofJoins]
  split_ifs <;> omega

theorem Complexity.rank_ofQuery_le_around (before query after : String) :
    (ofQuery query).rank ≤ (ofQuery (before ++ query ++ after)).rank := by
  apply rank_ofJoins_mono
  rw [String.toList_append, String.toList_append]
  exact count_lowercase_le_around (by decide) _ _ _

/-! ### Risk -/

namespace Risk

/-- None of the patterns that the risk goes by asks where in the query it occurs. -/
theorem isPlaceless_of_mem_sensitivePatterns {source : String} (hsource : source ∈ sensitivePatterns) :
    ∃ pattern, Pattern.ofText source = .ok pattern ∧ pattern.isPlaceless = true := by
  have hall : sensitivePatterns.all
      (fun source => (Pattern.ofText source).toOption.any Pattern.isPlaceless) = true := by decide
  have hread := List.all_eq_true.1 hall source hsource
  cases hpattern : Pattern.ofText source with
  | ok pattern =>
    rw [hpattern] at hread
    exact ⟨pattern, rfl, hread⟩
  | error e =>
    rw [hpattern] at hread
    cases hread

theorem touches_around {source : String} (hsource : source ∈ sensitivePatterns) (before after : String)
    (h : touches query source = true) : touches (before ++ query ++ after) source = true := by
  obtain ⟨pattern, hpattern, hplaceless⟩ := isPlaceless_of_mem_sensitivePatterns hsource
  rw [touches, hpattern] at h ⊢
  exact Pattern.occursIn_around hplaceless before after h

theorem touched_subset_around (before query after : String) :
    touched query ⊆ touched (before ++ query ++ after) := by
  intro source hsource
  obtain ⟨hmem, htouches⟩ := List.mem_filter.1 hsource
  exact List.mem_filter.2 ⟨hmem, touches_around hmem before after htouches⟩

theorem length_touched_le_around (before query after : String) :
    (touched query).length ≤ (touched (before ++ query ++ after)).length := by
  rw [touched, touched, ← List.countP_eq_length_filter, ← List.countP_eq_length_filter]
  exact List.countP_mono_left fun source hsource => touches_around hsource before after

theorem length_touched_lt (query : String) : (touched query).length < 4 :=
  Nat.lt_succ_of_le (List.length_filter_le _ sensitivePatterns)

theorem readsWholeTables_around (before after : String) (h : readsWholeTables query = true) :
    readsWholeTables (before ++ query ++ after) = true := by
  have hlower : LacksSigma (lowercase "select *".toList) := by decide
  unfold readsWholeTables occursFolded at h ⊢
  rw [String.toList_append, String.toList_append]
  exact occurs_lowercase_around hlower _ _ h

/-- The weight of so many families of sensitive words. -/
def familyWeight : Nat → Float
  | 0 => 0.0
  | families + 1 => familyWeight families + patternWeight

theorem foldl_weights (families : List String) :
    families.foldl (fun sum _ => sum + patternWeight) 0.0 = familyWeight families.length := by
  induction families using List.reverseRecOn with
  | nil => rfl
  | append_singleton families family ih =>
    rw [List.foldl_concat, ih, List.length_append]
    rfl

/-- The score that follows from what is looked at. -/
def scoreOf (families : Nat) (administrator wholeTables : Bool) : Float :=
  let asker := if administrator then familyWeight families + administratorWeight else familyWeight families
  let total := if wholeTables then asker + selectAllWeight else asker
  if total < 1.0 then total else 1.0

theorem score_eq (r : Request) : score r =
    scoreOf (touched r.query).length (r.user.role = "admin") (readsWholeTables r.query) := by
  simp only [score, scoreOf, foldl_weights, decide_eq_true_eq]

/-- More families and whole tables never make a smaller score. -/
theorem scoreOf_mono {families families' : Nat} {wholeTables wholeTables' : Bool}
    (hfamilies : families ≤ families') (hbound : families' < 4)
    (htables : wholeTables = true → wholeTables' = true) (administrator : Bool) :
    scoreOf families administrator wholeTables ≤ scoreOf families' administrator wholeTables' := by
  have hall : ∀ n' : Fin 4, ∀ n : Fin 4, n.val ≤ n'.val → ∀ wholeTables wholeTables' : Bool,
      (wholeTables = true → wholeTables' = true) → ∀ administrator,
        scoreOf n.val administrator wholeTables ≤ scoreOf n'.val administrator wholeTables' := by
    decide +kernel
  exact hall ⟨families', hbound⟩ ⟨families, by omega⟩ hfamilies _ _ htables administrator

theorem score_le_around (r : Request) (before after : String) :
    score r ≤ score { r with query := before ++ r.query ++ after } := by
  rw [score_eq, score_eq]
  exact scoreOf_mono (length_touched_le_around before r.query after) (length_touched_lt _)
    (readsWholeTables_around before after) _

end Risk

/-- The first request is under no more scrutiny than the second one: whatever is noticed in it is noticed there
too. -/
structure Request.NoMoreScrutinized (r r' : Request) : Prop where
  flags : complianceFlags r.query r.tenant ⊆ complianceFlags r'.query r'.tenant
  sensitive : ∀ details, (SecurityMetrics.assess r.query details).sensitive = true →
    (SecurityMetrics.assess r'.query details).sensitive = true
  complexity : ∀ details, (SecurityMetrics.assess r.query details).complexity.rank ≤
    (SecurityMetrics.assess r'.query details).complexity.rank
  patterns : Risk.touched r.query ⊆ Risk.touched r'.query
  wholeTables : Risk.readsWholeTables r.query = true → Risk.readsWholeTables r'.query = true
  score : Risk.score r ≤ Risk.score r'

/-- Whatever is put around its query, a request comes under no less scrutiny. -/
theorem padding_keeps_scrutiny (r : Request) (before after : String) :
    r.NoMoreScrutinized { r with query := before ++ r.query ++ after } where
  flags := complianceFlags_subset_around r.tenant before r.query after
  sensitive _ := mentionsAny_around (by decide +kernel) before after
  complexity _ := Complexity.rank_ofQuery_le_around before r.query after
  patterns := Risk.touched_subset_around before r.query after
  wholeTables := Risk.readsWholeTables_around before after
  score := Risk.score_le_around r before after

end Governance
