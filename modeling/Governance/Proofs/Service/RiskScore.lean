import Governance.Proofs.Audit.Written
import Governance.Proofs.Decimal.Operations
import Governance.Proofs.Decision.Padding
import Governance.Proofs.Service.Trial

/-!
# The risk score of a decision

The score of a request is multiplied by the factors of the policies that match, and brought into the range from
nought to one at the end. So the score of a decision is a number of that range whenever the product is a number. It
is none exactly when the product overflows before a factor of nought comes; then the score is written as null, and
no audit entry that carries it is read back.
-/

namespace Governance

open Decimal Json

/-! ### Factors -/

/-- A number such as JSON has: an integer of at most sixty-four bits, or a finite double. -/
def Number.IsFinite : Number → Prop
  | .integer value => isExact value = true
  | .real value => value.isFinite = true

instance Number.decidableIsFinite : (n : Number) → Decidable n.IsFinite
  | .integer value => inferInstanceAs (Decidable (isExact value = true))
  | .real value => inferInstanceAs (Decidable (value.isFinite = true))

theorem Number.isFinite_toFloat {n : Number} (hn : n.IsFinite) : n.toFloat.isFinite = true := by
  cases n with
  | integer value => exact isFinite_floatOfInt hn
  | real value => exact hn

/-- The numbers that the actions of a policy change the risk by are finite. -/
def Policy.HasFiniteModifiers (p : Policy) : Prop :=
  ∀ a ∈ p.actions, a.kind? = some .modifyRisk →
    ∀ n, lookup "modifier" a.config = some (.number n) → n.IsFinite

theorem riskModifier?_eq_some {a : Action} {f : Float} (h : riskModifier? a = some f) :
    ∃ n, lookup "modifier" a.config = some (.number n) ∧ n.toFloat = f := by
  unfold riskModifier? at h
  split at h
  · rename_i n hmodifier
    exact ⟨n, hmodifier, Option.some.inj h⟩
  · cases h

theorem Policy.isFinite_of_mem_factors {p : Policy} (hp : p.HasFiniteModifiers) {f : Float}
    (hf : f ∈ p.factors) : f.isFinite = true := by
  obtain ⟨a, ha, hfactor⟩ := List.mem_filterMap.1 hf
  unfold Action.factor? at hfactor
  split at hfactor
  · rename_i hkind
    obtain ⟨n, hmodifier, rfl⟩ := riskModifier?_eq_some hfactor
    exact Number.isFinite_toFloat (hp a ha hkind n hmodifier)
  · cases hfactor

/-! ### The score -/

/-- There are few scores. -/
theorem Risk.exists_scoreOf_eq (r : Request) : ∃ n < 4, ∃ wholeTables,
    score r = scoreOf n (r.user.role = "admin") wholeTables :=
  ⟨(touched r.query).length, length_touched_lt r.query, readsWholeTables r.query, score_eq r⟩

theorem Risk.isFinite_score (r : Request) : (score r).isFinite = true := by
  have hall : ∀ n < 4, ∀ administrator wholeTables : Bool,
      (scoreOf n administrator wholeTables).isFinite = true := by
    decide +kernel
  obtain ⟨n, hn, wholeTables, hscore⟩ := exists_scoreOf_eq r
  rw [hscore]
  exact hall n hn _ wholeTables

/-- The factors by which the policies that match change the risk, in the order in which they do. -/
def factorsFor (policies : List Policy) (r : Request) : List Float :=
  ((assessmentOrder policies).filter (·.appliesTo r)).flatMap Policy.factors

theorem isFinite_of_mem_factorsFor {policies : List Policy} (hfinite : ∀ p ∈ policies, p.HasFiniteModifiers)
    {r : Request} {f : Float} (hf : f ∈ factorsFor policies r) : f.isFinite = true := by
  obtain ⟨p, hp, hf⟩ := List.mem_flatMap.1 hf
  have hmem : p ∈ policies := List.mem_mergeSort.1 (List.mem_filter.1 hp).1
  exact Policy.isFinite_of_mem_factors (hfinite p hmem) hf

namespace Decision

theorem riskScore_ofPolicies (policies : List Policy) (r : Request) :
    (ofPolicies policies r).riskScore = clamp ((factorsFor policies r).foldl (· * ·) (Risk.score r)) := by
  rw [ofPolicies, Assessment.assess_eq_adding]
  rfl

/-- What is no number is not brought into the range. -/
theorem clamp_of_isNaN {x : Float} (hx : x.isNaN = true) : clamp x = x := by
  rw [clamp, if_neg (not_lt_of_isNaN hx 0.0).1, if_neg (not_lt_of_isNaN hx 1.0).2]

theorem clamp_bounds {x : Float} (hx : x.isNaN = false) : 0 ≤ clamp x ∧ clamp x ≤ 1 := by
  unfold clamp
  split
  · decide
  · rename_i hlow
    split
    · decide
    · rename_i hhigh
      exact ⟨le_of_not_lt hx (by decide) hlow, le_of_not_lt (by decide) hx hhigh⟩

theorem isFinite_clamp {x : Float} (hx : x.isNaN = false) : (clamp x).isFinite = true :=
  isFinite_of_le (by decide) (by decide) (clamp_bounds hx).1 (clamp_bounds hx).2

/-! ### Telling the score -/

/-- The entry of a request that was decided on. -/
def entryOf (d : Decision) (record : AuditRecord) (id : AuditId) : AuditEntry :=
  (Pipeline.withDecision d record).toEntry id

/-- The score is a number from nought to one, it is written as a number, and the audit entries that carry it are
read back. -/
structure TellsRisk (d : Decision) : Prop where
  isNumber : d.riskScore.isNaN = false
  bounds : 0 ≤ d.riskScore ∧ d.riskScore ≤ 1
  written : member? "risk_score" d.toJson = some (.number (.real d.riskScore))
  readBack : d.applied.length < UInt64.size → ∀ (record : AuditRecord) (id : AuditId),
    record.timestamp.IsProper → (∀ u ∈ record.usage, u.cost.isFinite) →
      AuditEntry.ofJson (d.entryOf record id).toJson = .ok (d.entryOf record id)

/-- The score is no number, it is written as null, and no audit entry that carries it is read back. -/
structure LosesRisk (d : Decision) : Prop where
  notANumber : d.riskScore.isNaN = true
  written : member? "risk_score" d.toJson = some .null
  unread : ∀ (record : AuditRecord) (id : AuditId) (e : AuditEntry),
    AuditEntry.ofJson (d.entryOf record id).toJson ≠ .ok e

theorem member?_riskScore (d : Decision) : member? "risk_score" d.toJson = some (ofFloat d.riskScore) := by
  simp [toJson, ofEntries, entry, member?, lookup]

theorem tellsRisk_of_bounds {d : Decision} (hnumber : d.riskScore.isNaN = false)
    (hbounds : 0 ≤ d.riskScore ∧ d.riskScore ≤ 1) : d.TellsRisk := by
  have hfinite : d.riskScore.isFinite = true :=
    isFinite_of_le (by decide) (by decide) hbounds.1 hbounds.2
  refine ⟨hnumber, hbounds, ?_, ?_⟩
  · rw [member?_riskScore, ofFloat, if_pos hfinite]
  · intro hlength record id htime hcost
    refine AuditEntry.ofJson_toJson ⟨htime, ?_, hcost, ?_⟩
    · rintro details ⟨⟩
      exact hfinite
    · rintro metrics ⟨⟩
      exact ⟨hfinite, hlength⟩

theorem losesRisk_of_isNaN {d : Decision} (hnan : d.riskScore.isNaN = true) : d.LosesRisk := by
  have hinfinite : ¬ d.riskScore.isFinite = true := fun hfinite => by
    rw [isNaN_of_isFinite hfinite] at hnan
    cases hnan
  refine ⟨hnan, ?_, fun record id e he => ?_⟩
  · rw [member?_riskScore, ofFloat, if_neg hinfinite]
  · have hdetails : (d.entryOf record id).details = some (.ofDecision d) := rfl
    have hfinite := AuditEntry.isFinite_of_ofJson he hdetails
    exact hinfinite hfinite

end Decision

/-- Whatever finite factors the enabled policies change the risk by, the score of the decision is told, unless the
product overflows before a factor of nought. -/
theorem risk_told_unless_overflowing (answers : (c : ServiceCall) → c.Answer) (r : Request)
    {policies : List Policy} (hload : answers (.store (.enabledPolicies r.tenant)) = .ok policies)
    (hfinite : ∀ p ∈ policies, p.HasFiniteModifiers) :
    ∃ d : Decision, ((Engine.decideByStore r).replay (I := serviceInterface) answers).2 = .ok d ∧
      d.riskScore = Decision.clamp ((factorsFor policies r).foldl (· * ·) (Risk.score r)) ∧
      (¬ OverflowsBeforeNought (Risk.score r) (factorsFor policies r) → d.TellsRisk) ∧
      (OverflowsBeforeNought (Risk.score r) (factorsFor policies r) → d.LosesRisk) := by
  have hproduct := isNaN_foldl_mul (isNaN_of_isFinite (Risk.isFinite_score r))
    fun f hf => isFinite_of_mem_factorsFor hfinite (r := r) hf
  refine ⟨_, Engine.replay_decideByStore hload, Decision.riskScore_ofPolicies policies r,
    fun hkept => ?_, fun hlost => ?_⟩
  · have hnumber := Bool.eq_false_iff.2 (mt hproduct.1 hkept)
    apply Decision.tellsRisk_of_bounds
    · rw [Decision.riskScore_ofPolicies]
      exact isNaN_of_isFinite (Decision.isFinite_clamp hnumber)
    · rw [Decision.riskScore_ofPolicies]
      exact Decision.clamp_bounds hnumber
  · have hnan := hproduct.2 hlost
    apply Decision.losesRisk_of_isNaN
    rw [Decision.riskScore_ofPolicies, Decision.clamp_of_isNaN hnan]
    exact hnan

/-! ### Large factors -/

/-- A policy that multiplies the risk of a query for secrets. -/
def scalingRule (modifiers : List Number) : Policy :=
  { acmeRule with
    name := "escalate"
    kind := .risk
    actions := modifiers.map fun n => ⟨"modify_risk", [("modifier", .number n)]⟩ }

/-- An administrator asks for secrets. -/
def administratorRequest : Request :=
  { Request.plain ⟨"acme"⟩ "my secret" with user := { User.unknown with role := "admin" } }

/-- Surroundings in which this is the only enabled policy. -/
def scalingAnswers (modifiers : List Number) (c : ServiceCall) : c.Answer :=
  answersOf (fun _ => .ok [scalingRule modifiers]) (.service c)

theorem scalingRule_hasFiniteModifiers {modifiers : List Number} (hfinite : ∀ n ∈ modifiers, n.IsFinite) :
    ∀ p ∈ [scalingRule modifiers], p.HasFiniteModifiers := by
  intro p hp
  obtain rfl := List.mem_singleton.1 hp
  rintro a ha - n hn
  obtain ⟨m, hm, rfl⟩ := List.mem_map.1 ha
  obtain rfl : m = n := by simpa [lookup] using hn
  exact hfinite m hm

theorem factorsFor_scalingRule (modifiers : List Number) :
    factorsFor [scalingRule modifiers] administratorRequest = modifiers.map Number.toFloat := by
  have happlies : (scalingRule modifiers).appliesTo administratorRequest = true := by
    -- its conditions are those of the policy that blocks
    change acmeRule.appliesTo administratorRequest = true
    decide +kernel
  have hfactor (n : Number) :
      (Action.mk "modify_risk" [("modifier", .number n)]).factor? = some n.toFloat := rfl
  rw [factorsFor, assessmentOrder, List.mergeSort_singleton, List.filter_singleton, happlies]
  simp [Policy.factors, scalingRule, List.filterMap_map, hfactor]

/-- Two factors beyond the range of doubles. -/
def largeModifiers : List Number := [.real 1e200, .real 1e200]

/-- An overflow alone is cut off at one. -/
theorem overflow_told :
    ∃ d : Decision, ((Engine.decideByStore administratorRequest).replay (I := serviceInterface)
        (scalingAnswers largeModifiers)).2 = .ok d ∧
      d.riskScore = 1 ∧ d.TellsRisk := by
  obtain ⟨d, hd, hscore, htells, -⟩ :=
    risk_told_unless_overflowing (scalingAnswers largeModifiers) administratorRequest rfl
      (scalingRule_hasFiniteModifiers (by decide +kernel))
  obtain ⟨n, hn, wholeTables, hinitial⟩ := Risk.exists_scoreOf_eq administratorRequest
  have hcut : ∀ n < 4, ∀ wholeTables, Decision.clamp
      ((largeModifiers.map Number.toFloat).foldl (· * ·) (Risk.scoreOf n true wholeTables)) = 1 := by
    decide +kernel
  rw [factorsFor_scalingRule] at hscore htells
  refine ⟨d, hd, ?_, htells (not_overflowsBeforeNought (by decide +kernel))⟩
  rw [hscore, hinitial]
  exact hcut n hn wholeTables

/-- With a factor of nought behind it, the overflow leaves no number. -/
theorem overflow_before_nought_not_told :
    ¬ ∀ (answers : (c : ServiceCall) → c.Answer) (r : Request) (policies : List Policy),
      answers (.store (.enabledPolicies r.tenant)) = .ok policies →
      (∀ p ∈ policies, p.HasFiniteModifiers) →
      ∃ d : Decision, ((Engine.decideByStore r).replay (I := serviceInterface) answers).2 = .ok d ∧
        d.TellsRisk := by
  intro htold
  obtain ⟨d, hd, htells⟩ := htold (scalingAnswers (largeModifiers ++ [.integer 0])) administratorRequest _
    rfl (scalingRule_hasFiniteModifiers (by decide +kernel))
  obtain ⟨n, hn, wholeTables, hinitial⟩ := Risk.exists_scoreOf_eq administratorRequest
  have hlost : ∀ n < 4, ∀ wholeTables, (Decision.clamp
      (((largeModifiers ++ [Number.integer 0]).map Number.toFloat).foldl (· * ·)
        (Risk.scoreOf n true wholeTables))).isNaN = true := by
    decide +kernel
  rw [Engine.replay_decideByStore rfl] at hd
  obtain rfl := Except.ok.inj hd
  have hnumber := htells.isNumber
  rw [Decision.riskScore_ofPolicies, factorsFor_scalingRule, hinitial] at hnumber
  exact ne_true_of_eq_false hnumber (hlost n hn wholeTables)

end Governance
