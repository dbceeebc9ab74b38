import Governance.Decision.Engine
import Governance.Store.Memory

/-!
# When a decision refuses a request

Refusing is the only thing that an action can do to the flag of a decision, and nothing takes it
back, so a request is refused exactly when a policy that matches it has an action that blocks. The
order in which the policies are assessed decides on reasons and obligations, but not on this.
-/

namespace Governance

theorem Policy.appliesTo_iff {p : Policy} {r : Request} :
    p.appliesTo r = true ↔ ∀ c ∈ p.conditions, c.holds r = true := by
  rw [appliesTo, allHold, List.all_eq_true]

theorem blocks_iff {actions : List Action} :
    blocks actions = true ↔ ∃ a ∈ actions, a.kind? = some .block := by
  simp only [blocks, List.any_eq_true, decide_eq_true_eq]

namespace Assessment

/-- Only a blocking action changes whether a request may pass. -/
theorem take_allowed (s : Assessment) (policy : Policy) (a : Action) :
    (s.take policy a).decision.allowed = (s.decision.allowed && a.kind? ≠ some .block) := by
  unfold take
  cases hkind : a.kind? with
  | none => simp
  | some kind =>
    cases kind with
    | block => simp [Decision.block]
    | redact => simp [Decision.oblige]
    | alert => simp
    | log => simp
    | route => cases a.text? "provider" <;> simp [Decision.oblige]
    | modifyRisk => cases riskModifier? a <;> simp

theorem takeAll_allowed (policy : Policy) (actions : List Action) (s : Assessment) :
    (actions.foldl (fun s a => s.take policy a) s).decision.allowed =
      (s.decision.allowed && !blocks actions) := by
  induction actions generalizing s with
  | nil => simp [blocks]
  | cons a rest ih =>
    rw [List.foldl_cons, ih, take_allowed]
    simp [blocks, Bool.and_assoc]

theorem consider_allowed (r : Request) (s : Assessment) (policy : Policy) :
    (consider r s policy).decision.allowed =
      (s.decision.allowed && !(policy.appliesTo r && blocks policy.actions)) := by
  unfold consider
  cases policy.appliesTo r with
  | true => simp [takeAll_allowed, Decision.apply]
  | false => simp

theorem considerAll_allowed (r : Request) (policies : List Policy) (s : Assessment) :
    (policies.foldl (consider r) s).decision.allowed =
      (s.decision.allowed && !policies.any fun p => p.appliesTo r && blocks p.actions) := by
  induction policies generalizing s with
  | nil => simp
  | cons p rest ih =>
    rw [List.foldl_cons, ih, consider_allowed]
    simp [Bool.and_assoc]

end Assessment

theorem Decision.ofPolicies_allowed (policies : List Policy) (r : Request) :
    (ofPolicies policies r).allowed =
      !policies.any fun p => p.appliesTo r && blocks p.actions := by
  have hperm : (assessmentOrder policies).Perm policies := List.mergeSort_perm policies _
  have hflag : (ofPolicies policies r).allowed =
      (assess (assessmentOrder policies) r).decision.allowed := rfl
  rw [hflag, assess, Assessment.considerAll_allowed, hperm.any_eq]
  rfl

/-! ### The policies of a store -/

end Governance
