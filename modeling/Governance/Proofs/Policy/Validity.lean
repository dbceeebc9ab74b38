import Governance.Decision.Engine
import Governance.Policy.Validation

/-!
# Valid policies

A draft is checked as a whole, a patch only where it gives a value, and a policy is made of drafts and
patches field by field. Every check concerns one field, so what comes of valid drafts and patches is
valid again, in whatever order they come. A valid policy means what it says: its operators and kinds of
actions are known, its patterns can be read, and its lists are lists, so that nothing in it is passed
over when a request is put before it.
-/

namespace Governance

/-- A policy read back as a draft. -/
def Policy.asDraft (p : Policy) : PolicyDraft where
  id := some p.id
  name := p.name
  description := p.description
  kind := p.kind.word
  tier := some p.tier
  priority := p.priority
  enabled := p.enabled
  conditions := p.conditions
  actions := p.actions
  category := p.category
  tags := p.tags

theorem Policy.kind_asDraft (p : Policy) : PolicyKind.ofWord? p.asDraft.kind = some p.kind :=
  PolicyKind.ofWord?_word p.kind

/-- The operator of a condition is known and can be applied to its operand. -/
def Condition.Testable (c : Condition) : Prop :=
  ∃ op, Operator.ofWord? c.operator = some op ∧
    (op = .regex → ∃ source pattern, c.value = .string source ∧ Pattern.ofText source = .ok pattern) ∧
    (op.takesList → ∃ items, c.value = .array items)

/-- The fields are within their bounds, there are conditions and actions, and all of them are known. -/
structure Policy.WellFormed (p : Policy) : Prop where
  name : 3 ≤ p.name.length ∧ p.name.length ≤ 100
  description : p.description.length ≤ 500
  priority : 0 ≤ p.priority ∧ p.priority ≤ 1000
  conditions : p.conditions ≠ [] ∧ ∀ c ∈ p.conditions, c.Testable
  actions : p.actions ≠ [] ∧ ∀ a ∈ p.actions, a.kind?.isSome

/-! ### Checks that find nothing -/

section Checks

variable {field message : String}

theorem require_eq_nil {met : Bool} : require met field message = [] ↔ met = true := by
  unfold require
  cases met <;> simp

theorem itemFaults_eq_nil {α : Type} {problem? : α → Option String} {items : List α} {index : Nat} :
    itemFaults field problem? index items = [] ↔ ∀ item ∈ items, problem? item = none := by
  induction items generalizing index with
  | nil => simp [itemFaults]
  | cons item rest ih =>
    unfold itemFaults
    dsimp only
    rw [List.append_eq_nil_iff, ih, List.forall_mem_cons]
    apply and_congr_left'
    cases problem? item <;> simp

theorem conditionsFaults_eq_nil {conditions : List Condition} :
    conditionsFaults conditions = [] ↔
      conditions ≠ [] ∧ ∀ c ∈ conditions, c.problem? = none := by
  unfold conditionsFaults
  rw [List.append_eq_nil_iff, require_eq_nil, itemFaults_eq_nil]
  simp

theorem actionsFaults_eq_nil {actions : List Action} :
    actionsFaults actions = [] ↔ actions ≠ [] ∧ ∀ a ∈ actions, a.kind?.isSome := by
  unfold actionsFaults
  rw [List.append_eq_nil_iff, require_eq_nil, itemFaults_eq_nil]
  simp [Action.problem?, Option.isSome_iff_ne_none]

theorem kindFaults_eq_nil {word : String} :
    kindFaults word = [] ↔ (PolicyKind.ofWord? word).isSome :=
  require_eq_nil

theorem faultsIfSome_eq_nil {α : Type} {faults : α → List FieldFault} {given : Option α} :
    faultsIfSome faults given = [] ↔ ∀ a, given = some a → faults a = [] := by
  cases given <;> simp [faultsIfSome]

end Checks

/-- A condition without a problem can be tested. -/
theorem Condition.testable_of_problem?_eq_none {c : Condition} (hc : c.problem? = none) :
    c.Testable := by
  unfold problem? at hc
  split at hc
  · cases hc
  split at hc
  · cases hc
  split at hc
  · cases hc
  · rename_i op hop
    refine ⟨op, hop, ?_, ?_⟩
    · rintro rfl
      unfold operandProblem? at hc
      rw [if_pos rfl] at hc
      split at hc
      · rename_i source hvalue
        unfold patternProblem? at hc
        split at hc
        · rename_i pattern hpattern
          exact ⟨source, pattern, hvalue, hpattern⟩
        · cases hc
      · cases hc
    · intro hlist
      have hother : op ≠ .regex := by
        rintro rfl
        cases hlist
      unfold operandProblem? at hc
      rw [if_neg hother, hlist] at hc
      cases hvalue : c.value with
      | array items => exact ⟨items, rfl⟩
      | _ => rw [hvalue] at hc; cases hc

/-- Every check on a field that policies have finds nothing. -/
structure Policy.Valid (p : Policy) : Prop where
  name : nameFaults p.name = []
  description : descriptionFaults p.description = []
  conditions : conditionsFaults p.conditions = []
  actions : actionsFaults p.actions = []
  priority : priorityFaults p.priority = []

theorem PolicyDraft.faults_eq_nil {d : PolicyDraft} : d.faults = [] ↔
    nameFaults d.name = [] ∧ descriptionFaults d.description = [] ∧
      (PolicyKind.ofWord? d.kind).isSome ∧ conditionsFaults d.conditions = [] ∧
      actionsFaults d.actions = [] ∧ priorityFaults d.priority = [] := by
  have hkind : (if d.kind.isEmpty then [⟨"type", "Type is required"⟩] else kindFaults d.kind) = [] ↔
      (PolicyKind.ofWord? d.kind).isSome := by
    split
    · rename_i hempty
      rw [String.isEmpty_iff.1 hempty]
      exact iff_of_false (List.cons_ne_nil _ _) (by decide)
    · exact kindFaults_eq_nil
  unfold faults
  simp only [List.append_eq_nil_iff, hkind, and_assoc]

theorem PolicyPatch.exists_kind {patch : PolicyPatch} (hpatch : patch.faults = []) {word : String}
    (hword : patch.kind = some word) : ∃ kind, PolicyKind.ofWord? word = some kind := by
  unfold faults at hpatch
  simp only [List.append_eq_nil_iff] at hpatch
  obtain ⟨⟨⟨⟨_, hkind⟩, _⟩, _⟩, _⟩ := hpatch
  exact Option.isSome_iff_exists.1 (kindFaults_eq_nil.1 (faultsIfSome_eq_nil.1 hkind word hword))

namespace Policy

variable {p : Policy} {d : PolicyDraft} {patch : PolicyPatch} {tenant : TenantId} {actor : String}
  {now : Instant}

/-- A policy is valid exactly if the draft that it is read back as passes the checks of drafts. -/
theorem valid_iff_faults : p.Valid ↔ p.asDraft.faults = [] := by
  rw [PolicyDraft.faults_eq_nil]
  refine ⟨fun ⟨hname, hdescription, hconditions, hactions, hpriority⟩ => ?_, ?_⟩
  · refine ⟨hname, hdescription, ?_, hconditions, hactions, hpriority⟩
    rw [kind_asDraft]
    rfl
  · rintro ⟨hname, hdescription, _, hconditions, hactions, hpriority⟩
    exact ⟨hname, hdescription, hconditions, hactions, hpriority⟩

theorem Valid.wellFormed (hp : p.Valid) : p.WellFormed := by
  obtain ⟨hname, hdescription, hconditions, hactions, hpriority⟩ := hp
  rw [conditionsFaults_eq_nil] at hconditions
  refine ⟨?_, ?_, ?_, ⟨hconditions.1, fun c hc => ?_⟩, actionsFaults_eq_nil.1 hactions⟩
  · simpa using require_eq_nil.1 hname
  · simpa using require_eq_nil.1 hdescription
  · simpa using require_eq_nil.1 hpriority
  · exact Condition.testable_of_problem?_eq_none (hconditions.2 c hc)

/-! ### What is made of valid drafts and patches -/

theorem valid_of_toPolicy {fresh : PolicyId} (hd : d.faults = [])
    (hp : d.toPolicy fresh tenant actor now = .ok p) : p.Valid := by
  obtain ⟨hname, hdescription, _, hconditions, hactions, hpriority⟩ := PolicyDraft.faults_eq_nil.1 hd
  obtain ⟨_, _, rfl⟩ := PolicyDraft.eq_of_toPolicy hp
  exact ⟨hname, hdescription, hconditions, hactions, hpriority⟩

theorem valid_overwrite (p : Policy) (hd : d.faults = []) : (p.overwrite d actor now).Valid := by
  obtain ⟨hname, hdescription, _, hconditions, hactions, hpriority⟩ := PolicyDraft.faults_eq_nil.1 hd
  exact ⟨hname, hdescription, hconditions, hactions, hpriority⟩

/-- A field is either that of the patch, which is checked, or that of the policy, which was. -/
theorem Valid.applyPatch (hp : p.Valid) (hpatch : patch.faults = []) :
    (p.applyPatch patch actor now).Valid := by
  have hfield {α : Type} {faults : α → List FieldFault} {given : Option α} {old : α}
      (hgiven : faultsIfSome faults given = []) (hold : faults old = []) :
      faults (given.getD old) = [] := by
    cases given with
    | none => exact hold
    | some new => exact hgiven
  unfold PolicyPatch.faults at hpatch
  simp only [List.append_eq_nil_iff] at hpatch
  obtain ⟨⟨⟨⟨⟨hname, hdescription⟩, _⟩, hconditions⟩, hactions⟩, hpriority⟩ := hpatch
  exact ⟨hfield hname hp.name, hfield hdescription hp.description, hfield hconditions hp.conditions,
    hfield hactions hp.actions, hfield hpriority hp.priority⟩

/-! ### Kinds are not passed over -/

theorem kind_overwrite (p : Policy) (hd : d.faults = []) :
    PolicyKind.ofWord? d.kind = some (p.overwrite d actor now).kind := by
  obtain ⟨_, _, hkind, _⟩ := PolicyDraft.faults_eq_nil.1 hd
  obtain ⟨kind, hkind⟩ := Option.isSome_iff_exists.1 hkind
  rw [overwrite, hkind]
  rfl

theorem kind_applyPatch (p : Policy) (hpatch : patch.faults = []) {word : String}
    (hword : patch.kind = some word) :
    PolicyKind.ofWord? word = some (p.applyPatch patch actor now).kind := by
  obtain ⟨kind, hkind⟩ := PolicyPatch.exists_kind hpatch hword
  rw [applyPatch, hword, Option.bind_some, hkind]
  rfl

end Policy

/-! ### What a request meets -/

namespace Condition.Testable

variable {c : Condition} {op : Operator}

/-- The pattern of a condition is the one that is looked for. -/
theorem holds_regex (hc : c.Testable) (hop : Operator.ofWord? c.operator = some op)
    (hregex : op = .regex) : ∃ source pattern, c.value = .string source ∧
      Pattern.ofText source = .ok pattern ∧
      ∀ text, op.holds text c.value = Pattern.occursIn pattern text := by
  obtain ⟨op', hop', hpattern, _⟩ := hc
  obtain rfl := Option.some.inj (hop.symm.trans hop')
  obtain ⟨source, pattern, hvalue, hread⟩ := hpattern hregex
  refine ⟨source, pattern, hvalue, hread, fun text => ?_⟩
  rw [hregex, hvalue, Operator.holds, occursPattern, hread]

theorem operandTexts (hc : c.Testable) (hop : Operator.ofWord? c.operator = some op)
    (hlist : op.takesList) : ∃ items, c.value = .array items ∧
      operandTexts? c.value = some (items.map operandText) := by
  obtain ⟨op', hop', _, hitems⟩ := hc
  obtain rfl := Option.some.inj (hop.symm.trans hop')
  obtain ⟨items, hvalue⟩ := hitems hlist
  rw [hvalue]
  exact ⟨items, rfl, rfl⟩

end Condition.Testable

theorem conditionEvents_message {r : Request} {conditions : List Condition} {index : Nat} {e : Event}
    (he : e ∈ conditionEvents r index conditions) : e.message = "condition evaluated" := by
  induction conditions generalizing index with
  | nil => exact absurd he List.not_mem_nil
  | cons c rest ih =>
    unfold conditionEvents at he
    split at he
    · rcases List.mem_cons.1 he with rfl | hlater
      · rfl
      · exact ih hlater
    · rw [List.mem_singleton.1 he]
      rfl

/-- No action of a well-formed policy is reported as unknown. -/
theorem Policy.WellFormed.policyEvents {p : Policy} (hp : p.WellFormed) (r : Request) {e : Event}
    (he : e ∈ policyEvents r p) : e.message ≠ "ignoring unknown action type" := by
  rcases List.mem_append.1 he with hcondition | hmatched
  · rw [conditionEvents_message hcondition]
    decide
  split at hmatched
  · rcases List.mem_cons.1 hmatched with rfl | haction
    · exact (by decide : "policy matched" ≠ "ignoring unknown action type")
    · obtain ⟨a, ha, hevent⟩ := List.mem_flatMap.1 haction
      obtain ⟨kind, hkind⟩ := Option.isSome_iff_exists.1 (hp.actions.2 a ha)
      unfold actionEvents at hevent
      rw [hkind] at hevent
      cases kind with
      | alert =>
        rw [List.mem_singleton.1 hevent]
        exact (by decide : "policy alert triggered" ≠ "ignoring unknown action type")
      | log =>
        rw [List.mem_singleton.1 hevent]
        exact (by decide : "policy log action triggered" ≠ "ignoring unknown action type")
      | _ => exact absurd hevent List.not_mem_nil
  · exact absurd hmatched List.not_mem_nil

theorem decisionEvents_known {policies : List Policy} (hpolicies : ∀ p ∈ policies, p.WellFormed)
    (r : Request) {e : Event} (he : e ∈ decisionEvents policies r) :
    e.message ≠ "ignoring unknown action type" := by
  rcases List.mem_append.1 he with hpolicy | hend
  · obtain ⟨p, hp, hevent⟩ := List.mem_flatMap.1 hpolicy
    exact (hpolicies p (List.mem_mergeSort.1 hp)).policyEvents r hevent
  · rw [List.mem_singleton.1 hend]
    exact (by decide : "policy evaluation complete" ≠ "ignoring unknown action type")

end Governance
