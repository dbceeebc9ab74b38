import Mathlib.Data.List.TakeWhile
import Governance.Policy.Validation

/-!
# The faults of drafts and patches

A draft and a patch are checked field by field, by the same checks in the same order. Every fault
says by its key which field it is about, so the faults of a patch are those that a patch with all the
fields of a draft has, as far as they are about fields that it gives. Only a missing kind is put in
other words for a draft than for a patch.
-/

namespace Governance

/-- The field that the key of a fault names, without the index of an item. -/
def fieldOfKey (key : String) : String := String.ofList (key.toList.takeWhile (· ≠ '['))

/-- The patch that gives every field of a draft that is checked. -/
def PolicyDraft.asPatch (d : PolicyDraft) : PolicyPatch where
  name := some d.name
  description := some d.description
  kind := some d.kind
  conditions := some d.conditions
  actions := some d.actions
  priority := some d.priority
  enabled := none
  category := none
  tags := none

namespace PolicyPatch

/-- Whether a patch gives the field of that name, out of those that are checked. -/
def gives (p : PolicyPatch) : String → Bool
  | "name" => p.name.isSome
  | "description" => p.description.isSome
  | "type" => p.kind.isSome
  | "conditions" => p.conditions.isSome
  | "actions" => p.actions.isSome
  | "priority" => p.priority.isSome
  | _ => false

/-- Where a patch gives a field that is checked, it gives the one of a draft. -/
structure PartOf (p : PolicyPatch) (d : PolicyDraft) : Prop where
  name : ∀ name ∈ p.name, name = d.name
  description : ∀ description ∈ p.description, description = d.description
  kind : ∀ kind ∈ p.kind, kind = d.kind
  conditions : ∀ conditions ∈ p.conditions, conditions = d.conditions
  actions : ∀ actions ∈ p.actions, actions = d.actions
  priority : ∀ priority ∈ p.priority, priority = d.priority

end PolicyPatch

/-! ### What faults are about -/

section Keys

variable {f : FieldFault} {field message : String}

theorem forall_ne_bracket (hfield : '[' ∉ field.toList) :
    ∀ c ∈ field.toList, decide (c ≠ '[') = true := by
  intro c hc
  refine decide_eq_true ?_
  rintro rfl
  exact hfield hc

theorem fieldOfKey_self (hfield : '[' ∉ field.toList) : fieldOfKey field = field := by
  rw [fieldOfKey, List.takeWhile_eq_self_iff.2 (forall_ne_bracket hfield), String.ofList_toList]

theorem fieldOfKey_indexed (hfield : '[' ∉ field.toList) (rest : String) :
    fieldOfKey (field ++ "[" ++ rest) = field := by
  unfold fieldOfKey
  rw [String.toList_append, String.toList_append, List.append_assoc,
    List.takeWhile_append_of_pos (forall_ne_bracket hfield)]
  simp

theorem field_of_mem_require {met : Bool} (hfield : '[' ∉ field.toList)
    (hf : f ∈ require met field message) : fieldOfKey f.field = field := by
  unfold require at hf
  split at hf
  · cases hf
  · rw [List.mem_singleton.1 hf]
    exact fieldOfKey_self hfield

theorem field_of_mem_itemFaults {α : Type} {problem? : α → Option String} {items : List α}
    {index : Nat} (hfield : '[' ∉ field.toList) (hf : f ∈ itemFaults field problem? index items) :
    fieldOfKey f.field = field := by
  induction items generalizing index with
  | nil => cases hf
  | cons item rest ih =>
    unfold itemFaults at hf
    rcases List.mem_append.1 hf with hhere | hlater
    · split at hhere
      · rw [List.mem_singleton.1 hhere, String.append_assoc]
        exact fieldOfKey_indexed hfield _
      · cases hhere
    · exact ih hlater

/-- The faults of a list, or of its items, are about the list. -/
theorem field_of_mem_append {α : Type} {met : Bool} {problem? : α → Option String} {items : List α}
    {index : Nat} (hfield : '[' ∉ field.toList)
    (hf : f ∈ require met field message ++ itemFaults field problem? index items) :
    fieldOfKey f.field = field := by
  rcases List.mem_append.1 hf with hlist | hitem
  · exact field_of_mem_require hfield hlist
  · exact field_of_mem_itemFaults hfield hitem

end Keys

/-! ### Faults of a part -/

namespace PolicyPatch

variable {p : PolicyPatch} {d : PolicyDraft}

theorem filter_gives {α : Type} (faults : α → List FieldFault) {given : Option α} {value : α}
    {field : String} (hgiven : ∀ a ∈ given, a = value) (hgives : p.gives field = given.isSome)
    (hfield : ∀ f ∈ faults value, fieldOfKey f.field = field) :
    (faults value).filter (fun f => p.gives (fieldOfKey f.field)) = faultsIfSome faults given := by
  cases given with
  | none =>
    refine List.filter_eq_nil_iff.2 fun f hf => ?_
    rw [hfield f hf, hgives]
    exact Bool.false_ne_true
  | some a =>
    obtain rfl := hgiven a rfl
    refine List.filter_eq_self.2 fun f hf => ?_
    rw [hfield f hf, hgives]
    rfl

theorem PartOf.faults_eq (hp : p.PartOf d) :
    p.faults = d.asPatch.faults.filter fun f => p.gives (fieldOfKey f.field) := by
  have hwhole : d.asPatch.faults = nameFaults d.name ++ descriptionFaults d.description ++
      kindFaults d.kind ++ conditionsFaults d.conditions ++ actionsFaults d.actions ++
      priorityFaults d.priority := rfl
  simp only [hwhole, List.filter_append]
  rw [filter_gives nameFaults hp.name rfl fun _ hf => field_of_mem_require (by decide) hf,
    filter_gives descriptionFaults hp.description rfl
      fun _ hf => field_of_mem_require (by decide) hf,
    filter_gives kindFaults hp.kind rfl fun _ hf => field_of_mem_require (by decide) hf,
    filter_gives conditionsFaults hp.conditions rfl
      fun _ hf => field_of_mem_append (by decide) hf,
    filter_gives actionsFaults hp.actions rfl fun _ hf => field_of_mem_append (by decide) hf,
    filter_gives priorityFaults hp.priority rfl fun _ hf => field_of_mem_require (by decide) hf]
  rfl

end PolicyPatch

/-! ### Drafts and patches -/

namespace PolicyDraft

variable {d : PolicyDraft}

theorem faults_asPatch (hkind : d.kind ≠ "") : d.asPatch.faults = d.faults := by
  have hgiven : d.kind.isEmpty = false :=
    Bool.eq_false_iff.2 fun hempty => hkind (String.isEmpty_iff.1 hempty)
  rw [faults, hgiven]
  rfl

/-- A missing kind is reported under the same key, in other words. -/
theorem keys_asPatch (d : PolicyDraft) :
    d.asPatch.faults.map (·.field) = d.faults.map (·.field) := by
  by_cases hkind : d.kind = ""
  · have hsame : (kindFaults d.kind).map (·.field) =
        (if d.kind.isEmpty then [⟨"type", "Type is required"⟩] else kindFaults d.kind).map
          (·.field) := by
      rw [hkind]
      rfl
    simp only [faults, PolicyPatch.faults, asPatch, faultsIfSome, List.map_append, hsame]
  · rw [faults_asPatch hkind]

/-- A draft and the patch that gives its fields have faults under the same keys in the same order,
and the same faults unless the kind is missing; so both pass their checks or neither does. A patch
that gives some of the fields has exactly those of the faults that are about them. -/
theorem checks_agree (d : PolicyDraft) :
    (d.asPatch.faults = [] ↔ d.faults = []) ∧
    d.asPatch.faults.map (·.field) = d.faults.map (·.field) ∧
    (d.kind ≠ "" → d.asPatch.faults = d.faults) ∧
    ∀ p : PolicyPatch, p.PartOf d →
      p.faults = d.asPatch.faults.filter (fun f => p.gives (fieldOfKey f.field)) ∧
      p.faults.map (·.field) =
        (d.faults.map (·.field)).filter fun key => p.gives (fieldOfKey key) := by
  refine ⟨?_, d.keys_asPatch, faults_asPatch, fun p hp => ⟨hp.faults_eq, ?_⟩⟩
  · rw [← List.map_eq_nil_iff (f := FieldFault.field), d.keys_asPatch, List.map_eq_nil_iff]
  · rw [hp.faults_eq, ← d.keys_asPatch, List.filter_map]
    rfl

/-- Nothing is as it should be, and one condition and one action mean nothing. -/
def faultyDraft : PolicyDraft :=
  { PolicyDraft.named "ab" .content with
    kind := ""
    conditions := [⟨"query", "contains", .string "secret"⟩, ⟨"query", "in", .string "secret"⟩]
    actions := [⟨"explode", []⟩]
    priority := 1001 }

/-- The name is not given, and the patch switches the policy off besides. -/
def faultyPart : PolicyPatch :=
  { faultyDraft.asPatch with name := none, priority := none, enabled := some false }

theorem faultyPart_checked :
    faultyPart.PartOf faultyDraft ∧
      faultyDraft.faults.map (·.field) =
        ["name", "type", "conditions[1]", "actions[0]", "priority"] ∧
      faultyPart.faults.map (·.field) = ["type", "conditions[1]", "actions[0]"] := by
  have hpart : faultyPart.PartOf faultyDraft := by
    constructor <;> simp [faultyPart, asPatch]
  have hkeys : faultyDraft.faults.map (·.field) =
      ["name", "type", "conditions[1]", "actions[0]", "priority"] := by
    decide +kernel
  refine ⟨hpart, hkeys, ?_⟩
  rw [((checks_agree faultyDraft).2.2.2 faultyPart hpart).2, hkeys]
  decide +kernel

end PolicyDraft

end Governance
