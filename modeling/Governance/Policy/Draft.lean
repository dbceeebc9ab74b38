import Governance.Policy.Basic

/-!
# Drafts

A draft is a policy as someone submits it: the kind is still a word, and identifier and tier may be
left out. A draft becomes a new policy, or it overwrites one that exists.
-/

namespace Governance

/-- A policy as someone submits it. -/
structure PolicyDraft where
  id : Option PolicyId
  name : String
  description : String
  kind : String
  tier : Option PolicyTier
  priority : Int32
  enabled : Bool
  conditions : List Condition
  actions : List Action
  category : Option String
  tags : List String
  deriving BEq, Repr

namespace PolicyDraft

/-- An enabled draft with a name and a kind and nothing else. -/
def named (name : String) (kind : PolicyKind) : PolicyDraft :=
  ⟨none, name, "", kind.word, none, 0, true, [], [], none, []⟩

/-- The tier the policy will have: that of a tenant unless the draft says otherwise. -/
def effectiveTier (d : PolicyDraft) : PolicyTier := d.tier.getD .tenant

/-- The new policy that a draft describes, or the word for its kind when that means nothing. `fresh`
is the identifier it gets when it brings none. -/
def toPolicy (d : PolicyDraft) (fresh : PolicyId) (tenant : TenantId) (actor : String)
    (now : Instant) : Except String Policy :=
  match PolicyKind.ofWord? d.kind with
  | none => .error d.kind
  | some kind => .ok {
      id := d.id.getD fresh
      tenant := tenant
      name := d.name
      description := d.description
      kind := kind
      tier := d.effectiveTier
      priority := d.priority
      enabled := d.enabled
      conditions := d.conditions
      actions := d.actions
      category := d.category
      tags := d.tags
      version := 1
      createdAt := now
      updatedAt := now
      createdBy := actor
      updatedBy := actor }

variable {d : PolicyDraft} {fresh : PolicyId} {tenant : TenantId} {actor : String} {now : Instant}
  {p : Policy}

/-- A policy that was made of a draft shows the draft, and its kind is what the draft's word means. -/
theorem eq_of_toPolicy (hp : d.toPolicy fresh tenant actor now = .ok p) :
    ∃ kind, PolicyKind.ofWord? d.kind = some kind ∧
      p = ⟨d.id.getD fresh, tenant, d.name, d.description, kind, d.effectiveTier, d.priority,
        d.enabled, d.conditions, d.actions, d.category, d.tags, 1, now, now, actor, actor⟩ := by
  unfold toPolicy at hp
  split at hp
  · cases hp
  · rename_i kind hkind
    exact ⟨kind, hkind, (Except.ok.inj hp).symm⟩

theorem kind_of_toPolicy_error {word : String}
    (hword : d.toPolicy fresh tenant actor now = .error word) :
    PolicyKind.ofWord? d.kind = none ∧ word = d.kind := by
  unfold toPolicy at hword
  split at hword
  · rename_i hkind
    exact ⟨hkind, (Except.error.inj hword).symm⟩
  · cases hword

theorem id_of_toPolicy (hp : d.toPolicy fresh tenant actor now = .ok p) :
    p.id = d.id.getD fresh := by
  obtain ⟨_, _, rfl⟩ := eq_of_toPolicy hp
  rfl

end PolicyDraft

/-- The policy with the content of a draft, one version later. Identifier, tenant, tier and origin
stay, and so does the kind when the draft's word for it means nothing. -/
def Policy.overwrite (p : Policy) (d : PolicyDraft) (actor : String) (now : Instant) : Policy :=
  { p with
    name := d.name
    description := d.description
    kind := (PolicyKind.ofWord? d.kind).getD p.kind
    conditions := d.conditions
    actions := d.actions
    priority := d.priority
    enabled := d.enabled
    category := d.category
    tags := d.tags
    version := p.version + 1
    updatedAt := now
    updatedBy := actor }

end Governance

namespace Governance

/-!
## Patches

A patch gives new values for some fields of a policy and leaves the others alone.
-/

/-- New values for some fields of a policy. -/
structure PolicyPatch where
  name : Option String
  description : Option String
  kind : Option String
  conditions : Option (List Condition)
  actions : Option (List Action)
  priority : Option Int32
  enabled : Option Bool
  category : Option String
  tags : Option (List String)
  deriving BEq, Repr

def PolicyPatch.isEmpty (p : PolicyPatch) : Bool :=
  p.name.isNone && p.description.isNone && p.kind.isNone && p.conditions.isNone &&
    p.actions.isNone && p.priority.isNone && p.enabled.isNone && p.category.isNone && p.tags.isNone

/-- The policy with the fields of a patch, one version later. A word for the kind that means nothing
is passed over. -/
def Policy.applyPatch (p : Policy) (patch : PolicyPatch) (actor : String) (now : Instant) :
    Policy :=
  { p with
    name := patch.name.getD p.name
    description := patch.description.getD p.description
    kind := (patch.kind.bind PolicyKind.ofWord?).getD p.kind
    conditions := patch.conditions.getD p.conditions
    actions := patch.actions.getD p.actions
    priority := patch.priority.getD p.priority
    enabled := patch.enabled.getD p.enabled
    category := patch.category.or p.category
    tags := patch.tags.getD p.tags
    version := p.version + 1
    updatedAt := now
    updatedBy := actor }

end Governance
