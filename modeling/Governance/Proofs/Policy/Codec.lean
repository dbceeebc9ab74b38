import Governance.Proofs.Json.Canonical
import Governance.Proofs.Json.Records
import Governance.Proofs.Policy.Validity
import Governance.Proofs.Time.Text
import Governance.Transfer.Basic

/-!
# Policies read as drafts

A policy is written with more fields than a draft has, and the fields of a draft have defaults of their
own. A written policy is read as the draft that shows all that a draft can show of it, and a written
export as the request to import these drafts. Values that are kept as they were written have to be maps
where they are objects; what was read always is.
-/

namespace Governance

open Json

section Written

variable {fields : List (String × Option Json)} {name : String} {content : Option Json}

theorem Json.find_present (hdistinct : (fields.map (·.1)).Nodup)
    (hfield : (name, content) ∈ fields) : (Fields.named (present fields)).find? name = content :=
  lookup_present hdistinct hfield

theorem Json.orElse_present {α : Type} {decode : Decoder α} {value : α}
    (hdistinct : (fields.map (·.1)).Nodup) (other : α) (j : Json)
    (hfield : (name, some j) ∈ fields) (hvalue : decode j = .ok value) :
    (Fields.named (present fields)).orElse name other decode = .ok value :=
  Fields.orElse_of_some (find_present hdistinct hfield) hvalue other

theorem Json.required_present {α : Type} {decode : Decoder α} {value : α}
    (hdistinct : (fields.map (·.1)).Nodup) (j : Json) (hfield : (name, some j) ∈ fields)
    (hvalue : decode j = .ok value) :
    (Fields.named (present fields)).required name decode = .ok value :=
  Fields.required_of_some (find_present hdistinct hfield) hvalue

theorem Json.optional_present {α : Type} {decode : Decoder α} {given : Option α}
    (hdistinct : (fields.map (·.1)).Nodup) (encode : α → Json)
    (hfield : (name, given.map encode) ∈ fields)
    (hread : ∀ a ∈ given, encode a ≠ .null ∧ decode (encode a) = .ok a) :
    (Fields.named (present fields)).optional name decode = .ok given :=
  Fields.optional_of_map (find_present hdistinct hfield) hread

theorem Json.unless_present {β : Type} {decode : Decoder (List β)} {items : List β}
    (hdistinct : (fields.map (·.1)).Nodup) (j : Json)
    (hfield : (name, if items.isEmpty then none else some j) ∈ fields)
    (hitems : decode j = .ok items) :
    (Fields.named (present fields)).orElse name [] decode = .ok items :=
  Fields.orElse_of_unless (find_present hdistinct hfield) hitems

end Written

/-! ### Conditions and actions -/

def Condition.written (c : Condition) : List (String × Option Json) := [
  ("field", some (.string c.field)),
  ("operator", some (.string c.operator)),
  ("value", some c.value)]

def Condition.IsCanonical (c : Condition) : Prop := c.value.IsCanonical

theorem Condition.ofJson_toJson {c : Condition} (hvalue : c.IsCanonical) :
    Condition.ofJson c.toJson = .ok c := by
  have hdistinct : (c.written.map (·.1)).Nodup := by
    change Condition.fieldNames.Nodup
    decide
  have hany : asAny c.value = .ok c.value := congrArg Except.ok hvalue
  have hwritten : c.toJson = .object (present c.written) := rfl
  rw [hwritten]
  unfold Condition.ofJson
  refine bind_eq_ok.2 ⟨_, asFields_present hdistinct, ?_⟩
  refine bind_eq_ok.2
    ⟨c.field, orElse_present hdistinct "" (.string c.field) (by simp [written]) rfl, ?_⟩
  refine bind_eq_ok.2
    ⟨c.operator, orElse_present hdistinct "" (.string c.operator) (by simp [written]) rfl, ?_⟩
  exact bind_eq_ok.2
    ⟨c.value, orElse_present hdistinct .null c.value (by simp [written]) hany, rfl⟩

def Action.written (a : Action) : List (String × Option Json) := [
  ("type", some (.string a.word)),
  ("config", if a.config.isEmpty then none else some (.object a.config))]

theorem Action.toJson_eq (a : Action) : a.toJson = .object (present a.written) := by
  simp only [toJson, entry_eq, entryUnless_eq]
  exact ofEntries_present a.written

def Action.IsCanonical (a : Action) : Prop := (Json.object a.config).IsCanonical

theorem Action.ofJson_toJson {a : Action} (hconfig : a.IsCanonical) :
    Action.ofJson a.toJson = .ok a := by
  have hdistinct : (a.written.map (·.1)).Nodup := by
    change Action.fieldNames.Nodup
    decide
  have hmembers : asMembers (.object a.config) = .ok a.config :=
    congrArg Except.ok (Json.object.inj hconfig)
  rw [toJson_eq]
  unfold Action.ofJson
  refine bind_eq_ok.2 ⟨_, asFields_present hdistinct, ?_⟩
  refine bind_eq_ok.2
    ⟨a.word, orElse_present hdistinct "" (.string a.word) (by simp [written]) rfl, ?_⟩
  have hfound : (Fields.named (present a.written)).find? "config" =
      if a.config.isEmpty then none else some (.object a.config) :=
    find_present hdistinct (by simp [written])
  exact bind_eq_ok.2 ⟨a.config, Fields.orElse_of_unless hfound hmembers, rfl⟩

/-! ### Policies -/

/-- What is kept as it was written is a map wherever it is an object. -/
structure PolicyDraft.IsCanonical (d : PolicyDraft) : Prop where
  conditions : ∀ c ∈ d.conditions, c.IsCanonical
  actions : ∀ a ∈ d.actions, a.IsCanonical

structure PolicyPatch.IsCanonical (p : PolicyPatch) : Prop where
  conditions : ∀ conditions, p.conditions = some conditions → ∀ c ∈ conditions, c.IsCanonical
  actions : ∀ actions, p.actions = some actions → ∀ a ∈ actions, a.IsCanonical

namespace Policy

def IsCanonical (p : Policy) : Prop := p.asDraft.IsCanonical

def written (p : Policy) : List (String × Option Json) := [
  ("id", some p.id.toJson),
  ("tenant_id", some p.tenant.toJson),
  ("name", some (.string p.name)),
  ("description", some (.string p.description)),
  ("type", some p.kind.toJson),
  ("tier", some p.tier.toJson),
  ("priority", some (ofInt p.priority.toInt)),
  ("enabled", some (.bool p.enabled)),
  ("conditions", some (ofList p.conditions Condition.toJson)),
  ("actions", some (ofList p.actions Action.toJson)),
  ("category", p.category.map .string),
  ("tags", if p.tags.isEmpty then none else some (ofStrings p.tags)),
  ("version", some (ofInt p.version.toInt)),
  ("created_at", some (ofInstant p.createdAt)),
  ("updated_at", some (ofInstant p.updatedAt)),
  ("created_by", some (.string p.createdBy)),
  ("updated_by", some (.string p.updatedBy))]

theorem toJson_eq (p : Policy) : p.toJson = .object (present p.written) := by
  simp only [toJson, entry_eq, entryIfSome_eq, entryUnless_eq]
  exact ofEntries_present p.written

theorem distinct_written (p : Policy) : (p.written.map (·.1)).Nodup := by
  change Policy.fieldNames.Nodup
  decide

end Policy

theorem asList_ofStrings (texts : List String) : asList asString (ofStrings texts) = .ok texts :=
  asList_ofList_self fun _ _ => rfl

theorem PolicyDraft.ofJson_toJson {p : Policy} (hp : p.IsCanonical) :
    PolicyDraft.ofJson p.toJson = .ok p.asDraft := by
  have hconditions : asList Condition.ofJson (ofList p.conditions Condition.toJson) =
      .ok p.conditions :=
    asList_ofList_self fun c hc => Condition.ofJson_toJson (hp.conditions c hc)
  have hactions : asList Action.ofJson (ofList p.actions Action.toJson) = .ok p.actions :=
    asList_ofList_self fun a ha => Action.ofJson_toJson (hp.actions a ha)
  have hdistinct := p.distinct_written
  have hfield {α : Type} {name : String} {decode : Decoder α} {value : α} (other : α) (j : Json)
      (hfield : (name, some j) ∈ p.written) (hvalue : decode j = .ok value) :
      (Fields.named (present p.written)).orElse name other decode = .ok value :=
    orElse_present hdistinct other j hfield hvalue
  have htier : asOption PolicyTier.ofJson p.tier.toJson = .ok (some p.tier) := by
    cases p.tier <;> rfl
  have hcategory : (Fields.named (present p.written)).optional "category" asString =
      .ok p.category := by
    have hfound : (Fields.named (present p.written)).find? "category" =
        p.category.map .string := find_present hdistinct (by simp [Policy.written])
    exact Fields.optional_asString hfound
  have htags : (Fields.named (present p.written)).orElse "tags" [] (asList asString) = .ok p.tags :=
    Fields.orElse_of_unless (find_present hdistinct (by simp [Policy.written]))
      (asList_ofStrings p.tags)
  rw [p.toJson_eq]
  unfold PolicyDraft.ofJson
  refine bind_eq_ok.2 ⟨_, asFields_present hdistinct, ?_⟩
  refine bind_eq_ok.2 ⟨some p.id, hfield none p.id.toJson (by simp [Policy.written]) rfl, ?_⟩
  refine bind_eq_ok.2 ⟨p.name, hfield "" (.string p.name) (by simp [Policy.written]) rfl, ?_⟩
  refine bind_eq_ok.2
    ⟨p.description, hfield "" (.string p.description) (by simp [Policy.written]) rfl, ?_⟩
  refine bind_eq_ok.2 ⟨p.kind.word, hfield "" p.kind.toJson (by simp [Policy.written]) rfl, ?_⟩
  refine bind_eq_ok.2 ⟨some p.tier, hfield none p.tier.toJson (by simp [Policy.written]) htier, ?_⟩
  refine bind_eq_ok.2 ⟨p.priority,
    hfield 0 (ofInt p.priority.toInt) (by simp [Policy.written]) (asInt32_ofInt _), ?_⟩
  refine bind_eq_ok.2 ⟨p.enabled, hfield true (.bool p.enabled) (by simp [Policy.written]) rfl, ?_⟩
  refine bind_eq_ok.2
    ⟨p.conditions, hfield [] (ofList p.conditions _) (by simp [Policy.written]) hconditions, ?_⟩
  refine bind_eq_ok.2
    ⟨p.actions, hfield [] (ofList p.actions _) (by simp [Policy.written]) hactions, ?_⟩
  refine bind_eq_ok.2 ⟨p.category, hcategory, ?_⟩
  exact bind_eq_ok.2 ⟨p.tags, htags, rfl⟩

/-- A written export is read as the request to import what its policies show, in the usual mode. -/
theorem ImportRequest.ofJson_toJson {e : PolicyExport} (he : ∀ p ∈ e.policies, p.IsCanonical) :
    ImportRequest.ofJson e.toJson = .ok ⟨e.policies.map Policy.asDraft, none⟩ := by
  have hpolicies : asList PolicyDraft.ofJson (ofList e.policies Policy.toJson) =
      .ok (e.policies.map Policy.asDraft) :=
    asList_ofList fun p hp => PolicyDraft.ofJson_toJson (he p hp)
  unfold ImportRequest.ofJson
  refine bind_eq_ok.2 ⟨.named _, rfl, ?_⟩
  refine bind_eq_ok.2 ⟨_, Fields.orElse_of_some rfl hpolicies [], ?_⟩
  exact bind_eq_ok.2 ⟨none, Fields.orElse_of_none rfl none, rfl⟩

/-! ### Policies as texts -/

section Texts

variable {room : Nat}

theorem Condition.readable {c : Condition} (hvalue : Readable room c.value) :
    Readable (room + 1) c.toJson := by
  have hwritten : c.toJson = .object (present c.written) := rfl
  rw [hwritten]
  refine readable_present ?_
  simp [written, Readable.string, hvalue]

theorem Action.readable {a : Action} (hconfig : ∀ m ∈ a.config, Readable room m.2) :
    Readable (room + 2) a.toJson := by
  have hobject : Readable (room + 1) (.object a.config) := .object hconfig
  rw [toJson_eq]
  refine readable_present ?_
  simp [written, Readable.string, hobject]

/-- What is kept as it was written can be read in the text of an export: its numbers are such as their
texts stand for, and the reader takes as many arrays and objects inside each other as there are with
those of the export around them. -/
structure Policy.IsLegible (p : Policy) : Prop where
  conditions : ∀ c ∈ p.conditions, Readable (depthLimit - 5) c.value
  actions : ∀ a ∈ p.actions, ∀ m ∈ a.config, Readable (depthLimit - 6) m.2

theorem Policy.IsLegible.readable {p : Policy} (hp : p.IsLegible) :
    Readable (depthLimit - 2) p.toJson := by
  have hconditions : Readable 124 (ofList p.conditions Condition.toJson) :=
    readable_ofList fun c hc => Condition.readable (hp.conditions c hc)
  have hactions : Readable 124 (ofList p.actions Action.toJson) :=
    readable_ofList fun a ha => Action.readable (hp.actions a ha)
  rw [toJson_eq]
  refine readable_present ?_
  simp [written, Identifier.toJson, PolicyKind.toJson, PolicyTier.toJson, ofInstant, Readable.string,
    Readable.bool, readable_ofInt32, readable_ofStrings, hconditions, hactions]

theorem PolicyExport.readable {e : PolicyExport} (he : ∀ p ∈ e.policies, p.IsLegible) :
    Readable depthLimit e.toJson := by
  have hpolicies : Readable 126 (ofList e.policies Policy.toJson) :=
    readable_ofList fun p hp => (he p hp).readable
  refine .object (List.forall_mem_cons.2 ⟨hpolicies, ?_⟩)
  exact List.forall_mem_cons.2 ⟨.string _, List.forall_mem_singleton.2 (.string _)⟩

end Texts

/-! ### What was read -/

section Read

variable {j : Json}

theorem Condition.isCanonical_of_ofJson {c : Condition} (hc : Condition.ofJson j = .ok c) :
    c.IsCanonical := by
  obtain ⟨f, _, hc⟩ := bind_eq_ok.1 hc
  obtain ⟨field, _, hc⟩ := bind_eq_ok.1 hc
  obtain ⟨operator, _, hc⟩ := bind_eq_ok.1 hc
  obtain ⟨value, hvalue, hc⟩ := bind_eq_ok.1 hc
  cases hc
  rcases Fields.eq_or_exists_of_orElse hvalue with rfl | ⟨j', hj'⟩
  · exact rfl
  · cases hj'
    exact isCanonical_canonical j'

/-- Members that may be left out are read as a map. -/
theorem Json.isCanonical_of_asMembers {fields : Fields} {name : String}
    {members : List (String × Json)} (h : fields.orElse name [] asMembers = .ok members) :
    (Json.object members).IsCanonical := by
  rcases Fields.eq_or_exists_of_orElse h with rfl | ⟨j', hj'⟩
  · exact rfl
  · cases j' with
    | object given =>
      cases hj'
      exact isCanonical_canonical (.object given)
    | _ => cases hj'

theorem Action.isCanonical_of_ofJson {a : Action} (ha : Action.ofJson j = .ok a) :
    a.IsCanonical := by
  obtain ⟨f, _, ha⟩ := bind_eq_ok.1 ha
  obtain ⟨word, _, ha⟩ := bind_eq_ok.1 ha
  obtain ⟨config, hconfig, ha⟩ := bind_eq_ok.1 ha
  cases ha
  exact isCanonical_of_asMembers hconfig

theorem PolicyDraft.isCanonical_of_ofJson {d : PolicyDraft} (hd : PolicyDraft.ofJson j = .ok d) :
    d.IsCanonical := by
  unfold PolicyDraft.ofJson at hd
  obtain ⟨f, _, hd⟩ := bind_eq_ok.1 hd
  obtain ⟨id, _, hd⟩ := bind_eq_ok.1 hd
  obtain ⟨name, _, hd⟩ := bind_eq_ok.1 hd
  obtain ⟨description, _, hd⟩ := bind_eq_ok.1 hd
  obtain ⟨kind, _, hd⟩ := bind_eq_ok.1 hd
  obtain ⟨tier, _, hd⟩ := bind_eq_ok.1 hd
  obtain ⟨priority, _, hd⟩ := bind_eq_ok.1 hd
  obtain ⟨enabled, _, hd⟩ := bind_eq_ok.1 hd
  obtain ⟨conditions, hconditions, hd⟩ := bind_eq_ok.1 hd
  obtain ⟨actions, hactions, hd⟩ := bind_eq_ok.1 hd
  obtain ⟨category, _, hd⟩ := bind_eq_ok.1 hd
  obtain ⟨tags, _, hd⟩ := bind_eq_ok.1 hd
  cases hd
  constructor
  · exact Fields.forall_of_orElse (fun _ _ => Condition.isCanonical_of_ofJson) hconditions
  · exact Fields.forall_of_orElse (fun _ _ => Action.isCanonical_of_ofJson) hactions

theorem PolicyPatch.isCanonical_of_ofJson {p : PolicyPatch} (hp : PolicyPatch.ofJson j = .ok p) :
    p.IsCanonical := by
  unfold PolicyPatch.ofJson at hp
  obtain ⟨f, _, hp⟩ := bind_eq_ok.1 hp
  obtain ⟨name, _, hp⟩ := bind_eq_ok.1 hp
  obtain ⟨description, _, hp⟩ := bind_eq_ok.1 hp
  obtain ⟨kind, _, hp⟩ := bind_eq_ok.1 hp
  obtain ⟨conditions, hconditions, hp⟩ := bind_eq_ok.1 hp
  obtain ⟨actions, hactions, hp⟩ := bind_eq_ok.1 hp
  obtain ⟨priority, _, hp⟩ := bind_eq_ok.1 hp
  obtain ⟨enabled, _, hp⟩ := bind_eq_ok.1 hp
  obtain ⟨category, _, hp⟩ := bind_eq_ok.1 hp
  obtain ⟨tags, _, hp⟩ := bind_eq_ok.1 hp
  cases hp
  constructor
  · exact Fields.forall_of_optional (fun _ _ => Condition.isCanonical_of_ofJson) hconditions
  · exact Fields.forall_of_optional (fun _ _ => Action.isCanonical_of_ofJson) hactions

end Read

end Governance

namespace Governance

/-!
## Policies are read back

A policy that was written is read as that policy, with everything that a draft does not show: its
version, and who made and changed it when.
-/

open Json

theorem Json.asInstant_ofInstant {t : Instant} (ht : t.IsProper) : asInstant (ofInstant t) = .ok t := by
  rw [ofInstant, asInstant, Instant.parse?_render ht]

namespace Policy

/-- What is kept as it was written is a map wherever it is an object, and the times of the policy are
such as a clock shows. -/
structure IsWritable (p : Policy) : Prop where
  canonical : p.IsCanonical
  created : p.createdAt.IsProper
  updated : p.updatedAt.IsProper

theorem ofJson_toJson {p : Policy} (hp : p.IsWritable) : Policy.ofJson p.toJson = .ok p := by
  have hdistinct := p.distinct_written
  have required {α : Type} {name : String} {decode : Decoder α} {value : α} (j : Json)
      (hfield : (name, some j) ∈ p.written) (hvalue : decode j = .ok value) :
      (Fields.named (present p.written)).required name decode = .ok value :=
    required_present hdistinct j hfield hvalue
  have orElse {α : Type} {name : String} {decode : Decoder α} {value : α} (other : α) (j : Json)
      (hfield : (name, some j) ∈ p.written) (hvalue : decode j = .ok value) :
      (Fields.named (present p.written)).orElse name other decode = .ok value :=
    orElse_present hdistinct other j hfield hvalue
  have hkind : PolicyKind.ofJson p.kind.toJson = .ok p.kind := by cases p.kind <;> rfl
  have htier : PolicyTier.ofJson p.tier.toJson = .ok p.tier := by cases p.tier <;> rfl
  have hconditions : asList Condition.ofJson (ofList p.conditions Condition.toJson) =
      .ok p.conditions :=
    asList_ofList_self fun c hc => Condition.ofJson_toJson (hp.canonical.conditions c hc)
  have hactions : asList Action.ofJson (ofList p.actions Action.toJson) = .ok p.actions :=
    asList_ofList_self fun a ha => Action.ofJson_toJson (hp.canonical.actions a ha)
  have hcategory : (Fields.named (present p.written)).optional "category" asString =
      .ok p.category :=
    Fields.optional_asString (find_present hdistinct (by simp [written]))
  have htags : (Fields.named (present p.written)).orElse "tags" [] (asList asString) = .ok p.tags :=
    Fields.orElse_of_unless (find_present hdistinct (by simp [written])) (asList_ofStrings p.tags)
  rw [p.toJson_eq]
  unfold Policy.ofJson
  refine bind_eq_ok.2 ⟨_, asFields_present hdistinct, ?_⟩
  refine bind_eq_ok.2 ⟨p.id, required p.id.toJson (by simp [written]) rfl, ?_⟩
  refine bind_eq_ok.2 ⟨p.tenant, required p.tenant.toJson (by simp [written]) rfl, ?_⟩
  refine bind_eq_ok.2 ⟨p.name, required (.string p.name) (by simp [written]) rfl, ?_⟩
  refine bind_eq_ok.2
    ⟨p.description, orElse "" (.string p.description) (by simp [written]) rfl, ?_⟩
  refine bind_eq_ok.2 ⟨p.kind, required p.kind.toJson (by simp [written]) hkind, ?_⟩
  refine bind_eq_ok.2 ⟨p.tier, orElse .tenant p.tier.toJson (by simp [written]) htier, ?_⟩
  refine bind_eq_ok.2
    ⟨p.priority, required (ofInt p.priority.toInt) (by simp [written]) (asInt32_ofInt _), ?_⟩
  refine bind_eq_ok.2 ⟨p.enabled, required (.bool p.enabled) (by simp [written]) rfl, ?_⟩
  refine bind_eq_ok.2
    ⟨p.conditions, required (ofList p.conditions _) (by simp [written]) hconditions, ?_⟩
  refine bind_eq_ok.2 ⟨p.actions, required (ofList p.actions _) (by simp [written]) hactions, ?_⟩
  refine bind_eq_ok.2 ⟨p.category, hcategory, ?_⟩
  refine bind_eq_ok.2 ⟨p.tags, htags, ?_⟩
  refine bind_eq_ok.2
    ⟨p.version, required (ofInt p.version.toInt) (by simp [written]) (asInt32_ofInt _), ?_⟩
  refine bind_eq_ok.2 ⟨p.createdAt, required (ofInstant p.createdAt) (by simp [written])
    (asInstant_ofInstant hp.created), ?_⟩
  refine bind_eq_ok.2 ⟨p.updatedAt, required (ofInstant p.updatedAt) (by simp [written])
    (asInstant_ofInstant hp.updated), ?_⟩
  refine bind_eq_ok.2 ⟨p.createdBy, orElse "" (.string p.createdBy) (by simp [written]) rfl, ?_⟩
  exact bind_eq_ok.2 ⟨p.updatedBy, orElse "" (.string p.updatedBy) (by simp [written]) rfl, rfl⟩

end Policy

end Governance
