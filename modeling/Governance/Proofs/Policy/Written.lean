import Governance.Proofs.Policy.Codec
import Governance.Proofs.Uuid

/-!
# Drafts, patches and revisions are read back

A draft, a patch and a revision are written with fields of their own, some of which are left out, and are
read as they were. What is read of policies and revisions can be written again: its times are such as a
clock shows, and its objects are maps.
-/

namespace Governance

open Json

/-! ### Drafts -/

namespace PolicyDraft

def written (d : PolicyDraft) : List (String × Option Json) := [
  ("id", d.id.map Identifier.toJson),
  ("name", some (.string d.name)),
  ("description", some (.string d.description)),
  ("type", some (.string d.kind)),
  ("tier", d.tier.map PolicyTier.toJson),
  ("priority", some (ofInt d.priority.toInt)),
  ("enabled", some (.bool d.enabled)),
  ("conditions", some (ofList d.conditions Condition.toJson)),
  ("actions", some (ofList d.actions Action.toJson)),
  ("category", d.category.map .string),
  ("tags", if d.tags.isEmpty then none else some (ofStrings d.tags))]

theorem toJson_eq (d : PolicyDraft) : d.toJson = .object (present d.written) := by
  simp only [toJson, entry_eq, entryIfSome_eq, entryUnless_eq]
  exact ofEntries_present d.written

theorem ofJson_draft {d : PolicyDraft} (hd : d.IsCanonical) : PolicyDraft.ofJson d.toJson = .ok d := by
  -- the names that are written are those that the reader knows
  have hdistinct : (d.written.map (·.1)).Nodup := by
    change PolicyDraft.fieldNames.Nodup
    decide
  have orElse {α : Type} {name : String} {decode : Decoder α} {value : α} (other : α) (j : Json)
      (hfield : (name, some j) ∈ d.written) (hvalue : decode j = .ok value) :
      (Fields.named (present d.written)).orElse name other decode = .ok value :=
    orElse_present hdistinct other j hfield hvalue
  have hconditions : asList Condition.ofJson (ofList d.conditions Condition.toJson) =
      .ok d.conditions :=
    asList_ofList_self fun c hc => Condition.ofJson_toJson (hd.conditions c hc)
  have hactions : asList Action.ofJson (ofList d.actions Action.toJson) = .ok d.actions :=
    asList_ofList_self fun a ha => Action.ofJson_toJson (hd.actions a ha)
  have htier (t : PolicyTier) : PolicyTier.ofJson t.toJson = .ok t := by cases t <;> rfl
  rw [d.toJson_eq]
  unfold PolicyDraft.ofJson
  refine bind_eq_ok.2 ⟨_, asFields_present hdistinct, ?_⟩
  refine bind_eq_ok.2 ⟨d.id, optional_present hdistinct Identifier.toJson (by simp [written])
    fun id _ => ⟨nofun, rfl⟩, ?_⟩
  refine bind_eq_ok.2 ⟨d.name, orElse "" (.string d.name) (by simp [written]) rfl, ?_⟩
  refine bind_eq_ok.2
    ⟨d.description, orElse "" (.string d.description) (by simp [written]) rfl, ?_⟩
  refine bind_eq_ok.2 ⟨d.kind, orElse "" (.string d.kind) (by simp [written]) rfl, ?_⟩
  refine bind_eq_ok.2 ⟨d.tier, optional_present hdistinct PolicyTier.toJson (by simp [written])
    fun t _ => ⟨nofun, htier t⟩, ?_⟩
  refine bind_eq_ok.2
    ⟨d.priority, orElse 0 (ofInt d.priority.toInt) (by simp [written]) (asInt32_ofInt _), ?_⟩
  refine bind_eq_ok.2 ⟨d.enabled, orElse true (.bool d.enabled) (by simp [written]) rfl, ?_⟩
  refine bind_eq_ok.2
    ⟨d.conditions, orElse [] (ofList d.conditions _) (by simp [written]) hconditions, ?_⟩
  refine bind_eq_ok.2 ⟨d.actions, orElse [] (ofList d.actions _) (by simp [written]) hactions, ?_⟩
  refine bind_eq_ok.2 ⟨d.category, optional_present hdistinct .string (by simp [written])
    fun _ _ => ⟨nofun, rfl⟩, ?_⟩
  exact bind_eq_ok.2 ⟨d.tags, unless_present hdistinct (ofStrings d.tags) (by simp [written])
    (asList_ofStrings d.tags), rfl⟩

end PolicyDraft

/-! ### Patches -/

namespace PolicyPatch

def written (p : PolicyPatch) : List (String × Option Json) := [
  ("name", p.name.map .string),
  ("description", p.description.map .string),
  ("type", p.kind.map .string),
  ("conditions", p.conditions.map (ofList · Condition.toJson)),
  ("actions", p.actions.map (ofList · Action.toJson)),
  ("priority", p.priority.map fun n => ofInt n.toInt),
  ("enabled", p.enabled.map .bool),
  ("category", p.category.map .string),
  ("tags", p.tags.map ofStrings)]

theorem toJson_eq (p : PolicyPatch) : p.toJson = .object (present p.written) := by
  simp only [toJson, entryIfSome_eq]
  exact ofEntries_present p.written

theorem ofJson_toJson {p : PolicyPatch} (hp : p.IsCanonical) :
    PolicyPatch.ofJson p.toJson = .ok p := by
  have hdistinct : (p.written.map (·.1)).Nodup := by
    change PolicyPatch.fieldNames.Nodup
    decide
  have optional {α : Type} {name : String} {decode : Decoder α} {given : Option α} (encode : α → Json)
      (hfield : (name, given.map encode) ∈ p.written)
      (hread : ∀ a ∈ given, encode a ≠ .null ∧ decode (encode a) = .ok a) :
      (Fields.named (present p.written)).optional name decode = .ok given :=
    optional_present hdistinct encode hfield hread
  have htext : ∀ s : String, Json.string s ≠ .null ∧ asString (.string s) = .ok s :=
    fun _ => ⟨nofun, rfl⟩
  rw [toJson_eq]
  unfold PolicyPatch.ofJson
  refine bind_eq_ok.2 ⟨_, asFields_present hdistinct, ?_⟩
  refine bind_eq_ok.2 ⟨p.name, optional .string (by simp [written]) fun s _ => htext s, ?_⟩
  refine bind_eq_ok.2 ⟨p.description, optional .string (by simp [written]) fun s _ => htext s, ?_⟩
  refine bind_eq_ok.2 ⟨p.kind, optional .string (by simp [written]) fun s _ => htext s, ?_⟩
  refine bind_eq_ok.2 ⟨p.conditions, optional (ofList · Condition.toJson) (by simp [written])
    fun conditions hgiven => ⟨nofun, asList_ofList_self fun c hc =>
      Condition.ofJson_toJson (hp.conditions conditions hgiven c hc)⟩, ?_⟩
  refine bind_eq_ok.2 ⟨p.actions, optional (ofList · Action.toJson) (by simp [written])
    fun actions hgiven => ⟨nofun, asList_ofList_self fun a ha =>
      Action.ofJson_toJson (hp.actions actions hgiven a ha)⟩, ?_⟩
  refine bind_eq_ok.2 ⟨p.priority, optional (fun n => ofInt n.toInt) (by simp [written])
    fun n _ => ⟨nofun, asInt32_ofInt n⟩, ?_⟩
  refine bind_eq_ok.2 ⟨p.enabled, optional .bool (by simp [written]) fun _ _ => ⟨nofun, rfl⟩, ?_⟩
  refine bind_eq_ok.2 ⟨p.category, optional .string (by simp [written]) fun s _ => htext s, ?_⟩
  exact bind_eq_ok.2 ⟨p.tags, optional ofStrings (by simp [written])
    fun tags _ => ⟨nofun, asList_ofStrings tags⟩, rfl⟩

end PolicyPatch

/-! ### Policies and revisions -/

theorem Json.isProper_of_asInstant {j : Json} {t : Instant} (ht : asInstant j = .ok t) :
    t.IsProper := by
  unfold asInstant at ht
  split at ht
  · split at ht
    · rename_i hparse
      cases ht
      exact Instant.isProper_of_parse? hparse
    · cases ht
  · cases ht

/-- What was read as a policy can be written again. -/
theorem Policy.isWritable_of_ofJson {j : Json} {p : Policy} (hp : Policy.ofJson j = .ok p) :
    p.IsWritable := by
  unfold Policy.ofJson at hp
  obtain ⟨f, _, hp⟩ := bind_eq_ok.1 hp
  obtain ⟨id, _, hp⟩ := bind_eq_ok.1 hp
  obtain ⟨tenant, _, hp⟩ := bind_eq_ok.1 hp
  obtain ⟨name, _, hp⟩ := bind_eq_ok.1 hp
  obtain ⟨description, _, hp⟩ := bind_eq_ok.1 hp
  obtain ⟨kind, _, hp⟩ := bind_eq_ok.1 hp
  obtain ⟨tier, _, hp⟩ := bind_eq_ok.1 hp
  obtain ⟨priority, _, hp⟩ := bind_eq_ok.1 hp
  obtain ⟨enabled, _, hp⟩ := bind_eq_ok.1 hp
  obtain ⟨conditions, hconditions, hp⟩ := bind_eq_ok.1 hp
  obtain ⟨actions, hactions, hp⟩ := bind_eq_ok.1 hp
  obtain ⟨category, _, hp⟩ := bind_eq_ok.1 hp
  obtain ⟨tags, _, hp⟩ := bind_eq_ok.1 hp
  obtain ⟨version, _, hp⟩ := bind_eq_ok.1 hp
  obtain ⟨createdAt, hcreated, hp⟩ := bind_eq_ok.1 hp
  obtain ⟨updatedAt, hupdated, hp⟩ := bind_eq_ok.1 hp
  obtain ⟨createdBy, _, hp⟩ := bind_eq_ok.1 hp
  obtain ⟨updatedBy, _, hp⟩ := bind_eq_ok.1 hp
  cases hp
  obtain ⟨_, hcreated⟩ := Fields.exists_of_required hcreated
  obtain ⟨_, hupdated⟩ := Fields.exists_of_required hupdated
  refine ⟨⟨?_, ?_⟩, isProper_of_asInstant hcreated, isProper_of_asInstant hupdated⟩
  · exact Fields.forall_of_required (fun _ _ => Condition.isCanonical_of_ofJson) hconditions
  · exact Fields.forall_of_required (fun _ _ => Action.isCanonical_of_ofJson) hactions

namespace Revision

def written (r : Revision) : List (String × Option Json) := [
  ("id", some (.string r.id.render)),
  ("policy_id", some r.policy.toJson),
  ("version", some (ofInt r.version.toInt)),
  ("snapshot", some r.snapshot.toJson),
  ("change_type", some r.change.toJson),
  ("change_summary", some (.string r.summary)),
  ("changed_by", some (.string r.changedBy)),
  ("changed_at", some (ofInstant r.changedAt))]

theorem toJson_eq (r : Revision) : r.toJson = .object (present r.written) := rfl

/-- The policy of a revision can be written, and so can its time. -/
structure IsWritable (r : Revision) : Prop where
  snapshot : r.snapshot.IsWritable
  changed : r.changedAt.IsProper

theorem ofJson_toJson {r : Revision} (hr : r.IsWritable) : Revision.ofJson r.toJson = .ok r := by
  have hdistinct : (r.written.map (·.1)).Nodup := by
    change Revision.fieldNames.Nodup
    decide
  have required {α : Type} {name : String} {decode : Decoder α} {value : α} (j : Json)
      (hfield : (name, some j) ∈ r.written) (hvalue : decode j = .ok value) :
      (Fields.named (present r.written)).required name decode = .ok value :=
    required_present hdistinct j hfield hvalue
  have hid : asUuid (.string r.id.render) = .ok r.id := by
    rw [asUuid, Uuid.parse?_render]
  have hchange : ChangeKind.ofJson r.change.toJson = .ok r.change := by cases r.change <;> rfl
  rw [toJson_eq]
  unfold Revision.ofJson
  refine bind_eq_ok.2 ⟨_, asFields_present hdistinct, ?_⟩
  refine bind_eq_ok.2 ⟨r.id, required (.string r.id.render) (by simp [written]) hid, ?_⟩
  refine bind_eq_ok.2 ⟨r.policy, required r.policy.toJson (by simp [written]) rfl, ?_⟩
  refine bind_eq_ok.2
    ⟨r.version, required (ofInt r.version.toInt) (by simp [written]) (asInt32_ofInt _), ?_⟩
  refine bind_eq_ok.2 ⟨r.snapshot, required r.snapshot.toJson (by simp [written])
    (Policy.ofJson_toJson hr.snapshot), ?_⟩
  refine bind_eq_ok.2 ⟨r.change, required r.change.toJson (by simp [written]) hchange, ?_⟩
  refine bind_eq_ok.2 ⟨r.summary, required (.string r.summary) (by simp [written]) rfl, ?_⟩
  refine bind_eq_ok.2 ⟨r.changedBy, required (.string r.changedBy) (by simp [written]) rfl, ?_⟩
  exact bind_eq_ok.2 ⟨r.changedAt, required (ofInstant r.changedAt) (by simp [written])
    (asInstant_ofInstant hr.changed), rfl⟩

theorem isWritable_of_ofJson {j : Json} {r : Revision} (hr : Revision.ofJson j = .ok r) :
    r.IsWritable := by
  unfold Revision.ofJson at hr
  obtain ⟨f, _, hr⟩ := bind_eq_ok.1 hr
  obtain ⟨id, _, hr⟩ := bind_eq_ok.1 hr
  obtain ⟨policy, _, hr⟩ := bind_eq_ok.1 hr
  obtain ⟨version, _, hr⟩ := bind_eq_ok.1 hr
  obtain ⟨snapshot, hsnapshot, hr⟩ := bind_eq_ok.1 hr
  obtain ⟨change, _, hr⟩ := bind_eq_ok.1 hr
  obtain ⟨summary, _, hr⟩ := bind_eq_ok.1 hr
  obtain ⟨changedBy, _, hr⟩ := bind_eq_ok.1 hr
  obtain ⟨changedAt, hchanged, hr⟩ := bind_eq_ok.1 hr
  cases hr
  obtain ⟨_, hsnapshot⟩ := Fields.exists_of_required hsnapshot
  obtain ⟨_, hchanged⟩ := Fields.exists_of_required hchanged
  exact ⟨Policy.isWritable_of_ofJson hsnapshot, isProper_of_asInstant hchanged⟩

end Revision

end Governance
