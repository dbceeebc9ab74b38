import Governance.Proofs.Policy.Codec
import Governance.Proofs.Sql.Places
import Governance.Proofs.Store.Edits
import Governance.Sql.PolicyStore
import Governance.Sql.PolicyTable

/-!
# Rows of policies and of their history

The row of a policy holds all of it, and is read as that policy, unless the policy has a blank identifier:
a row with such an identifier is corrupt. It makes no difference to writing the row, but everything that
is read together with it is lost. So the calls that load the policies of a tenant succeed exactly as long
as every one of them has an identifier that could be typed in.

What is read off a row is what was sent for it, although the values are sent by their numbers and read
by the names of their columns. The row of a policy is that policy; the columns that an update leaves out
are the ones that no change of a policy touches, so that the updated row is the changed policy; and the
row of a revision is that revision, with the whole policy in it.
-/

namespace Governance

/-! ## Reading back what was written -/

namespace Sql

open Json

theorem Row.document_of_decode {α : Type} {decode : Json.Decoder α} {r : Row} {column : String}
    {j : Json} {a : α} (hvalue : r.value column = .document j) (hread : decode j = .ok a) :
    r.document decode column = .ok a := by
  simp only [Row.document, hvalue, hread]

namespace PolicyTable

variable {p : Policy} {policies : List Policy}

/-- What is wrong with the row of a policy whose identifier is blank. -/
def blankId : StoreError := .corrupt (BlankIdentifier.message ⟨.policy⟩)

/-- What a policy is read back as. -/
def readBack (p : Policy) : Except StoreError Policy :=
  if p.id.isUsable then .ok p else .error blankId

/-- What policies are read back as when they are loaded together. -/
def allReadBack (policies : List Policy) : Except StoreError (List Policy) :=
  if policies.all (·.id.isUsable) then .ok policies else .error blankId

theorem int32_rowOf (p : Policy) : (rowOf p).int32 "priority" = .ok p.priority ∧
    (rowOf p).int32 "version" = .ok p.version :=
  ⟨congrArg Except.ok (Int32.ofInt_toInt p.priority), congrArg Except.ok (Int32.ofInt_toInt p.version)⟩

/-- A row says of a policy all that was written. -/
theorem ofRow_rowOf (hp : p.IsCanonical) (htenant : p.tenant.isUsable) :
    ofRow (rowOf p) = .ok (readBack p) := by
  have hconditions : (rowOf p).document (asList Condition.ofJson) "conditions" = .ok p.conditions :=
    Row.document_of_decode rfl
      (asList_ofList_self fun c hc => Condition.ofJson_toJson (hp.conditions c hc))
  have hactions : (rowOf p).document (asList Action.ofJson) "actions" = .ok p.actions :=
    Row.document_of_decode rfl
      (asList_ofList_self fun a ha => Action.ofJson_toJson (hp.actions a ha))
  have htags : (rowOf p).document (asList asString) "tags" = .ok p.tags :=
    Row.document_of_decode rfl (asList_ofStrings p.tags)
  have hcategory : (rowOf p).optional Row.text "category" = .ok p.category := by
    obtain ⟨_, _, _, _, _, _, _, _, _, _, category, _⟩ := p
    cases category <;> rfl
  have hkind : PolicyKind.ofWord? p.kind.word = some p.kind := PolicyKind.ofWord?_word p.kind
  have htier : PolicyTier.ofWord? p.tier.word = some p.tier := PolicyTier.ofWord?_word p.tier
  unfold ofRow
  refine bind_eq_ok.2 ⟨p.id.text, rfl, ?_⟩
  refine bind_eq_ok.2 ⟨p.tenant.text, rfl, ?_⟩
  refine bind_eq_ok.2 ⟨p.name, rfl, ?_⟩
  refine bind_eq_ok.2 ⟨p.description, rfl, ?_⟩
  refine bind_eq_ok.2 ⟨p.kind.word, rfl, ?_⟩
  refine bind_eq_ok.2 ⟨p.tier.word, rfl, ?_⟩
  refine bind_eq_ok.2 ⟨p.priority, (int32_rowOf p).1, ?_⟩
  refine bind_eq_ok.2 ⟨p.enabled, rfl, ?_⟩
  refine bind_eq_ok.2 ⟨p.conditions, hconditions, ?_⟩
  refine bind_eq_ok.2 ⟨p.actions, hactions, ?_⟩
  refine bind_eq_ok.2 ⟨p.category, hcategory, ?_⟩
  refine bind_eq_ok.2 ⟨p.tags, htags, ?_⟩
  refine bind_eq_ok.2 ⟨p.version, (int32_rowOf p).2, ?_⟩
  refine bind_eq_ok.2 ⟨p.createdAt, rfl, ?_⟩
  refine bind_eq_ok.2 ⟨p.updatedAt, rfl, ?_⟩
  refine bind_eq_ok.2 ⟨p.createdBy, rfl, ?_⟩
  refine bind_eq_ok.2 ⟨p.updatedBy, rfl, ?_⟩
  refine congrArg Except.ok ?_
  have htenantId : Identifier.ofText .tenant p.tenant.text = .ok p.tenant :=
    Identifier.ofText_eq_ok_iff.2 ⟨rfl, htenant⟩
  cases husable : p.id.isUsable with
  | true =>
    have hid : Identifier.ofText .policy p.id.text = .ok p.id :=
      Identifier.ofText_eq_ok_iff.2 ⟨rfl, husable⟩
    rw [readBack, if_pos husable, hid, htenantId, hkind, htier]
    rfl
  | false =>
    have hid : Identifier.ofText .policy p.id.text = .error ⟨.policy⟩ :=
      if_pos (by simpa [Identifier.isUsable] using husable)
    rw [readBack, if_neg (by simp [husable]), hid]
    rfl

/-- Of policies that are loaded together one with a blank identifier spoils all. -/
theorem mapM_readBack (policies : List Policy) :
    (policies.map readBack).mapM id = allReadBack policies := by
  induction policies with
  | nil => rfl
  | cons p rest ih =>
    rw [List.map_cons, List.mapM_cons, ih, readBack, allReadBack, allReadBack, List.all_cons]
    cases p.id.isUsable <;> cases rest.all (·.id.isUsable) <;> rfl

theorem loaded_rowsOf (hcanonical : ∀ p ∈ policies, p.IsCanonical)
    (htenants : ∀ p ∈ policies, p.tenant.isUsable) (purpose : String) (affected : Nat) :
    PolicyStore.loaded purpose ofRow (.ok ⟨policies.map rowOf, affected⟩) =
      allReadBack policies := by
  have hrows : Result.readAll ofRow ⟨policies.map rowOf, affected⟩ =
      .ok (policies.map readBack) := by
    change (policies.map rowOf).mapM ofRow = .ok (policies.map readBack)
    induction policies with
    | nil => rfl
    | cons p rest ih =>
      obtain ⟨hp, hrest⟩ := List.forall_mem_cons.1 hcanonical
      obtain ⟨htenant, htenants⟩ := List.forall_mem_cons.1 htenants
      rw [List.map_cons, List.mapM_cons, ofRow_rowOf hp htenant]
      exact bind_eq_ok.2 ⟨_, rfl, bind_eq_ok.2 ⟨_, ih hrest htenants, rfl⟩⟩
  have hbind : (Except.ok ⟨policies.map rowOf, affected⟩ : Except SqlError Result).bind
      (Result.readAll ofRow) = .ok (policies.map readBack) := hrows
  rw [PolicyStore.loaded, hbind]
  exact mapM_readBack policies

end PolicyTable

end Sql

/-! ## What becomes of a row -/

/-- What becomes of a policy when it is patched, or overwritten by a draft, with objects that are maps. -/
inductive Policy.ChangesTo (p : Policy) : Policy → Prop
  | patched {patch : PolicyPatch} (hpatch : patch.IsCanonical) (actor : String) (now : Instant) :
      ChangesTo p (p.applyPatch patch actor now)
  | overwritten {d : PolicyDraft} (hd : d.IsCanonical) (actor : String) (now : Instant) :
      ChangesTo p (p.overwrite d actor now)

namespace Policy.ChangesTo

variable {p q : Policy}

theorem sameOrigin (h : p.ChangesTo q) : p.SameOrigin q := by
  cases h with
  | patched | overwritten => exact ⟨rfl, rfl, rfl, rfl, rfl⟩

theorem isCanonical (h : p.ChangesTo q) (hp : p.IsCanonical) : q.IsCanonical := by
  cases h with
  | patched hpatch => exact hp.applyPatch hpatch
  | overwritten hd => exact p.isCanonical_overwrite hd

end Policy.ChangesTo

namespace Sql

open Json

namespace PolicyTable

variable {p q : Policy}

theorem addedRow_insertion (p : Policy) : (insertion p).addedRow = rowOf p :=
  Command.addedRow_insert policyTable (rowOf p)

/-- Writing the changed policy over the row of the policy makes the row of the changed one. -/
theorem appliedTo_saving (h : p.SameOrigin q) : (saving q).appliedTo (rowOf p) = rowOf q := by
  have hid : (rowOf p).value "id" == .text q.id.text := by
    rw [h.id]
    exact beq_self_eq_true p.id.text
  have htenant : (rowOf p).value "tenant_id" == .text q.tenant.text := by
    rw [h.tenant]
    exact beq_self_eq_true p.tenant.text
  have hkeys : ∀ key ∈ keys q.tenant q.id, (rowOf p).value key.1 == key.2 := by
    simp only [keys, List.forall_mem_cons, List.not_mem_nil, false_implies, implies_true, and_true]
    exact ⟨hid, htenant⟩
  rw [saving, Command.appliedTo_update hkeys]
  simp only [rowOf, h.id, h.tenant, h.tier, h.createdAt, h.createdBy]
  rfl

theorem readBack_of_isUsable (hid : p.id.isUsable) : readBack p = .ok p := if_pos hid

theorem ofRow_appliedTo (hp : p.IsCanonical) (hid : p.id.isUsable) (htenant : p.tenant.isUsable)
    (h : p.ChangesTo q) : ofRow ((saving q).appliedTo (insertion p).addedRow) = .ok (.ok q) := by
  have horigin := h.sameOrigin
  have hidNow : q.id.isUsable := by rwa [horigin.id]
  have htenantNow : q.tenant.isUsable := by rwa [horigin.tenant]
  rw [addedRow_insertion, appliedTo_saving horigin, ofRow_rowOf (h.isCanonical hp) htenantNow,
    readBack_of_isUsable hidNow]

def draftedRule : Policy where
  id := ⟨"p1"⟩
  tenant := ⟨"acme"⟩
  name := "Card numbers"
  description := ""
  kind := .content
  tier := .tenant
  priority := 0
  enabled := false
  conditions := []
  actions := []
  category := none
  tags := []
  version := 1
  createdAt := ⟨0, 0⟩
  updatedAt := ⟨0, 0⟩
  createdBy := "alice"
  updatedBy := "alice"

/-- A draft in which everything is different. -/
def revisedDraft : PolicyDraft where
  id := none
  name := "Credit card numbers"
  description := "Masks card numbers."
  kind := "risk"
  tier := none
  priority := 10
  enabled := true
  conditions := [⟨"context.purpose", "equals", .object [("code", .array [.string "billing", .null])]⟩]
  actions := [⟨"redact", [("fields", .array [.string "card"])]⟩]
  category := some "payments"
  tags := ["cards"]

theorem isCanonical_revisedDraft : revisedDraft.IsCanonical := by
  constructor
  · rintro c hc
    obtain rfl := List.mem_singleton.1 hc
    rfl
  · rintro a ha
    obtain rfl := List.mem_singleton.1 ha
    rfl

/-- The columns that an update leaves alone are the ones that no change of a policy touches. -/
theorem unassigned_iff {column : String} (hcolumn : column ∈ policyTable.columnNames) (q : Policy) :
    column ∉ (saving q).assigned.map (·.1) ↔
      ∀ p p' : Policy, p.ChangesTo p' → (rowOf p').value column = (rowOf p).value column := by
  have hassigned : (saving q).assigned.map (·.1) = ["name", "description", "policy_type", "priority",
      "enabled", "conditions", "actions", "category", "tags", "version", "updated_at",
      "updated_by"] :=
    List.zipIdx_map_fst _ _
  rw [hassigned]
  constructor
  · intro hunassigned p p' h
    have horigin := h.sameOrigin
    have hwritten : column ∈ ["id", "tenant_id", "tier", "created_at", "created_by"] := by
      revert hunassigned
      revert column
      decide
    simp only [List.mem_cons, List.not_mem_nil, or_false] at hwritten
    rcases hwritten with rfl | rfl | rfl | rfl | rfl
    · exact congrArg (fun id : PolicyId => Value.text id.text) horigin.id
    · exact congrArg (fun id : TenantId => Value.text id.text) horigin.tenant
    · exact congrArg (fun tier : PolicyTier => Value.text tier.word) horigin.tier
    · exact congrArg Value.instant horigin.createdAt
    · exact congrArg Value.text horigin.createdBy
  · intro hsame hassigned
    have h := hsame draftedRule _ (.overwritten isCanonical_revisedDraft "bob" ⟨1, 0⟩)
    revert h
    simp only [List.mem_cons, List.not_mem_nil, or_false] at hassigned
    rcases hassigned with rfl | rfl | rfl | rfl | rfl | rfl | rfl | rfl | rfl | rfl | rfl | rfl <;>
      simp [rowOf, keys, Row.value, List.lookup_cons, draftedRule, revisedDraft, Policy.overwrite,
        PolicyKind.ofWord?, PolicyKind.word, Value.ofOption, ofList, ofStrings]

end PolicyTable

namespace RevisionTable

variable {r : Revision}

def readBack (r : Revision) : Except StoreError Revision :=
  if r.policy.isUsable then .ok r else .error PolicyTable.blankId

theorem addedRow_insertion (r : Revision) : (insertion r).addedRow = rowOf r :=
  Command.addedRow_insert revisionTable (rowOf r)

/-- A row says of a revision all that was written. -/
theorem ofRow_rowOf (hr : r.snapshot.IsWritable) : ofRow (rowOf r) = .ok (readBack r) := by
  have hversion : (rowOf r).int32 "version" = .ok r.version :=
    congrArg Except.ok (Int32.ofInt_toInt r.version)
  have hsnapshot : (rowOf r).document Policy.ofJson "snapshot" = .ok r.snapshot :=
    Row.document_of_decode rfl (Policy.ofJson_toJson hr)
  have hchange : ChangeKind.ofWord? r.change.word = some r.change := ChangeKind.ofWord?_word r.change
  unfold ofRow
  refine bind_eq_ok.2 ⟨r.id, rfl, ?_⟩
  refine bind_eq_ok.2 ⟨r.policy.text, rfl, ?_⟩
  refine bind_eq_ok.2 ⟨r.version, hversion, ?_⟩
  refine bind_eq_ok.2 ⟨r.snapshot, hsnapshot, ?_⟩
  refine bind_eq_ok.2 ⟨r.change.word, rfl, ?_⟩
  refine bind_eq_ok.2 ⟨r.summary, rfl, ?_⟩
  refine bind_eq_ok.2 ⟨r.changedBy, rfl, ?_⟩
  refine bind_eq_ok.2 ⟨r.changedAt, rfl, ?_⟩
  refine congrArg Except.ok ?_
  cases husable : r.policy.isUsable with
  | true =>
    have hpolicy : Identifier.ofText .policy r.policy.text = .ok r.policy :=
      Identifier.ofText_eq_ok_iff.2 ⟨rfl, husable⟩
    rw [readBack, if_pos husable, hpolicy, hchange]
    rfl
  | false =>
    have hpolicy : Identifier.ofText .policy r.policy.text = .error ⟨.policy⟩ :=
      if_pos (by simpa [Identifier.isUsable] using husable)
    rw [readBack, if_neg (by simp [husable]), hpolicy]
    rfl

end RevisionTable

/-- A policy whose identifiers are not blank is read back off the row that its insertion adds, and off
that row after an update that writes what the policy was changed to; the columns that such an update
leaves alone are the ones that no change touches. Every revision is read back off its row, unless its
policy has a blank identifier. What goes into which column is told by the text of the command. -/
theorem rows_read_back {p : Policy} (hp : p.IsCanonical) (hid : p.id.isUsable)
    (htenant : p.tenant.isUsable) :
    ((PolicyTable.insertion p).text = insertText policyTable (PolicyTable.insertion p).assigned ∧
      PolicyTable.ofRow (PolicyTable.insertion p).addedRow = .ok (.ok p)) ∧
    (∀ q, p.ChangesTo q →
      (PolicyTable.saving q).text = updateText policyTable (PolicyTable.saving q).assigned
        (PolicyTable.saving q).compared ∧
      PolicyTable.ofRow ((PolicyTable.saving q).appliedTo (PolicyTable.insertion p).addedRow) =
        .ok (.ok q)) ∧
    (∀ q, ∀ column ∈ policyTable.columnNames,
      column ∉ (PolicyTable.saving q).assigned.map (·.1) ↔
        ∀ before after : Policy, before.ChangesTo after →
          (PolicyTable.rowOf after).value column = (PolicyTable.rowOf before).value column) ∧
    (∀ r : Revision, r.snapshot.IsWritable →
      (RevisionTable.insertion r).text =
        insertText revisionTable (RevisionTable.insertion r).assigned ∧
      RevisionTable.ofRow (RevisionTable.insertion r).addedRow =
        .ok (RevisionTable.readBack r)) := by
  have hadded : PolicyTable.ofRow (PolicyTable.insertion p).addedRow = .ok (.ok p) := by
    rw [PolicyTable.addedRow_insertion, PolicyTable.ofRow_rowOf hp htenant,
      PolicyTable.readBack_of_isUsable hid]
  refine ⟨⟨Command.text_insert .., hadded⟩, fun q h => ⟨Command.text_update .., ?_⟩,
    fun q column hcolumn => PolicyTable.unassigned_iff hcolumn q,
    fun r hr => ⟨Command.text_insert .., ?_⟩⟩
  · exact PolicyTable.ofRow_appliedTo hp hid htenant h
  · rw [RevisionTable.addedRow_insertion, RevisionTable.ofRow_rowOf hr]

/-- A policy that is drafted, written, overwritten by a draft in which all is different, and written
again, with the revision that is left behind. -/
theorem rows_read_back_draftedRule :
    let p := PolicyTable.draftedRule
    let q := p.overwrite PolicyTable.revisedDraft "bob" ⟨1, 0⟩
    let r := Revision.capture ⟨1⟩ ⟨2, 0⟩ p .create "created" "alice"
    PolicyTable.ofRow (PolicyTable.insertion p).addedRow = .ok (.ok p) ∧
      PolicyTable.ofRow ((PolicyTable.saving q).appliedTo (PolicyTable.insertion p).addedRow) =
        .ok (.ok q) ∧
      RevisionTable.ofRow (RevisionTable.insertion r).addedRow = .ok (.ok r) := by
  have hcanonical : PolicyTable.draftedRule.IsCanonical := ⟨nofun, nofun⟩
  have hproper : Instant.IsProper ⟨0, 0⟩ := ⟨by decide, by decide⟩
  obtain ⟨⟨-, hadded⟩, hsaved, -, hrevision⟩ :=
    rows_read_back hcanonical (by decide) (by decide)
  exact ⟨hadded, (hsaved _ (.overwritten PolicyTable.isCanonical_revisedDraft "bob" ⟨1, 0⟩)).2,
    (hrevision _ ⟨hcanonical, hproper, hproper⟩).2⟩

end Sql

end Governance
