import Governance.Decision.Basic
import Governance.Proofs.Audit.Lines
import Governance.Proofs.Policy.Written
import Governance.Request.Codec

/-!
# What is written is read back

Everything that the gateway exchanges in JSON is read as it was written, whichever of its fields are left
out because they are empty. What is asked of it is that it can be written at all: its numbers are finite,
its counts have sixty-four bits, its times are such as a clock shows, and its objects are maps. Of what
was read all but the first holds, so that reading and writing once more changes nothing.
-/

namespace Governance

open Json

/-! ### Users and requests -/

namespace User

def written (u : User) : List (String × Option Json) := [
  ("id", some (.string u.id)),
  ("email", some (.string u.email)),
  ("role", some (.string u.role)),
  ("department", u.department.map .string),
  ("permissions", if u.permissions.isEmpty then none else some (ofStrings u.permissions)),
  ("tenant_id", u.tenant.map .string)]

theorem toJson_eq (u : User) : u.toJson = .object (present u.written) := by
  simp only [toJson, entry_eq, entryIfSome_eq, entryUnless_eq]
  exact ofEntries_present u.written

theorem ofJson_toJson (u : User) : User.ofJson u.toJson = .ok u := by
  have hdistinct : (u.written.map (·.1)).Nodup := by
    change User.fieldNames.Nodup
    decide
  rw [toJson_eq]
  unfold User.ofJson
  refine bind_eq_ok.2 ⟨_, asFields_present hdistinct, ?_⟩
  refine bind_eq_ok.2
    ⟨u.id, orElse_present hdistinct "" (.string u.id) (by simp [written]) rfl, ?_⟩
  refine bind_eq_ok.2
    ⟨u.email, orElse_present hdistinct "" (.string u.email) (by simp [written]) rfl, ?_⟩
  refine bind_eq_ok.2
    ⟨u.role, orElse_present hdistinct "" (.string u.role) (by simp [written]) rfl, ?_⟩
  refine bind_eq_ok.2 ⟨u.department, optional_present hdistinct .string (by simp [written])
    fun _ _ => ⟨nofun, rfl⟩, ?_⟩
  refine bind_eq_ok.2 ⟨u.permissions, unless_present hdistinct (ofStrings u.permissions)
    (by simp [written]) (asList_ofStrings u.permissions), ?_⟩
  exact bind_eq_ok.2 ⟨u.tenant, optional_present hdistinct .string (by simp [written])
    fun _ _ => ⟨nofun, rfl⟩, rfl⟩

end User

namespace Request

def written (r : Request) : List (String × Option Json) := [
  ("tenant_id", some r.tenant.toJson),
  ("query", some (.string r.query)),
  ("request_type", some (.string r.kind)),
  ("user", some r.user.toJson),
  ("client_id", r.client.map .string),
  ("context", if r.context.isEmpty then none else some (.object r.context))]

theorem toJson_eq (r : Request) : r.toJson = .object (present r.written) := by
  simp only [toJson, entry_eq, entryIfSome_eq, entryUnless_eq]
  exact ofEntries_present r.written

/-- The objects of its context are maps, and so is the context. -/
def IsCanonical (r : Request) : Prop := (Json.object r.context).IsCanonical

theorem ofJson_toJson {r : Request} (hr : r.IsCanonical) : Request.ofJson r.toJson = .ok r := by
  have hdistinct : (r.written.map (·.1)).Nodup := by
    simp [written]
  have hcontext : asMembers (.object r.context) = .ok r.context :=
    congrArg Except.ok (Json.object.inj hr)
  rw [toJson_eq]
  unfold Request.ofJson
  refine bind_eq_ok.2 ⟨_, asFields_present hdistinct, ?_⟩
  refine bind_eq_ok.2
    ⟨r.tenant, required_present hdistinct r.tenant.toJson (by simp [written]) rfl, ?_⟩
  refine bind_eq_ok.2
    ⟨r.query, required_present hdistinct (.string r.query) (by simp [written]) rfl, ?_⟩
  refine bind_eq_ok.2
    ⟨r.kind, orElse_present hdistinct "" (.string r.kind) (by simp [written]) rfl, ?_⟩
  refine bind_eq_ok.2 ⟨r.user, orElse_present hdistinct User.unknown r.user.toJson
    (by simp [written]) r.user.ofJson_toJson, ?_⟩
  refine bind_eq_ok.2 ⟨r.client, optional_present hdistinct .string (by simp [written])
    fun _ _ => ⟨nofun, rfl⟩, ?_⟩
  -- an empty context is left out, and one that is missing is read as empty
  have hfound : (Fields.named (present r.written)).find? "context" =
      if r.context.isEmpty then none else some (.object r.context) :=
    find_present hdistinct (by simp [written])
  exact bind_eq_ok.2 ⟨r.context, Fields.orElse_of_unless hfound hcontext, rfl⟩

theorem isCanonical_of_ofJson {j : Json} {r : Request} (hr : Request.ofJson j = .ok r) :
    r.IsCanonical := by
  unfold Request.ofJson at hr
  obtain ⟨f, _, hr⟩ := bind_eq_ok.1 hr
  obtain ⟨tenant, _, hr⟩ := bind_eq_ok.1 hr
  obtain ⟨query, _, hr⟩ := bind_eq_ok.1 hr
  obtain ⟨kind, _, hr⟩ := bind_eq_ok.1 hr
  obtain ⟨user, _, hr⟩ := bind_eq_ok.1 hr
  obtain ⟨client, _, hr⟩ := bind_eq_ok.1 hr
  obtain ⟨context, hcontext, hr⟩ := bind_eq_ok.1 hr
  cases hr
  exact isCanonical_of_asMembers hcontext

end Request

/-! ### Decisions and reports -/

namespace Decision

def written (d : Decision) : List (String × Option Json) := [
  ("allowed", some (.bool d.allowed)),
  ("applied_policies", some (ofStrings d.applied)),
  ("risk_score", some (ofFloat d.riskScore)),
  ("required_actions", if d.obligations.isEmpty then none else some (ofStrings d.obligations)),
  ("processing_time_ms", some (ofNat d.millis.toNat)),
  ("block_reason", d.blockReason.map .string)]

theorem toJson_eq (d : Decision) : d.toJson = .object (present d.written) := by
  simp only [toJson, entry_eq, entryIfSome_eq, entryUnless_eq]
  exact ofEntries_present d.written

theorem ofJson_toJson {d : Decision} (hscore : d.riskScore.isFinite) :
    Decision.ofJson d.toJson = .ok d := by
  have hdistinct : (d.written.map (·.1)).Nodup := by
    simp [written]
  rw [toJson_eq]
  unfold Decision.ofJson
  refine bind_eq_ok.2 ⟨_, asFields_present hdistinct, ?_⟩
  refine bind_eq_ok.2
    ⟨d.allowed, required_present hdistinct (.bool d.allowed) (by simp [written]) rfl, ?_⟩
  refine bind_eq_ok.2 ⟨d.applied, orElse_present hdistinct [] (ofStrings d.applied)
    (by simp [written]) (asList_ofStrings d.applied), ?_⟩
  refine bind_eq_ok.2 ⟨d.riskScore, orElse_present hdistinct 0.0 (ofFloat d.riskScore)
    (by simp [written]) (asFloat_ofFloat hscore), ?_⟩
  refine bind_eq_ok.2 ⟨d.obligations, unless_present hdistinct (ofStrings d.obligations)
    (by simp [written]) (asList_ofStrings d.obligations), ?_⟩
  refine bind_eq_ok.2 ⟨d.millis, orElse_present hdistinct 0 (ofNat d.millis.toNat)
    (by simp [written]) (asUInt64_ofNat d.millis), ?_⟩
  exact bind_eq_ok.2 ⟨d.blockReason, optional_present hdistinct .string (by simp [written])
    fun _ _ => ⟨nofun, rfl⟩, rfl⟩

end Decision

namespace ImportReport

def written (r : ImportReport) : List (String × Option Json) := [
  ("created", some (ofNat r.created)),
  ("updated", some (ofNat r.updated)),
  ("skipped", some (ofNat r.skipped)),
  ("errors", some (ofStrings r.errors))]

theorem toJson_eq (r : ImportReport) : r.toJson = .object (present r.written) := rfl

/-- The counts of a report have sixty-four bits. -/
structure IsWritable (r : ImportReport) : Prop where
  created : r.created < UInt64.size
  updated : r.updated < UInt64.size
  skipped : r.skipped < UInt64.size

theorem ofJson_toJson {r : ImportReport} (hr : r.IsWritable) :
    ImportReport.ofJson r.toJson = .ok r := by
  have hdistinct : (r.written.map (·.1)).Nodup := by
    simp [written]
  rw [toJson_eq]
  unfold ImportReport.ofJson
  refine bind_eq_ok.2 ⟨_, asFields_present hdistinct, ?_⟩
  refine bind_eq_ok.2 ⟨r.created, required_present hdistinct (ofNat r.created) (by simp [written])
    (asCount_ofNat hr.created), ?_⟩
  refine bind_eq_ok.2 ⟨r.updated, required_present hdistinct (ofNat r.updated) (by simp [written])
    (asCount_ofNat hr.updated), ?_⟩
  refine bind_eq_ok.2 ⟨r.skipped, required_present hdistinct (ofNat r.skipped) (by simp [written])
    (asCount_ofNat hr.skipped), ?_⟩
  exact bind_eq_ok.2 ⟨r.errors, orElse_present hdistinct [] (ofStrings r.errors) (by simp [written])
    (asList_ofStrings r.errors), rfl⟩

theorem isWritable_of_ofJson {j : Json} {r : ImportReport} (hr : ImportReport.ofJson j = .ok r) :
    r.IsWritable := by
  unfold ImportReport.ofJson at hr
  obtain ⟨f, _, hr⟩ := bind_eq_ok.1 hr
  obtain ⟨created, hcreated, hr⟩ := bind_eq_ok.1 hr
  obtain ⟨updated, hupdated, hr⟩ := bind_eq_ok.1 hr
  obtain ⟨skipped, hskipped, hr⟩ := bind_eq_ok.1 hr
  obtain ⟨errors, _, hr⟩ := bind_eq_ok.1 hr
  cases hr
  obtain ⟨_, hcreated⟩ := Fields.exists_of_required hcreated
  obtain ⟨_, hupdated⟩ := Fields.exists_of_required hupdated
  obtain ⟨_, hskipped⟩ := Fields.exists_of_required hskipped
  exact ⟨lt_of_asCount hcreated, lt_of_asCount hupdated, lt_of_asCount hskipped⟩

end ImportReport

/-! ### Everything that is exchanged -/

/-- What a document is about. -/
inductive DocumentKind where
  | policy
  | draft
  | patch
  | revision
  | request
  | decision
  | report
  | entry
  deriving DecidableEq

/-- What is exchanged in JSON. -/
inductive Document where
  | policy (p : Policy)
  | draft (d : PolicyDraft)
  | patch (p : PolicyPatch)
  | revision (r : Revision)
  | request (r : Request)
  | decision (d : Decision)
  | report (r : ImportReport)
  | entry (e : AuditEntry)

def DocumentKind.ofJson : DocumentKind → Decoder Document
  | .policy, j => (Policy.ofJson j).map .policy
  | .draft, j => (PolicyDraft.ofJson j).map .draft
  | .patch, j => (PolicyPatch.ofJson j).map .patch
  | .revision, j => (Revision.ofJson j).map .revision
  | .request, j => (Request.ofJson j).map .request
  | .decision, j => (Decision.ofJson j).map .decision
  | .report, j => (ImportReport.ofJson j).map .report
  | .entry, j => (AuditEntry.ofJson j).map .entry

namespace Document

def kind : Document → DocumentKind
  | policy _ => .policy
  | draft _ => .draft
  | patch _ => .patch
  | revision _ => .revision
  | request _ => .request
  | decision _ => .decision
  | report _ => .report
  | entry _ => .entry

def toJson : Document → Json
  | policy p => p.toJson
  | draft d => d.toJson
  | patch p => p.toJson
  | revision r => r.toJson
  | request r => r.toJson
  | decision d => d.toJson
  | report r => r.toJson
  | entry e => e.toJson

/-- Objects are maps, times are such as a clock shows, and counts have sixty-four bits. -/
def IsWritable : Document → Prop
  | policy p => p.IsWritable
  | draft d => d.IsCanonical
  | patch p => p.IsCanonical
  | revision r => r.IsWritable
  | request r => r.IsCanonical
  | decision _ => True
  | report r => r.IsWritable
  | entry e => e.WasRead

/-- The doubles of a document are finite. Numbers that are kept as they were written have no say. -/
def IsFinite : Document → Prop
  | decision d => d.riskScore.isFinite
  | entry e => e.IsFinite
  | _ => True

variable {d : Document} {kind : DocumentKind} {j : Json}

theorem ofJson_toJson (hd : d.IsWritable) (hfinite : d.IsFinite) :
    d.kind.ofJson d.toJson = .ok d := by
  cases d with
  | policy p => exact map_eq_ok.2 ⟨p, Policy.ofJson_toJson hd, rfl⟩
  | draft d => exact map_eq_ok.2 ⟨d, PolicyDraft.ofJson_draft hd, rfl⟩
  | patch p => exact map_eq_ok.2 ⟨p, PolicyPatch.ofJson_toJson hd, rfl⟩
  | revision r => exact map_eq_ok.2 ⟨r, Revision.ofJson_toJson hd, rfl⟩
  | request r => exact map_eq_ok.2 ⟨r, Request.ofJson_toJson hd, rfl⟩
  | decision d => exact map_eq_ok.2 ⟨d, Decision.ofJson_toJson hfinite, rfl⟩
  | report r => exact map_eq_ok.2 ⟨r, ImportReport.ofJson_toJson hd, rfl⟩
  | entry e => exact map_eq_ok.2 ⟨e, AuditEntry.ofJson_toJson (hd.isTellable hfinite), rfl⟩

/-- A document that was read can be written again, if its doubles are finite. -/
theorem isWritable_of_ofJson (hd : kind.ofJson j = .ok d) : d.kind = kind ∧ d.IsWritable := by
  cases kind <;> obtain ⟨a, ha, rfl⟩ := map_eq_ok.1 hd
  · exact ⟨rfl, Policy.isWritable_of_ofJson ha⟩
  · exact ⟨rfl, PolicyDraft.isCanonical_of_ofJson ha⟩
  · exact ⟨rfl, PolicyPatch.isCanonical_of_ofJson ha⟩
  · exact ⟨rfl, Revision.isWritable_of_ofJson ha⟩
  · exact ⟨rfl, Request.isCanonical_of_ofJson ha⟩
  · exact ⟨rfl, trivial⟩
  · exact ⟨rfl, ImportReport.isWritable_of_ofJson ha⟩
  · exact ⟨rfl, AuditEntry.wasRead_of_ofJson ha⟩

/-- Every document is read as it was written, as a value and as a text; and what is read of any value can
be written again and then is read as the same document, so that it is written the same ever after. -/
theorem read_back :
    (∀ d : Document, d.IsWritable → d.IsFinite →
      d.kind.ofJson d.toJson = .ok d ∧
      (Readable depthLimit d.toJson →
        readAs .everything d.kind.ofJson d.toJson.render = .ok d)) ∧
    (∀ (kind : DocumentKind) (j : Json) (d : Document), kind.ofJson j = .ok d →
      d.kind = kind ∧ d.IsWritable ∧ (d.IsFinite → kind.ofJson d.toJson = .ok d)) := by
  constructor
  · intro d hd hfinite
    have hread := ofJson_toJson hd hfinite
    exact ⟨hread, fun hreadable => readAs_render .everything hreadable hread⟩
  · intro kind j d hread
    obtain ⟨rfl, hd⟩ := isWritable_of_ofJson hread
    exact ⟨rfl, hd, ofJson_toJson hd⟩

/-- A value with arrays and objects inside each other. -/
def billing : Json := .object [("codes", .array [.string "billing", .null]), ("none", .object [])]

/-- A patch that empties some fields and leaves others alone. -/
def emptyingPatch : PolicyPatch where
  name := some ""
  description := none
  kind := none
  conditions := some [⟨"context.purpose", "equals", billing⟩]
  actions := some []
  priority := none
  enabled := some false
  category := none
  tags := some []

theorem emptyingPatch_read_back :
    (Document.patch emptyingPatch).IsWritable ∧ (Document.patch emptyingPatch).IsFinite ∧
      Readable depthLimit (Document.patch emptyingPatch).toJson ∧
      DocumentKind.patch.ofJson emptyingPatch.toJson = .ok (.patch emptyingPatch) ∧
      readAs .everything DocumentKind.patch.ofJson emptyingPatch.toJson.render =
        .ok (.patch emptyingPatch) ∧
      DocumentKind.patch.ofJson (.array [.string ""]) =
        .ok (.patch ⟨some "", none, none, none, none, none, none, none, none⟩) ∧
      DocumentKind.patch.ofJson (.object [("name", .string "")]) =
        .ok (.patch ⟨some "", none, none, none, none, none, none, none, none⟩) := by
  have hcanonical : emptyingPatch.IsCanonical := by
    constructor
    · rintro conditions hgiven c hc
      cases hgiven
      obtain rfl := List.mem_singleton.1 hc
      rfl
    · rintro actions hgiven a ha
      cases hgiven
      cases ha
  have hvalue : Readable 124 billing :=
    .object (List.forall_mem_cons.2 ⟨.array (List.forall_mem_cons.2 ⟨.string _,
      List.forall_mem_singleton.2 .null⟩),
      List.forall_mem_singleton.2 (.object (List.forall_mem_nil _))⟩)
  have hcondition : Readable 125 (Condition.mk "context.purpose" "equals" billing).toJson :=
    .object (List.forall_mem_cons.2 ⟨.string _, List.forall_mem_cons.2 ⟨.string _,
      List.forall_mem_singleton.2 hvalue⟩⟩)
  have hreadable : Readable depthLimit (Document.patch emptyingPatch).toJson :=
    .object (List.forall_mem_cons.2 ⟨.string _, List.forall_mem_cons.2
      ⟨.array (List.forall_mem_singleton.2 hcondition), List.forall_mem_cons.2
        ⟨.array (List.forall_mem_nil _), List.forall_mem_cons.2 ⟨.bool _, List.forall_mem_singleton.2
          (.array (List.forall_mem_nil _))⟩⟩⟩⟩)
  obtain ⟨hread, htext⟩ := read_back.1 (.patch emptyingPatch) hcanonical trivial
  refine ⟨hcanonical, trivial, hreadable, hread, htext hreadable, rfl, ?_⟩
  exact (read_back.2 .patch (.array [.string ""]) _ rfl).2.2 trivial

end Document

end Governance
