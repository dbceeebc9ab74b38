import Governance.Audit.Codec
import Governance.Json.Coded
import Governance.Proofs.Policy.Written

/-!
# Audit entries are read back

An entry and its parts are written as objects, and read as they were. Numbers that are not finite cannot
be written.
-/

namespace Governance

open Json

theorem Json.asCount_ofNat {n : Nat} (hn : n < UInt64.size) : Coded.asCount (ofNat n) = .ok n := by
  rw [Coded.asCount, asInteger_ofNat hn]
  rfl

theorem ComplianceFlag.ofJson_toJson (f : ComplianceFlag) : ofJson f.toJson = .ok f := by
  cases f <;> rfl

theorem Complexity.ofJson_toJson (c : Complexity) : ofJson c.toJson = .ok c := by
  cases c <;> rfl

namespace PolicyDetails

def written (d : PolicyDetails) : List (String × Option Json) := [
  ("applied_policies", some (ofStrings d.applied)),
  ("risk_score", some (ofFloat d.riskScore)),
  ("required_actions", if d.obligations.isEmpty then none else some (ofStrings d.obligations)),
  ("processing_time_ms", some (ofNat d.millis.toNat))]

theorem toJson_eq (d : PolicyDetails) : d.toJson = .object (present d.written) := by
  simp only [toJson, entry_eq, entryUnless_eq]
  exact ofEntries_present d.written

theorem ofJson_toJson {d : PolicyDetails} (hscore : d.riskScore.isFinite) :
    PolicyDetails.ofJson d.toJson = .ok d := by
  have hdistinct : (d.written.map (·.1)).Nodup := by
    simp [written]
  have hobligations : (Fields.named (present d.written)).orElse "required_actions" []
      (asList asString) = .ok d.obligations :=
    Fields.orElse_of_unless (find_present hdistinct (by simp [written]))
      (asList_ofStrings d.obligations)
  rw [toJson_eq]
  unfold PolicyDetails.ofJson
  refine bind_eq_ok.2 ⟨_, asFields_present hdistinct, ?_⟩
  refine bind_eq_ok.2 ⟨d.applied, orElse_present hdistinct [] (ofStrings d.applied)
    (by simp [written]) (asList_ofStrings d.applied), ?_⟩
  refine bind_eq_ok.2 ⟨d.riskScore, required_present hdistinct (ofFloat d.riskScore)
    (by simp [written]) (asFloat_ofFloat hscore), ?_⟩
  refine bind_eq_ok.2 ⟨d.obligations, hobligations, ?_⟩
  exact bind_eq_ok.2 ⟨d.millis, required_present hdistinct (ofNat d.millis.toNat)
    (by simp [written]) (asUInt64_ofNat d.millis), rfl⟩

theorem isFinite_of_ofJson {d d' : PolicyDetails} (h : PolicyDetails.ofJson d.toJson = .ok d') :
    d.riskScore.isFinite := by
  have hdistinct : (d.written.map (·.1)).Nodup := by
    simp [written]
  have hfound : (Fields.named (present d.written)).find? "risk_score" = some (ofFloat d.riskScore) :=
    find_present hdistinct (by simp [written])
  rw [toJson_eq] at h
  unfold PolicyDetails.ofJson at h
  obtain ⟨f, hf, h⟩ := bind_eq_ok.1 h
  rw [asFields_present hdistinct] at hf
  cases hf
  obtain ⟨applied, -, h⟩ := bind_eq_ok.1 h
  obtain ⟨score, hscore, -⟩ := bind_eq_ok.1 h
  exact isFinite_of_asFloat (Fields.decode_of_required hfound hscore)

end PolicyDetails

namespace SecurityMetrics

def written (m : SecurityMetrics) : List (String × Option Json) := [
  ("risk_score", some (ofFloat m.riskScore)),
  ("policies_applied", some (ofNat m.policiesApplied)),
  ("query_complexity", some m.complexity.toJson),
  ("sensitive_access", some (.bool m.sensitive))]

theorem toJson_eq (m : SecurityMetrics) : m.toJson = .object (present m.written) := rfl

/-- What can be written of security metrics: a finite number, and a count of sixty-four bits. -/
structure IsWritable (m : SecurityMetrics) : Prop where
  score : m.riskScore.isFinite
  count : m.policiesApplied < UInt64.size

theorem ofJson_toJson {m : SecurityMetrics} (hm : m.IsWritable) :
    SecurityMetrics.ofJson m.toJson = .ok m := by
  have hdistinct : (m.written.map (·.1)).Nodup := by
    simp [written]
  rw [toJson_eq]
  unfold SecurityMetrics.ofJson
  refine bind_eq_ok.2 ⟨_, asFields_present hdistinct, ?_⟩
  refine bind_eq_ok.2 ⟨m.riskScore, required_present hdistinct (ofFloat m.riskScore)
    (by simp [written]) (asFloat_ofFloat hm.score), ?_⟩
  refine bind_eq_ok.2 ⟨m.policiesApplied, required_present hdistinct (ofNat m.policiesApplied)
    (by simp [written]) (asCount_ofNat hm.count), ?_⟩
  refine bind_eq_ok.2 ⟨m.complexity, required_present hdistinct m.complexity.toJson
    (by simp [written]) m.complexity.ofJson_toJson, ?_⟩
  exact bind_eq_ok.2 ⟨m.sensitive, required_present hdistinct (.bool m.sensitive)
    (by simp [written]) rfl, rfl⟩

end SecurityMetrics

namespace AuditActor

def written (a : AuditActor) : List (String × Option Json) := [
  ("user_id", some (.string a.user)),
  ("email", some (.string a.email)),
  ("role", some (.string a.role))]

theorem toJson_eq (a : AuditActor) : a.toJson = .object (present a.written) := rfl

theorem ofJson_toJson (a : AuditActor) : AuditActor.ofJson a.toJson = .ok a := by
  have hdistinct : (a.written.map (·.1)).Nodup := by
    simp [written]
  rw [toJson_eq]
  unfold AuditActor.ofJson
  refine bind_eq_ok.2 ⟨_, asFields_present hdistinct, ?_⟩
  refine bind_eq_ok.2
    ⟨a.user, required_present hdistinct (.string a.user) (by simp [written]) rfl, ?_⟩
  refine bind_eq_ok.2
    ⟨a.email, required_present hdistinct (.string a.email) (by simp [written]) rfl, ?_⟩
  exact bind_eq_ok.2
    ⟨a.role, required_present hdistinct (.string a.role) (by simp [written]) rfl, rfl⟩

end AuditActor

namespace Usage

def written (u : Usage) : List (String × Option Json) := [
  ("provider", some (.string u.provider)),
  ("model", some (.string u.model)),
  ("response_time_ms", some (ofNat u.millis.toNat)),
  ("tokens_used", some (ofNat u.tokens.toNat)),
  ("cost", some (ofFloat u.cost))]

theorem toJson_eq (u : Usage) : u.toJson = .object (present u.written) := rfl

theorem ofJson_toJson {u : Usage} (hcost : u.cost.isFinite) : Usage.ofJson u.toJson = .ok u := by
  have hdistinct : (u.written.map (·.1)).Nodup := by
    simp [written]
  rw [toJson_eq]
  unfold Usage.ofJson
  refine bind_eq_ok.2 ⟨_, asFields_present hdistinct, ?_⟩
  refine bind_eq_ok.2
    ⟨u.provider, required_present hdistinct (.string u.provider) (by simp [written]) rfl, ?_⟩
  refine bind_eq_ok.2
    ⟨u.model, required_present hdistinct (.string u.model) (by simp [written]) rfl, ?_⟩
  refine bind_eq_ok.2 ⟨u.millis, required_present hdistinct (ofNat u.millis.toNat)
    (by simp [written]) (asUInt64_ofNat u.millis), ?_⟩
  refine bind_eq_ok.2 ⟨u.tokens, required_present hdistinct (ofNat u.tokens.toNat)
    (by simp [written]) (asUInt64_ofNat u.tokens), ?_⟩
  exact bind_eq_ok.2 ⟨u.cost, required_present hdistinct (ofFloat u.cost)
    (by simp [written]) (asFloat_ofFloat hcost), rfl⟩

end Usage

namespace AuditEntry

def written (e : AuditEntry) : List (String × Option Json) := [
  ("id", some e.id.toJson),
  ("request_id", some e.request.toJson),
  ("timestamp", some (ofInstant e.timestamp)),
  ("actor", some e.actor.toJson),
  ("client_id", e.client.map .string),
  ("tenant_id", some e.tenant.toJson),
  ("request_type", some (.string e.requestKind)),
  ("query_hash", some (.string e.queryHash)),
  ("decision", some e.verdict.toJson),
  ("policy_details", e.details.map PolicyDetails.toJson),
  ("usage", e.usage.map Usage.toJson),
  ("response_sample", e.sample.map .string),
  ("redacted_fields", some (ofStrings e.redacted)),
  ("error_message", e.errorMessage.map .string),
  ("compliance_flags", some (ofList e.flags ComplianceFlag.toJson)),
  ("security_metrics", e.security.map SecurityMetrics.toJson)]

theorem toJson_eq (e : AuditEntry) : e.toJson = .object (present e.written) := by
  simp only [toJson, entry_eq, entryIfSome_eq]
  exact ofEntries_present e.written

theorem nodup_written (e : AuditEntry) : (e.written.map (·.1)).Nodup := by
  change AuditEntry.fieldNames.Nodup
  decide

/-- What can be told of an entry in JSON: a time such as a clock shows, finite numbers, and counts of
sixty-four bits. -/
structure IsTellable (e : AuditEntry) : Prop where
  timestamp : e.timestamp.IsProper
  details : ∀ d ∈ e.details, d.riskScore.isFinite
  usage : ∀ u ∈ e.usage, u.cost.isFinite
  security : ∀ m ∈ e.security, m.IsWritable

theorem ofJson_toJson {e : AuditEntry} (he : e.IsTellable) : AuditEntry.ofJson e.toJson = .ok e := by
  have hdistinct := e.nodup_written
  have required {α : Type} {name : String} {decode : Decoder α} {value : α} (j : Json)
      (hfield : (name, some j) ∈ e.written) (hvalue : decode j = .ok value) :
      (Fields.named (present e.written)).required name decode = .ok value :=
    required_present hdistinct j hfield hvalue
  have optional {α : Type} {name : String} {decode : Decoder α} {given : Option α} (encode : α → Json)
      (hfield : (name, given.map encode) ∈ e.written)
      (hread : ∀ a ∈ given, encode a ≠ .null ∧ decode (encode a) = .ok a) :
      (Fields.named (present e.written)).optional name decode = .ok given :=
    Fields.optional_of_map (find_present hdistinct hfield) hread
  have hredacted : (Fields.named (present e.written)).orElse "redacted_fields" [] (asList asString) =
      .ok e.redacted :=
    orElse_present hdistinct [] (ofStrings e.redacted) (by simp [written]) (asList_ofStrings e.redacted)
  have hflags : (Fields.named (present e.written)).orElse "compliance_flags" []
      (asList ComplianceFlag.ofJson) = .ok e.flags :=
    orElse_present hdistinct [] (ofList e.flags ComplianceFlag.toJson) (by simp [written])
      (asList_ofList_self fun f _ => f.ofJson_toJson)
  have hverdict : Verdict.ofJson e.verdict.toJson = .ok e.verdict := by cases e.verdict <;> rfl
  have htext : ∀ s : String, Json.string s ≠ .null ∧ asString (.string s) = .ok s :=
    fun _ => ⟨nofun, rfl⟩
  rw [toJson_eq]
  unfold AuditEntry.ofJson
  refine bind_eq_ok.2 ⟨_, asFields_present hdistinct, ?_⟩
  refine bind_eq_ok.2 ⟨e.id, required e.id.toJson (by simp [written]) rfl, ?_⟩
  refine bind_eq_ok.2 ⟨e.request, required e.request.toJson (by simp [written]) rfl, ?_⟩
  refine bind_eq_ok.2 ⟨e.timestamp, required (ofInstant e.timestamp) (by simp [written])
    (asInstant_ofInstant he.timestamp), ?_⟩
  refine bind_eq_ok.2
    ⟨e.actor, required e.actor.toJson (by simp [written]) e.actor.ofJson_toJson, ?_⟩
  refine bind_eq_ok.2 ⟨e.client, optional .string (by simp [written]) fun s _ => htext s, ?_⟩
  refine bind_eq_ok.2 ⟨e.tenant, required e.tenant.toJson (by simp [written]) rfl, ?_⟩
  refine bind_eq_ok.2 ⟨e.requestKind, required (.string e.requestKind) (by simp [written]) rfl, ?_⟩
  refine bind_eq_ok.2 ⟨e.queryHash, required (.string e.queryHash) (by simp [written]) rfl, ?_⟩
  refine bind_eq_ok.2 ⟨e.verdict, required e.verdict.toJson (by simp [written]) hverdict, ?_⟩
  refine bind_eq_ok.2 ⟨e.details, optional PolicyDetails.toJson (by simp [written])
    fun d hd => ⟨nofun, PolicyDetails.ofJson_toJson (he.details d hd)⟩, ?_⟩
  refine bind_eq_ok.2 ⟨e.usage, optional Usage.toJson (by simp [written])
    fun u hu => ⟨nofun, Usage.ofJson_toJson (he.usage u hu)⟩, ?_⟩
  refine bind_eq_ok.2 ⟨e.sample, optional .string (by simp [written]) fun s _ => htext s, ?_⟩
  refine bind_eq_ok.2 ⟨e.redacted, hredacted, ?_⟩
  refine bind_eq_ok.2 ⟨e.errorMessage, optional .string (by simp [written]) fun s _ => htext s, ?_⟩
  refine bind_eq_ok.2 ⟨e.flags, hflags, ?_⟩
  exact bind_eq_ok.2 ⟨e.security, optional SecurityMetrics.toJson (by simp [written])
    fun m hm => ⟨nofun, SecurityMetrics.ofJson_toJson (he.security m hm)⟩, rfl⟩

/-- What holds of every entry that was read: its time is such as a clock shows, and its counts have
sixty-four bits. -/
structure WasRead (e : AuditEntry) : Prop where
  timestamp : e.timestamp.IsProper
  security : ∀ m ∈ e.security, m.policiesApplied < UInt64.size

structure IsFinite (e : AuditEntry) : Prop where
  details : ∀ d ∈ e.details, d.riskScore.isFinite
  usage : ∀ u ∈ e.usage, u.cost.isFinite
  security : ∀ m ∈ e.security, m.riskScore.isFinite

theorem fields_of_ofJson {j : Json} {e : AuditEntry} (he : AuditEntry.ofJson j = .ok e) :
    ∃ f : Fields, asFields fieldNames j = .ok f ∧
      f.required "timestamp" asInstant = .ok e.timestamp ∧
      f.optional "policy_details" PolicyDetails.ofJson = .ok e.details ∧
      f.optional "security_metrics" SecurityMetrics.ofJson = .ok e.security := by
  unfold AuditEntry.ofJson at he
  obtain ⟨f, hf, he⟩ := bind_eq_ok.1 he
  obtain ⟨id, -, he⟩ := bind_eq_ok.1 he
  obtain ⟨request, -, he⟩ := bind_eq_ok.1 he
  obtain ⟨timestamp, htimestamp, he⟩ := bind_eq_ok.1 he
  obtain ⟨actor, -, he⟩ := bind_eq_ok.1 he
  obtain ⟨client, -, he⟩ := bind_eq_ok.1 he
  obtain ⟨tenant, -, he⟩ := bind_eq_ok.1 he
  obtain ⟨requestKind, -, he⟩ := bind_eq_ok.1 he
  obtain ⟨queryHash, -, he⟩ := bind_eq_ok.1 he
  obtain ⟨verdict, -, he⟩ := bind_eq_ok.1 he
  obtain ⟨details, hdetails, he⟩ := bind_eq_ok.1 he
  obtain ⟨usage, -, he⟩ := bind_eq_ok.1 he
  obtain ⟨sample, -, he⟩ := bind_eq_ok.1 he
  obtain ⟨redacted, -, he⟩ := bind_eq_ok.1 he
  obtain ⟨errorMessage, -, he⟩ := bind_eq_ok.1 he
  obtain ⟨flags, -, he⟩ := bind_eq_ok.1 he
  obtain ⟨security, hsecurity, he⟩ := bind_eq_ok.1 he
  cases he
  exact ⟨f, hf, htimestamp, hdetails, hsecurity⟩

/-- An entry whose risk score is not finite is not read back. -/
theorem isFinite_of_ofJson {e e' : AuditEntry} (h : AuditEntry.ofJson e.toJson = .ok e')
    {d : PolicyDetails} (hd : e.details = some d) : d.riskScore.isFinite := by
  have hwritten : ("policy_details", some d.toJson) ∈ e.written := by
    simp [written, hd]
  obtain ⟨f, hf, -, hdetails, -⟩ := fields_of_ofJson h
  rw [toJson_eq, asFields_present e.nodup_written] at hf
  cases hf
  obtain ⟨d', hd'⟩ :=
    Fields.exists_decode_of_optional (find_present e.nodup_written hwritten) nofun hdetails
  exact PolicyDetails.isFinite_of_ofJson hd'

theorem WasRead.isTellable {e : AuditEntry} (he : e.WasRead) (hfinite : e.IsFinite) :
    e.IsTellable where
  timestamp := he.timestamp
  details := hfinite.details
  usage := hfinite.usage
  security := fun m hm => ⟨hfinite.security m hm, he.security m hm⟩

end AuditEntry

theorem Json.lt_of_asCount {j : Json} {n : Nat} (hn : Coded.asCount j = .ok n) : n < UInt64.size := by
  obtain ⟨k, hk, rfl⟩ := map_eq_ok.1 hn
  unfold asInteger at hk
  split at hk
  · split at hk
    · rename_i hbounds
      cases hk
      rw [Bool.and_eq_true, decide_eq_true_eq, decide_eq_true_eq] at hbounds
      have hsize : 0 < UInt64.size := by decide
      omega
    · cases hk
  · cases hk

theorem SecurityMetrics.lt_of_ofJson {j : Json} {m : SecurityMetrics}
    (hm : SecurityMetrics.ofJson j = .ok m) : m.policiesApplied < UInt64.size := by
  unfold SecurityMetrics.ofJson at hm
  obtain ⟨f, _, hm⟩ := bind_eq_ok.1 hm
  obtain ⟨score, _, hm⟩ := bind_eq_ok.1 hm
  obtain ⟨count, hcount, hm⟩ := bind_eq_ok.1 hm
  obtain ⟨complexity, _, hm⟩ := bind_eq_ok.1 hm
  obtain ⟨sensitive, _, hm⟩ := bind_eq_ok.1 hm
  cases hm
  obtain ⟨_, hcount⟩ := Fields.exists_of_required hcount
  exact lt_of_asCount hcount

theorem AuditEntry.wasRead_of_ofJson {j : Json} {e : AuditEntry} (he : AuditEntry.ofJson j = .ok e) :
    e.WasRead := by
  obtain ⟨f, -, htimestamp, -, hsecurity⟩ := fields_of_ofJson he
  obtain ⟨_, htimestamp⟩ := Fields.exists_of_required htimestamp
  refine ⟨isProper_of_asInstant htimestamp, fun m hm => ?_⟩
  obtain ⟨_, hm⟩ := Fields.exists_of_optional hsecurity hm
  exact SecurityMetrics.lt_of_ofJson hm

end Governance
