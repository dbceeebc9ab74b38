import Governance.Proofs.Audit.Written
import Governance.Proofs.Sql.Places
import Governance.Proofs.Sql.PolicyRows
import Governance.Sql.AuditTable

/-!
# Rows of audit entries

Whatever was sent for an entry is read off its row again, with or without its optional parts, of which
the usage is spread over five columns. Only counts that are larger than a column holds are not what they
were.
-/

namespace Governance

open Json

/-- What can be written of an entry: scores that are finite, and counts of sixty-four bits. -/
structure AuditEntry.IsWritable (e : AuditEntry) : Prop where
  details : ∀ d ∈ e.details, d.riskScore.isFinite
  security : ∀ m ∈ e.security, m.IsWritable

namespace Sql

/-! ### Fields that may hold nothing -/

namespace Row

variable {α β : Type} {r : Row} {column : String}

theorem text_of_value {s : String} (hvalue : r.value column = .text s) : r.text column = .ok s := by
  rw [text, hvalue]

theorem integer_of_value {n : Int} (hvalue : r.value column = .integer n) :
    r.integer column = .ok n := by
  rw [integer, hvalue]

theorem double_of_value {x : Float} (hvalue : r.value column = .double x) :
    r.double column = .ok x := by
  rw [double, hvalue]

/-- Of a record that may be missing a field holds what `f` tells of it, and is read as such. -/
theorem optional_ofOption {read : Row → String → Row.Read β} {encode : α → Value} {given : Option α}
    (f : α → β) (hvalue : r.value column = .ofOption encode given) (hnull : ∀ a, encode a ≠ .null)
    (hread : ∀ a ∈ given, r.value column = encode a → read r column = .ok (f a)) :
    r.optional read column = .ok (given.map f) := by
  unfold optional
  cases given with
  | none =>
    rw [hvalue]
    rfl
  | some a =>
    have hsome : r.value column = encode a := hvalue
    split
    · next hnone => exact absurd (hsome.symm.trans hnone) (hnull a)
    · rw [hread a rfl hsome]
      rfl

theorem optional_textOf {given : Option α} (f : α → String)
    (hvalue : r.value column = .ofOption (fun a => .text (f a)) given) :
    r.optional text column = .ok (given.map f) :=
  optional_ofOption f hvalue nofun fun _ _ => text_of_value

theorem optional_text {given : Option String} (hvalue : r.value column = .ofOption .text given) :
    r.optional text column = .ok given := by
  have h := optional_textOf id hvalue
  rwa [Option.map_id_fun, id_eq] at h

theorem optional_doubleOf {given : Option α} (f : α → Float)
    (hvalue : r.value column = .ofOption (fun a => .double (f a)) given) :
    r.optional double column = .ok (given.map f) :=
  optional_ofOption f hvalue nofun fun _ _ => double_of_value

theorem optional_document {decode : Decoder α} {encode : α → Json} {given : Option α}
    (hvalue : r.value column = .ofOption (fun a => .document (encode a)) given)
    (hread : ∀ a ∈ given, decode (encode a) = .ok a) :
    r.optional (document decode) column = .ok given := by
  have h : r.optional (document decode) column = .ok (given.map id) :=
    optional_ofOption id hvalue nofun fun a ha hsome => document_of_decode hsome (hread a ha)
  rwa [Option.map_id_fun, id_eq] at h

end Row

namespace AuditTable

variable {e : AuditEntry}

/-! ### Counts -/

/-- What is left of a count in a column. -/
def keptCount (n : UInt64) : UInt64 := if n.toNat ≤ largest then n else .ofNat largest

theorem keptCount_eq (n : UInt64) : keptCount n = .ofNat (min n.toNat largest) := by
  unfold keptCount
  split
  · next h => rw [Nat.min_eq_left h, UInt64.ofNat_toNat]
  · next h => rw [Nat.min_eq_right (Nat.le_of_not_le h)]

/-- What is left of usage in a row. -/
def keptUsage (u : Usage) : Usage :=
  { u with millis := keptCount u.millis, tokens := keptCount u.tokens }

theorem keptUsage_of_le {u : Usage} (hmillis : u.millis.toNat ≤ largest)
    (htokens : u.tokens.toNat ≤ largest) : keptUsage u = u := by
  rw [keptUsage, keptCount, keptCount, if_pos hmillis, if_pos htokens]

theorem optional_count {given : Option Usage} {column : String} {r : Row} (f : Usage → UInt64)
    (hvalue : r.value column = .ofOption (fun u => countValue (f u)) given) :
    r.optional Row.integer column = .ok (given.map fun u => (min (f u).toNat largest : Nat)) :=
  Row.optional_ofOption _ hvalue nofun fun _ _ => Row.integer_of_value

theorem usage_of_columns (given : Option Usage) :
    ((given.map (·.provider)).map fun provider => (⟨provider, (given.map (·.model)).getD "",
      countOf (given.map fun u => (min u.millis.toNat largest : Nat)),
      countOf (given.map fun u => (min u.tokens.toNat largest : Nat)),
      (given.map (·.cost)).getD 0⟩ : Usage)) = given.map keptUsage := by
  cases given with
  | none => rfl
  | some u =>
    simp only [Option.map_some, keptUsage, keptCount_eq]
    rfl

/-! ### Entries -/

theorem addedRow_insertion (e : AuditEntry) : (insertion e).addedRow = rowOf e :=
  Command.addedRow_insert auditTable (rowOf e)

/-- A row says of an entry all that was written. -/
theorem ofRow_rowOf (he : e.IsWritable) (hid : e.id.isUsable) (hrequest : e.request.isUsable)
    (htenant : e.tenant.isUsable) :
    ofRow (rowOf e) = .ok (.ok { e with usage := e.usage.map keptUsage }) := by
  have hdetails : (rowOf e).optional (Row.document PolicyDetails.ofJson) "policy_details" =
      .ok e.details :=
    Row.optional_document rfl fun d hd => PolicyDetails.ofJson_toJson (he.details d hd)
  have hredacted : (rowOf e).document (asList asString) "redacted_fields" = .ok e.redacted :=
    Row.document_of_decode rfl (asList_ofStrings e.redacted)
  have hflags : (rowOf e).document (asList ComplianceFlag.ofJson) "compliance_flags" =
      .ok e.flags :=
    Row.document_of_decode rfl (asList_ofList_self fun f _ => f.ofJson_toJson)
  have hsecurity : (rowOf e).optional (Row.document SecurityMetrics.ofJson) "security_metrics" =
      .ok e.security :=
    Row.optional_document rfl fun m hm => SecurityMetrics.ofJson_toJson (he.security m hm)
  have hid : Identifier.ofText .audit e.id.text = .ok e.id :=
    Identifier.ofText_eq_ok_iff.2 ⟨rfl, hid⟩
  have hrequest : Identifier.ofText .request e.request.text = .ok e.request :=
    Identifier.ofText_eq_ok_iff.2 ⟨rfl, hrequest⟩
  have htenant : Identifier.ofText .tenant e.tenant.text = .ok e.tenant :=
    Identifier.ofText_eq_ok_iff.2 ⟨rfl, htenant⟩
  unfold ofRow
  refine bind_eq_ok.2 ⟨e.id.text, rfl, ?_⟩
  refine bind_eq_ok.2 ⟨e.request.text, rfl, ?_⟩
  refine bind_eq_ok.2 ⟨e.timestamp, rfl, ?_⟩
  refine bind_eq_ok.2 ⟨e.actor.user, rfl, ?_⟩
  refine bind_eq_ok.2 ⟨e.actor.email, rfl, ?_⟩
  refine bind_eq_ok.2 ⟨e.actor.role, rfl, ?_⟩
  refine bind_eq_ok.2 ⟨e.client, Row.optional_text rfl, ?_⟩
  refine bind_eq_ok.2 ⟨e.tenant.text, rfl, ?_⟩
  refine bind_eq_ok.2 ⟨e.requestKind, rfl, ?_⟩
  refine bind_eq_ok.2 ⟨e.queryHash, rfl, ?_⟩
  refine bind_eq_ok.2 ⟨e.verdict.word, rfl, ?_⟩
  refine bind_eq_ok.2 ⟨e.details, hdetails, ?_⟩
  refine bind_eq_ok.2 ⟨_, Row.optional_textOf Usage.provider rfl, ?_⟩
  refine bind_eq_ok.2 ⟨_, Row.optional_textOf Usage.model rfl, ?_⟩
  refine bind_eq_ok.2 ⟨_, optional_count Usage.millis rfl, ?_⟩
  refine bind_eq_ok.2 ⟨_, optional_count Usage.tokens rfl, ?_⟩
  refine bind_eq_ok.2 ⟨_, Row.optional_doubleOf Usage.cost rfl, ?_⟩
  refine bind_eq_ok.2 ⟨e.redacted, hredacted, ?_⟩
  refine bind_eq_ok.2 ⟨e.errorMessage, Row.optional_text rfl, ?_⟩
  refine bind_eq_ok.2 ⟨e.sample, Row.optional_text rfl, ?_⟩
  refine bind_eq_ok.2 ⟨e.flags, hflags, ?_⟩
  refine bind_eq_ok.2 ⟨e.security, hsecurity, ?_⟩
  refine congrArg Except.ok ?_
  simp only [usage_of_columns, hid, hrequest, htenant, Verdict.ofWord?_word]
  rfl

/-- An entry whose identifiers are not blank is read back off the row that its insertion adds, up to
counts that are larger than a column holds, which become the largest that it holds. What goes into which
column is told by the text of the command. -/
theorem entries_read_back {e : AuditEntry} (he : e.IsWritable) (hid : e.id.isUsable)
    (hrequest : e.request.isUsable) (htenant : e.tenant.isUsable) :
    (insertion e).text = insertText auditTable (insertion e).assigned ∧
      ofRow (insertion e).addedRow = .ok (.ok { e with usage := e.usage.map keptUsage }) ∧
      ((∀ u ∈ e.usage, u.millis.toNat ≤ largest ∧ u.tokens.toNat ≤ largest) →
        ofRow (insertion e).addedRow = .ok (.ok e)) := by
  have hread : ofRow (insertion e).addedRow = .ok (.ok { e with usage := e.usage.map keptUsage }) := by
    rw [addedRow_insertion, ofRow_rowOf he hid hrequest htenant]
  refine ⟨Command.text_insert .., hread, fun hsmall => ?_⟩
  have husage : e.usage.map keptUsage = e.usage := by
    cases husage : e.usage with
    | none => rfl
    | some u =>
      obtain ⟨hmillis, htokens⟩ := hsmall u husage
      exact congrArg some (keptUsage_of_le hmillis htokens)
  rw [hread, husage]

/-- An entry with all of its parts; serving the request took longer than a column can say. -/
def endlessEntry : AuditEntry where
  id := ⟨"a1"⟩
  request := ⟨"r1"⟩
  timestamp := ⟨0, 0⟩
  actor := ⟨"u1", "alice@example.com", "analyst"⟩
  client := some "console"
  tenant := ⟨"acme"⟩
  requestKind := "query"
  queryHash := "5feceb66"
  verdict := .redacted
  details := some ⟨["Card numbers"], 0.5, [], 3⟩
  usage := some ⟨"openai", "gpt-4", 9223372036854775808, 120, 0.25⟩
  sample := some "The card number is"
  redacted := ["card"]
  errorMessage := some "timed out"
  flags := [.piiAccess]
  security := some ⟨0.5, 1, .low, true⟩

theorem endlessEntry_read_back :
    ofRow (insertion endlessEntry).addedRow = .ok (.ok { endlessEntry with
      usage := some ⟨"openai", "gpt-4", 9223372036854775807, 120, 0.25⟩ }) ∧
    ofRow (insertion { endlessEntry with usage := none }).addedRow =
      .ok (.ok { endlessEntry with usage := none }) := by
  have hscore : (0.5 : Float).isFinite := by decide
  have hdetails : ∀ d ∈ endlessEntry.details, d.riskScore.isFinite := by
    rintro d ⟨⟩
    exact hscore
  have hsecurity : ∀ m ∈ endlessEntry.security, m.IsWritable := by
    rintro m ⟨⟩
    exact ⟨hscore, by decide⟩
  have hread := entries_read_back ⟨hdetails, hsecurity⟩ (by decide) (by decide) (by decide)
  have hunused := entries_read_back (e := { endlessEntry with usage := none }) ⟨hdetails, hsecurity⟩
    (by decide) (by decide) (by decide)
  exact ⟨hread.2.1, hunused.2.2 nofun⟩

end AuditTable

end Sql

end Governance
