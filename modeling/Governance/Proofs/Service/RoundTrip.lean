import Governance.Proofs.Policy.Codec
import Governance.Proofs.Service.Repetition
import Governance.Proofs.Store.Arrivals

/-!
# Exporting policies and importing them again

What a tenant exports is written with more fields than an import reads, and it comes back as drafts, is
checked like any other drafts and goes through the gate. Nothing is lost on the way: an empty store is
filled with copies of the policies, and in the store that they came from there is nothing left to do. The
text of an export is read as its value is, as far as a text can say what is in the policies.
-/

namespace Governance

open Acting (Ensures)

/-- All that a draft can give to a policy is that of another one, and a tenant has it in its first
version. -/
structure Policy.CopiedFor (tenant : TenantId) (p q : Policy) : Prop where
  id : q.id = p.id
  name : q.name = p.name
  description : q.description = p.description
  kind : q.kind = p.kind
  tier : q.tier = p.tier
  priority : q.priority = p.priority
  enabled : q.enabled = p.enabled
  conditions : q.conditions = p.conditions
  actions : q.actions = p.actions
  category : q.category = p.category
  tags : q.tags = p.tags
  version : q.version = 1
  tenant : q.tenant = tenant

theorem PolicyDraft.Describes.copiedFor {p q : Policy} {tenant : TenantId} {actor : String}
    (hq : p.asDraft.Describes tenant actor q) : p.CopiedFor tenant q := by
  obtain ⟨fresh, now, hq⟩ := hq
  obtain ⟨kind, hkind, rfl⟩ := eq_of_toPolicy hq
  obtain rfl : p.kind = kind := Option.some.inj (p.kind_asDraft.symm.trans hkind)
  constructor <;> rfl

/-- The policies of a tenant can be imported where their names and identifiers are free. Objects that
were read are maps, and so are those of all policies that are made of what was read. -/
structure StoreContents.Portable (s : StoreContents) (tenant : TenantId) : Prop where
  nonempty : s.ownedBy tenant ≠ []
  few : (s.ownedBy tenant).length ≤ Service.largestImport
  valid : ∀ p ∈ s.ownedBy tenant, p.Valid
  names : ((s.ownedBy tenant).map (·.name)).Nodup
  mutable : ∀ p ∈ s.ownedBy tenant, p.isSystem = false
  canonical : ∀ p ∈ s.ownedBy tenant, p.IsCanonical

/-- Nothing is in the way of a policy where there are none. -/
theorem Policy.awaited_of_empty {s : StoreContents} (hempty : s.policies = .empty) (p : Policy)
    (tenant : TenantId) : s.Awaits tenant p.asDraft := by
  refine ⟨?_, ?_, p.id, rfl, ?_⟩
  · rw [StoreContents.named, StoreContents.ownedBy, hempty]
    rfl
  · rw [p.kind_asDraft]
    rfl
  · rw [hempty]
    rfl

/-- An export has everything on its only page. -/
theorem Listing.perm_pageOf_everything {policies : List Policy}
    (hfew : policies.length < UInt32.size) :
    (everything.pageOf policies).items.Perm policies := by
  have hall : policies.filter everything.accepts = policies :=
    List.filter_eq_self.2 fun _ _ => rfl
  have hselected : (everything.select policies).Perm policies := by
    rw [select, hall]
    exact List.mergeSort_perm _ _
  have hoffset : everything.offset.toNat = 0 := by decide
  have hsize : everything.pageSize.toNat = UInt32.size - 1 := by decide
  have hfits : (everything.select policies).length ≤ UInt32.size - 1 := by
    rw [hselected.length_eq]
    omega
  rw [pageOf, hoffset, hsize, List.drop_zero, List.take_of_length_le hfits]
  exact hselected

namespace Service

variable {s : MemoryStore} {gate : Gate} {tenant : TenantId} {actor : String} {r : ImportRequest}
  {mode : ImportMode}

/-! ### The checks of an import -/

theorem draftsFaults_eq_nil {drafts : List PolicyDraft} (hfaults : ∀ d ∈ drafts, d.faults = [])
    (index : Nat) : draftsFaults index drafts = [] := by
  induction drafts generalizing index with
  | nil => rfl
  | cons draft rest ih =>
    obtain ⟨hdraft, hrest⟩ := List.forall_mem_cons.1 hfaults
    rw [draftsFaults, hdraft, ih hrest]
    rfl

theorem importMode_eq_ok (hmode : ImportMode.ofText? (r.mode.getD "") = some mode)
    (hsome : r.policies ≠ []) (hfew : r.policies.length ≤ largestImport)
    (hfaults : ∀ d ∈ r.policies, d.faults = []) : importMode r = .ok mode := by
  have hempty : r.policies.isEmpty = false := by simpa using hsome
  unfold importMode
  rw [hmode, draftsFaults_eq_nil hfaults]
  simp [hempty, Nat.not_lt.2 hfew]

/-- With a licence, what comes of an import that passes the checks is what comes of its drafts. -/
theorem ensures_importAll_licensed (hmode : importMode r = .ok mode) (hs : s.contents.Indexed)
    (hlicensed : gate.enterprise) (htiers : ∀ d ∈ r.policies, d.effectiveTier ≠ .system)
    (hcommits : s.rejectsCommits = false) {post : List ImportOutcome → MemoryStore → Prop}
    (heach : Ensures (MemoryStore.importEach tenant mode actor r.policies) s post) :
    Ensures (run (importAll gate tenant r actor)) s fun result s' =>
      ∃ outcomes, result = .ok (.ofOutcomes outcomes) ∧ post outcomes s' := by
  intro a
  obtain ⟨verdict, b, haccepted, _, hresult⟩ := run_importAll gate tenant actor hmode hs a
  have hpermits : ∀ d ∈ r.policies, gate.permits d.effectiveTier := by
    intro d hd
    have hother := htiers d hd
    cases htier : d.effectiveTier with
    | system => exact absurd htier hother
    | organization => exact hlicensed
    | tenant => rfl
  obtain rfl := haccepted.2 ⟨hpermits, .inl hlicensed⟩
  rw [MemoryStore.importAll_run, if_neg (by simp [hcommits])] at hresult
  rw [hresult]
  exact ⟨_, rfl, heach b⟩

end Service

/-! ### Importing what was exported -/

section Exported

variable {s : MemoryStore} {tenant : TenantId} {gate : Gate} {importer : Caller} {actor : String}
  {mode : ImportMode} {word : Option String} {exported : List Policy}

/-- The checks pass what was exported. -/
theorem StoreContents.Portable.importMode (hportable : s.contents.Portable tenant)
    (hexported : exported.Perm (s.contents.ownedBy tenant))
    (hmode : ImportMode.ofText? (word.getD "") = some mode) :
    Service.importMode ⟨exported.map Policy.asDraft, word⟩ = .ok mode := by
  refine Service.importMode_eq_ok hmode ?_ ?_ ?_
  · intro hnone
    rw [List.map_eq_nil_iff] at hnone
    rw [hnone, List.nil_perm] at hexported
    exact hportable.nonempty hexported
  · rw [List.length_map, hexported.length_eq]
    exact hportable.few
  · intro d hd
    obtain ⟨p, hp, rfl⟩ := List.mem_map.1 hd
    exact Policy.valid_iff_faults.1 (hportable.valid p (hexported.mem_iff.1 hp))

theorem StoreContents.Portable.effectiveTier (hportable : s.contents.Portable tenant)
    (hexported : exported.Perm (s.contents.ownedBy tenant)) :
    ∀ d ∈ exported.map Policy.asDraft, d.effectiveTier ≠ .system := by
  intro d hd hsystem
  obtain ⟨p, hp, rfl⟩ := List.mem_map.1 hd
  have hmutable := hportable.mutable p (hexported.mem_iff.1 hp)
  rw [Policy.isSystem, decide_eq_false_iff_not] at hmutable
  exact hmutable hsystem

/-- An empty store is filled with copies, one for each policy and in the order of the export. -/
theorem ensures_import_into_empty (hs : s.contents.Indexed)
    (hportable : s.contents.Portable tenant)
    (hexported : exported.Perm (s.contents.ownedBy tenant)) (hlicensed : gate.enterprise)
    (hmode : ImportMode.ofText? (word.getD "") = some mode) {t : MemoryStore}
    (hempty : t.contents.policies = .empty) (hcommits : t.rejectsCommits = false) :
    Ensures ((PolicyCall.importAll ⟨exported.map Policy.asDraft, word⟩).serve gate importer) t
      fun result t' => result = .ok ⟨exported.length, 0, 0, []⟩ ∧
        List.Forall₂ (Policy.CopiedFor importer.tenant) exported t'.contents.policies.values := by
  have hnames : ((exported.map Policy.asDraft).map (·.name)).Nodup := by
    rw [List.map_map]
    exact (hexported.map _).nodup_iff.2 hportable.names
  have hids : ((exported.map Policy.asDraft).map (·.id)).Nodup := by
    rw [List.map_map]
    refine (hexported.nodup_iff.2 hs.nodup_ownedBy).map_on fun p hp q hq hsame => ?_
    exact hs.eq_of_id_eq (hexported.mem_iff.1 hp) (hexported.mem_iff.1 hq) (Option.some.inj hsame)
  have hawaits : ∀ d ∈ exported.map Policy.asDraft, t.contents.Awaits importer.tenant d := by
    intro d hd
    obtain ⟨p, _, rfl⟩ := List.mem_map.1 hd
    exact p.awaited_of_empty hempty importer.tenant
  have hindexed : t.contents.Indexed := by
    rw [StoreContents.Indexed, hempty]
    exact Keyed.indexed_empty
  refine (Service.ensures_importAll_licensed (hportable.importMode hexported hmode) hindexed
    hlicensed (hportable.effectiveTier hexported) hcommits
    (MemoryStore.ensures_importEach_awaited hnames hids hawaits)).mono ?_
  rintro _ t' ⟨_, rfl, rfl, arrived, harrived, hvalues⟩
  rw [hempty] at hvalues
  obtain rfl : t'.contents.policies.values = arrived := hvalues
  rw [List.forall₂_map_left_iff] at harrived
  refine ⟨?_, harrived.imp fun _ _ => PolicyDraft.Describes.copiedFor⟩
  rw [ImportReport.ofOutcomes_created, List.length_map]

/-- Where the policies came from every draft is skipped. -/
theorem ensures_import_back (hs : s.contents.Indexed) (hportable : s.contents.Portable tenant)
    (hexported : exported.Perm (s.contents.ownedBy tenant)) (hlicensed : gate.enterprise)
    (hmode : ImportMode.ofText? (word.getD "") = some .skip) (hcommits : s.rejectsCommits = false) :
    Ensures ((PolicyCall.importAll ⟨exported.map Policy.asDraft, word⟩).serve gate ⟨tenant, actor⟩)
      s fun result s' => result = .ok ⟨0, 0, exported.length, []⟩ ∧ s' = s := by
  have hnamed : ∀ d ∈ exported.map Policy.asDraft, s.contents.named tenant d.name ≠ none := by
    intro d hd hfree
    obtain ⟨p, hp, rfl⟩ := List.mem_map.1 hd
    exact StoreContents.named_eq_none.1 hfree p (hexported.mem_iff.1 hp) rfl
  refine (Service.ensures_importAll_licensed (hportable.importMode hexported hmode) hs hlicensed
    (hportable.effectiveTier hexported) hcommits
    (MemoryStore.ensures_importEach_skipped hnamed)).mono ?_
  rintro _ _ ⟨_, rfl, rfl, rfl⟩
  refine ⟨?_, rfl⟩
  rw [ImportReport.ofOutcomes_skipped, List.length_map]

end Exported

/-- What is exported can be read as a request to import, and so can its text if the policies can be read
in one. With a licence the request, in whatever mode, fills an empty store with copies of the policies
for whoever imports them; in the mode that skips taken names it does nothing to the tenant and the store
from which they were exported. -/
theorem exports_import_back {s : MemoryStore} (hs : s.Reachable) {tenant : TenantId}
    (hportable : s.contents.Portable tenant) {gate : Gate} (hlicensed : gate.enterprise)
    (exporting : Gate) (exporter : String) (a : Ambient) :
    ∃ e r, ((PolicyCall.exportAll.serve exporting ⟨tenant, exporter⟩).run s a).1 = (.ok e, s) ∧
      e.policies.Perm (s.contents.ownedBy tenant) ∧ ImportRequest.ofJson e.toJson = .ok r ∧
      ((∀ p ∈ s.contents.ownedBy tenant, p.IsLegible) → ∀ interest,
        Json.readAs interest ImportRequest.ofJson e.toJson.render = .ok r) ∧
      r.mode = none ∧
      ∀ (word : Option String) (mode : ImportMode) (b : Ambient),
        ImportMode.ofText? (word.getD "") = some mode →
        (∀ (t : MemoryStore) (importer : Caller), t.contents.policies = .empty →
          t.rejectsCommits = false →
          ∃ t', (((PolicyCall.importAll { r with mode := word }).serve gate importer).run t b).1 =
              (.ok ⟨(s.contents.ownedBy tenant).length, 0, 0, []⟩, t') ∧
            List.Forall₂ (Policy.CopiedFor importer.tenant) e.policies
              t'.contents.policies.values) ∧
        (mode = .skip → s.rejectsCommits = false → ∀ actor : String,
          (((PolicyCall.importAll { r with mode := word }).serve gate ⟨tenant, actor⟩).run s b).1 =
            (.ok ⟨0, 0, (s.contents.ownedBy tenant).length, []⟩, s)) := by
  have hfew : (s.contents.ownedBy tenant).length < UInt32.size :=
    Nat.lt_of_le_of_lt hportable.few (by decide)
  have hexported := Listing.perm_pageOf_everything hfew
  have hcanonical : ∀ p ∈ (Listing.everything.pageOf (s.contents.ownedBy tenant)).items,
      p.IsCanonical := fun p hp => hportable.canonical p (hexported.mem_iff.1 hp)
  have hread (time : Instant) := ImportRequest.ofJson_toJson (e := ⟨_, time, tenant⟩) hcanonical
  refine ⟨⟨_, _, tenant⟩, _, rfl, hexported, hread _, fun hlegible interest => ?_, rfl, ?_⟩
  · exact Json.readAs_render interest
      (PolicyExport.readable fun p hp => hlegible p (hexported.mem_iff.1 hp)) (hread _)
  intro word mode b hmode
  rw [← hexported.length_eq]
  constructor
  · intro t importer hempty hcommits
    obtain ⟨hreport, hcopies⟩ := ensures_import_into_empty hs.indexed hportable hexported hlicensed
      hmode hempty hcommits b
    exact ⟨_, Prod.ext hreport rfl, hcopies⟩
  · rintro rfl hcommits actor
    obtain ⟨hreport, hsame⟩ :=
      ensures_import_back hs.indexed hportable hexported hlicensed hmode hcommits b
    exact Prod.ext hreport hsame

/-! ### Two policies on their way -/

/-- A policy that makes use of everything that a draft can say. -/
def retentionRule : Policy where
  id := ⟨"retention"⟩
  tenant := ⟨"acme"⟩
  name := "keep ledgers"
  description := "Ledgers are kept for ten years"
  kind := .cost
  tier := .organization
  priority := 900
  enabled := false
  conditions := [⟨"user.role", "in", .array [.string "auditor", .string "clerk"]⟩,
    ⟨"context.balance", "not_equals", .number (.integer (-2015))⟩]
  actions := [⟨"log", []⟩,
    ⟨"alert", [("channel", .string "ledgers"), ("urgent", .array [.bool true, .null])]⟩]
  category := some "retention"
  tags := ["ledger", "tax"]
  version := 7
  createdAt := ⟨1500000000, 0⟩
  updatedAt := ⟨1600000000, 123456789⟩
  createdBy := "alice"
  updatedBy := "bob"

def ledgerStore : MemoryStore := acmeStore.seed retentionRule

theorem ledgerStore_portable : ledgerStore.contents.Portable ⟨"acme"⟩ where
  nonempty := List.cons_ne_nil acmeRule [retentionRule]
  few := by decide
  valid := List.forall_mem_cons.2 ⟨by constructor <;> rfl,
    List.forall_mem_singleton.2 (by constructor <;> rfl)⟩
  names := by decide
  mutable := List.forall_mem_cons.2 ⟨rfl, List.forall_mem_singleton.2 rfl⟩
  canonical := List.forall_mem_cons.2 ⟨⟨List.forall_mem_singleton.2 rfl, List.forall_mem_singleton.2 rfl⟩,
    List.forall_mem_singleton.2 ⟨List.forall_mem_cons.2 ⟨rfl, List.forall_mem_singleton.2 rfl⟩,
      List.forall_mem_cons.2 ⟨rfl, List.forall_mem_singleton.2 rfl⟩⟩⟩

theorem acmeRule_legible : acmeRule.IsLegible where
  conditions := List.forall_mem_singleton.2 (.string _)
  actions := List.forall_mem_singleton.2 (List.forall_mem_nil _)

theorem retentionRule_legible : retentionRule.IsLegible where
  conditions := List.forall_mem_cons.2
    ⟨.array (List.forall_mem_cons.2 ⟨.string _, List.forall_mem_singleton.2 (.string _)⟩),
      List.forall_mem_singleton.2 (.number (Json.readsBack_integer (by decide)))⟩
  actions := List.forall_mem_cons.2 ⟨List.forall_mem_nil _, List.forall_mem_singleton.2
    (List.forall_mem_cons.2 ⟨.string _, List.forall_mem_singleton.2
      (.array (List.forall_mem_cons.2 ⟨.bool _, List.forall_mem_singleton.2 .null⟩))⟩)⟩

/-- Both policies are taken along to another tenant, and they come back to their own. -/
theorem ledger_taken_along :
    ledgerStore.contents.Portable ⟨"acme"⟩ ∧
    (∀ p ∈ ledgerStore.contents.ownedBy ⟨"acme"⟩, p.IsLegible) ∧
    ∃ e r, ((PolicyCall.exportAll.serve ⟨false, 1⟩ alice).run ledgerStore .initial).1 =
        (.ok e, ledgerStore) ∧ e.policies.Perm [acmeRule, retentionRule] ∧
      Json.readAs .everything ImportRequest.ofJson e.toJson.render = .ok r ∧
      (∃ t, (((PolicyCall.importAll r).serve ⟨true, 0⟩ ⟨⟨"globex"⟩, "mallory"⟩).run .empty
          otherAmbient).1 = (.ok ⟨2, 0, 0, []⟩, t) ∧
        List.Forall₂ (Policy.CopiedFor ⟨"globex"⟩) e.policies t.contents.policies.values) ∧
      (((PolicyCall.importAll r).serve ⟨true, 0⟩ alice).run ledgerStore otherAmbient).1 =
        (.ok ⟨0, 0, 2, []⟩, ledgerStore) := by
  have hlegible : ∀ p ∈ ledgerStore.contents.ownedBy ⟨"acme"⟩, p.IsLegible :=
    List.forall_mem_cons.2 ⟨acmeRule_legible, List.forall_mem_singleton.2 retentionRule_legible⟩
  have hreachable : ledgerStore.Reachable :=
    (MemoryStore.Reachable.empty.seed acmeRule).seed retentionRule
  obtain ⟨e, r, hexport, hpolicies, -, hread, hmode, himports⟩ :=
    exports_import_back hreachable ledgerStore_portable
      (rfl : (⟨true, 0⟩ : Gate).enterprise = true) ⟨false, 1⟩ "alice" .initial
  obtain ⟨hempty, hback⟩ := himports none .skip otherAmbient rfl
  obtain ⟨t, hfilled, hcopies⟩ := hempty .empty ⟨⟨"globex"⟩, "mallory"⟩ rfl rfl
  obtain ⟨policies, mode⟩ := r
  obtain rfl : mode = none := hmode
  exact ⟨ledgerStore_portable, hlegible, e, _, hexport, hpolicies, hread hlegible .everything,
    ⟨t, hfilled, hcopies⟩, hback rfl rfl "alice"⟩

end Governance
