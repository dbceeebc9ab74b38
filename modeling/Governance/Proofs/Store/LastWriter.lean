import Governance.Proofs.Store.Identity
import Governance.Proofs.Store.Imports
import Governance.Proofs.Store.Transaction

/-!
# Drafts of the same name

Where names of a tenant are distinct, an import that overwrites lets the last draft of a name win. The
first one may bring the policy in, those behind it overwrite it one version at a time, and drafts that
fail in between leave everything as it is. `PolicyDraft.Writes.mem_iff` says what one draft does to the
policies there are; what a whole import does, for all names at once, is `Rewritten`.
-/

namespace Governance

open Acting (Ensures)

variable {tenant : TenantId} {actor : String} {now : Instant} {d : PolicyDraft} {p old : Policy}

/-! ### What a policy shows of a draft -/

/-- A policy shows all that a draft says. -/
structure PolicyDraft.ShownBy (d : PolicyDraft) (p : Policy) : Prop where
  name : p.name = d.name
  description : p.description = d.description
  kind : PolicyKind.ofWord? d.kind = some p.kind
  conditions : p.conditions = d.conditions
  actions : p.actions = d.actions
  priority : p.priority = d.priority
  enabled : p.enabled = d.enabled
  category : p.category = d.category
  tags : p.tags = d.tags

theorem PolicyDraft.Describes.shown (hp : d.Describes tenant actor p) : d.ShownBy p := by
  obtain ⟨fresh, now, hp⟩ := hp
  obtain ⟨kind, hkind, rfl⟩ := eq_of_toPolicy hp
  exact ⟨rfl, rfl, hkind, rfl, rfl, rfl, rfl, rfl, rfl⟩

theorem PolicyDraft.shown_overwrite (old : Policy) (hkind : (PolicyKind.ofWord? d.kind).isSome) :
    d.ShownBy (old.overwrite d actor now) := by
  obtain ⟨kind, hkind⟩ := Option.isSome_iff_exists.1 hkind
  have hsame : (old.overwrite d actor now).kind = kind := by
    rw [Policy.overwrite, hkind]
    rfl
  exact ⟨rfl, rfl, hsame ▸ hkind, rfl, rfl, rfl, rfl, rfl, rfl⟩

/-- A policy that was written so many times, over the one that was there before if there was one. -/
def Policy.WrittenOver (p : Policy) (times : Nat) : Option Policy → Prop
  | some old =>
    old.isSystem = false ∧ old.SameOrigin p ∧ p.version = old.version + Int32.ofNat times
  | none => p.version = Int32.ofNat times

theorem Policy.WrittenOver.trans {before : Option Policy} {q : Policy} {n : Nat}
    (hfirst : p.WrittenOver 1 before) (hlater : q.WrittenOver n (some p)) :
    q.WrittenOver (n + 1) before := by
  obtain ⟨_, horigin, hversion⟩ := hlater
  cases before with
  | none =>
    have hone : p.version = Int32.ofNat 1 := hfirst
    change q.version = Int32.ofNat (n + 1)
    rw [hversion, hone, Nat.add_comm n 1, Int32.ofNat_add]
  | some old =>
    obtain ⟨hsystem, hsame, hone⟩ := hfirst
    refine ⟨hsystem, hsame.trans horigin, ?_⟩
    rw [hversion, hone, Nat.add_comm n 1, Int32.ofNat_add, Int32.add_assoc]

/-! ### One draft -/

namespace StoreContents

variable {s s' : StoreContents} {name : String}

/-- No two policies of a tenant have the same name. -/
def NamesDistinct (s : StoreContents) (tenant : TenantId) : Prop :=
  ∀ p ∈ s.ownedBy tenant, ∀ q ∈ s.ownedBy tenant, p.name = q.name → p = q

theorem NamesDistinct.named_eq_some (hnames : s.NamesDistinct tenant) :
    s.named tenant name = some p ↔ p ∈ s.policies.values ∧ p.tenant = tenant ∧ p.name = name := by
  rw [← and_assoc, ← mem_ownedBy]
  constructor
  · exact of_named
  · rintro ⟨hp, hname⟩
    cases hnamed : s.named tenant name with
    | none => exact absurd hname (named_eq_none.1 hnamed p hp)
    | some q =>
      obtain ⟨hq, hsame⟩ := of_named hnamed
      rw [hnames q hq p hp (hsame.trans hname.symm)]

end StoreContents

/-- A policy that an import keeps for a draft: a new one if the name and its identifier are free, or else
the one of that name, overwritten. -/
inductive PolicyDraft.Writes (d : PolicyDraft) (tenant : TenantId) (actor : String)
    (s : StoreContents) : Policy → Prop
  | fresh {p : Policy} (hnamed : s.named tenant d.name = none)
      (hfree : s.policies.get? p.id = none) (hp : d.Describes tenant actor p) :
      Writes d tenant actor s p
  | anew {old : Policy} (hnamed : s.named tenant d.name = some old) (hsystem : old.isSystem = false)
      (now : Instant) : Writes d tenant actor s (old.overwrite d actor now)

namespace PolicyDraft.Writes

variable {s : StoreContents}

theorem tenant_name (hp : d.Writes tenant actor s p) : p.tenant = tenant ∧ p.name = d.name := by
  cases hp with
  | fresh _ _ hp => exact ⟨hp.tenant_eq, hp.name_eq⟩
  | anew hnamed =>
    exact ⟨(StoreContents.mem_ownedBy.1 (StoreContents.of_named hnamed).1).2, rfl⟩

theorem shown (hp : d.Writes tenant actor s p) (hkind : (PolicyKind.ofWord? d.kind).isSome) :
    d.ShownBy p := by
  cases hp with
  | fresh _ _ hp => exact hp.shown
  | anew => exact shown_overwrite _ hkind

theorem writtenOver (hp : d.Writes tenant actor s p) : p.WrittenOver 1 (s.named tenant d.name) := by
  cases hp with
  | fresh hnamed _ hp =>
    rw [hnamed]
    exact hp.version_eq
  | anew hnamed hsystem =>
    rw [hnamed]
    exact ⟨hsystem, ⟨rfl, rfl, rfl, rfl, rfl⟩, rfl⟩

/-- The policy takes the place of the one that had its name, and all others stay. -/
theorem mem_iff (hp : d.Writes tenant actor s p) (hs : s.Indexed) (hnames : s.NamesDistinct tenant)
    (q : Policy) : q ∈ (s.keep p).policies.values ↔
      q = p ∨ q ∈ s.policies.values ∧ ¬ (q.tenant = tenant ∧ q.name = d.name) := by
  have hkept : q ∈ (s.keep p).policies.values ↔ q = p ∨ q ∈ s.policies.values ∧ q.id ≠ p.id :=
    hs.mem_values_put
  rw [hkept]
  refine or_congr_right (and_congr_right fun hq => ?_)
  cases hp with
  | fresh hnamed hfree =>
    refine iff_of_true (fun hid => ?_) fun hsame => ?_
    · rw [← hid, hs.mem_values.1 hq] at hfree
      cases hfree
    · exact StoreContents.named_eq_none.1 hnamed q (StoreContents.mem_ownedBy.2 ⟨hq, hsame.1⟩) hsame.2
  | @anew old hnamed =>
    obtain ⟨hold, htenant, hname⟩ := hnames.named_eq_some.1 hnamed
    refine not_congr ⟨fun hid => ?_, fun hsame => ?_⟩
    · have hsame : q = old := by
        have hget := hs.mem_values.1 hold
        rw [← show q.id = old.id from hid, hs.mem_values.1 hq] at hget
        exact Option.some.inj hget
      exact hsame ▸ ⟨htenant, hname⟩
    · have hnamed' := hnames.named_eq_some.2 ⟨hq, hsame⟩
      rw [hnamed] at hnamed'
      exact (congrArg Policy.id (Option.some.inj hnamed')).symm

theorem distinct (hp : d.Writes tenant actor s p) (hs : s.Indexed)
    (hnames : s.NamesDistinct tenant) : (s.keep p).NamesDistinct tenant := by
  obtain ⟨htenant, hname⟩ := hp.tenant_name
  intro q hq r hr hsame
  rw [StoreContents.mem_ownedBy, hp.mem_iff hs hnames] at hq hr
  obtain ⟨rfl | ⟨hq, hqother⟩, hqtenant⟩ := hq
  · obtain ⟨rfl | ⟨_, hrother⟩, hrtenant⟩ := hr
    · rfl
    · exact absurd ⟨hrtenant, hsame.symm.trans hname⟩ hrother
  · obtain ⟨rfl | ⟨hr, _⟩, hrtenant⟩ := hr
    · exact absurd ⟨hqtenant, hsame.trans hname⟩ hqother
    · exact hnames q (StoreContents.mem_ownedBy.2 ⟨hq, hqtenant⟩) r
        (StoreContents.mem_ownedBy.2 ⟨hr, hrtenant⟩) hsame

theorem named_eq (hp : d.Writes tenant actor s p) (hs : s.Indexed)
    (hnames : s.NamesDistinct tenant) (name : String) :
    (s.keep p).named tenant name = if d.name = name then some p else s.named tenant name := by
  obtain ⟨htenant, hname⟩ := hp.tenant_name
  ext q
  rw [(hp.distinct hs hnames).named_eq_some, hp.mem_iff hs hnames]
  split
  · rename_i hsame
    constructor
    · rintro ⟨rfl | ⟨_, hother⟩, hq⟩
      · rfl
      · exact absurd ⟨hq.1, hq.2.trans hsame.symm⟩ hother
    · intro hq
      obtain rfl := Option.some.inj hq
      exact ⟨.inl rfl, htenant, hname.trans hsame⟩
  · rename_i hother
    rw [hnames.named_eq_some]
    constructor
    · rintro ⟨rfl | ⟨hq, _⟩, hsame⟩
      · exact absurd (hname.symm.trans hsame.2) hother
      · exact ⟨hq, hsame⟩
    · rintro ⟨hq, hsame⟩
      exact ⟨.inr ⟨hq, fun h => hother (h.2.symm.trans hsame.2)⟩, hsame⟩

end PolicyDraft.Writes

/-! ### All drafts -/

/-- The drafts of a name, in their order. -/
def draftsNamed (name : String) (drafts : List PolicyDraft) : List PolicyDraft :=
  drafts.filter fun d => d.name = name

theorem draftsNamed_eq_nil {name : String} {drafts : List PolicyDraft} :
    draftsNamed name drafts = [] ↔ ∀ d ∈ drafts, d.name ≠ name := by
  simp [draftsNamed]

theorem draftsNamed_cons_self (d : PolicyDraft) (drafts : List PolicyDraft) :
    draftsNamed d.name (d :: drafts) = d :: draftsNamed d.name drafts :=
  List.filter_cons_of_pos (by simp)

theorem draftsNamed_cons_of_ne {name : String} (hother : d.name ≠ name) (drafts : List PolicyDraft) :
    draftsNamed name (d :: drafts) = draftsNamed name drafts :=
  List.filter_cons_of_neg (by simpa using hother)

/-- What is left of a store after drafts were written for a tenant: names are still distinct, every
policy that has not the name of a draft is there as it was, and no other one has come in, and under each
name the last draft shows, written over what was there before as often as there are drafts. -/
structure Rewritten (tenant : TenantId) (s : StoreContents) (written : List PolicyDraft)
    (s' : StoreContents) : Prop where
  distinct : s'.NamesDistinct tenant
  others : ∀ p, (p.tenant = tenant → ∀ d ∈ written, d.name ≠ p.name) →
    (p ∈ s'.policies.values ↔ p ∈ s.policies.values)
  last : ∀ name d, (draftsNamed name written).getLast? = some d →
    ∃ p, s'.named tenant name = some p ∧ d.ShownBy p ∧
      p.WrittenOver (draftsNamed name written).length (s.named tenant name)

namespace Rewritten

open StoreContents

variable {s t s' : StoreContents} {written : List PolicyDraft}

theorem nil (hnames : s.NamesDistinct tenant) : Rewritten tenant s [] s :=
  ⟨hnames, fun _ _ => Iff.rfl, nofun⟩

/-- Under the name of the draft that is written first, the last one shows: the first itself, if the name does
not come again. -/
theorem last_cons (hp : d.Writes tenant actor s p) (hkind : (PolicyKind.ofWord? d.kind).isSome)
    (hs : s.Indexed) (hnames : s.NamesDistinct tenant)
    (hrest : Rewritten tenant (s.keep p) written s') {last : PolicyDraft}
    (hlast : (draftsNamed d.name (d :: written)).getLast? = some last) :
    ∃ q, s'.named tenant d.name = some q ∧ last.ShownBy q ∧
      q.WrittenOver (draftsNamed d.name (d :: written)).length (s.named tenant d.name) := by
  obtain ⟨htenant, hname⟩ := hp.tenant_name
  rw [draftsNamed_cons_self] at hlast ⊢
  cases hlater : (draftsNamed d.name written).getLast? with
  | none =>
    have hnone := List.getLast?_eq_none_iff.1 hlater
    rw [hnone] at hlast ⊢
    obtain rfl := Option.some.inj hlast
    refine ⟨p, ?_, hp.shown hkind, hp.writtenOver⟩
    rw [hrest.distinct.named_eq_some, hrest.others p fun _ => hname ▸ draftsNamed_eq_nil.1 hnone]
    exact ⟨(hp.mem_iff hs hnames p).2 (.inl rfl), htenant, hname⟩
  | some later =>
    obtain ⟨q, hq, hshown, hover⟩ := hrest.last d.name later hlater
    rw [hp.named_eq hs hnames, if_pos rfl] at hover
    rw [List.getLast?_cons, hlater] at hlast
    obtain rfl : later = last := Option.some.inj hlast
    exact ⟨q, hq, hshown, hp.writtenOver.trans hover⟩

theorem cons (hp : d.Writes tenant actor s p) (hkind : (PolicyKind.ofWord? d.kind).isSome)
    (hs : s.Indexed) (hnames : s.NamesDistinct tenant)
    (hrest : Rewritten tenant (s.keep p) written s') : Rewritten tenant s (d :: written) s' := by
  obtain ⟨htenant, hname⟩ := hp.tenant_name
  refine ⟨hrest.distinct, fun q hq => ?_, fun name last hlast => ?_⟩
  · rw [hrest.others q fun h => (List.forall_mem_cons.1 (hq h)).2, hp.mem_iff hs hnames]
    constructor
    · rintro (rfl | h)
      · exact absurd hname.symm (hq htenant d List.mem_cons_self)
      · exact h.1
    · exact fun h => .inr ⟨h, fun hsame => hq hsame.1 d List.mem_cons_self hsame.2.symm⟩
  · by_cases hsame : d.name = name
    · subst hsame
      exact last_cons hp hkind hs hnames hrest hlast
    · rw [draftsNamed_cons_of_ne hsame] at hlast ⊢
      obtain ⟨q, hq, hshown, hover⟩ := hrest.last name last hlast
      rw [hp.named_eq hs hnames, if_neg hsame] at hover
      exact ⟨q, hq, hshown, hover⟩

end Rewritten

namespace MemoryStore

variable {s : MemoryStore} {drafts : List PolicyDraft}

theorem ensures_replace_writes (hs : s.contents.Indexed)
    (hnamed : s.contents.named tenant d.name = some old) :
    Ensures (replace old d actor) s fun outcome s' =>
      if outcome.isFailed then s' = s else ∃ p, d.Writes tenant actor s.contents p ∧
        s'.contents.policies = (s.contents.keep p).policies := by
  have hget := (StoreContents.owned_eq_some.1
    (hs.mem_ownedBy.1 (StoreContents.of_named hnamed).1)).1
  refine .get_bind ?_
  simp only [hget]
  split
  · exact .pure rfl
  · rename_i hsystem
    refine .lift_bind fun now => .bind fun _ => ?_
    refine .bind ((ensures_record_policies _ _ _ _).mono fun _ s' hpolicies => ?_)
    exact .pure ⟨_, .anew hnamed (Bool.eq_false_iff.2 hsystem) now, hpolicies⟩

/-- A draft that does not fail is written, and one that fails leaves the store as it is. -/
theorem ensures_importOne_writes (hs : s.contents.Indexed) :
    Ensures (importOne tenant .overwrite actor d) s fun outcome s' =>
      if outcome.isFailed then s' = s else ∃ p, d.Writes tenant actor s.contents p ∧
        s'.contents.policies = (s.contents.keep p).policies := by
  refine .get_bind ?_
  cases hnamed : s.contents.named tenant d.name with
  | some old => exact ensures_replace_writes hs hnamed
  | none =>
    refine .bind (ensures_insert.mono ?_)
    rintro (e | p) s' hinsert
    · exact .pure hinsert
    · obtain ⟨hfree, hdescribes, rfl⟩ := hinsert
      refine .bind ((ensures_record_policies _ _ _ _).mono fun _ s' hpolicies => ?_)
      exact .pure ⟨p, .fresh hnamed hfree hdescribes, hpolicies⟩

theorem ensures_importEach_rewritten (hs : s.contents.Indexed)
    (hnames : s.contents.NamesDistinct tenant)
    (hkinds : ∀ d ∈ drafts, (PolicyKind.ofWord? d.kind).isSome) :
    Ensures (importEach tenant .overwrite actor drafts) s fun outcomes s' =>
      Rewritten tenant s.contents (survivors drafts outcomes) s'.contents := by
  induction drafts generalizing s with
  | nil => exact .pure (.nil hnames)
  | cons d rest ih =>
    obtain ⟨hkind, hkinds⟩ := List.forall_mem_cons.1 hkinds
    refine .bind ((ensures_importOne_writes hs).mono fun outcome t ht => ?_)
    by_cases hfailed : outcome.isFailed
    · rw [if_pos hfailed] at ht
      subst ht
      refine .bind ((ih hs hnames hkinds).mono fun outcomes s' hrest => .pure ?_)
      rw [survivors, if_pos hfailed]
      exact hrest
    · rw [if_neg hfailed] at ht
      obtain ⟨p, hp, hpolicies⟩ := ht
      -- Names and policies are the same whatever was recorded.
      obtain ⟨⟨policies, histories⟩, loses, rejects⟩ := t
      obtain rfl : policies = (s.contents.keep p).policies := hpolicies
      refine .bind ((ih (hs.put rfl) (hp.distinct hs hnames) hkinds).mono ?_)
      intro outcomes s' hrest
      refine .pure ?_
      rw [survivors, if_neg hfailed]
      exact .cons hp hkind hs hnames ⟨hrest.distinct, hrest.others, hrest.last⟩

/-- In an import that overwrites and is committed, the last draft of a name that did not fail wins, and
the version of its policy counts all those that did not. -/
theorem overwriting_import_lets_last_draft_win (hs : s.Reachable) {tenant : TenantId}
    (hnames : s.contents.NamesDistinct tenant) (hcommits : s.rejectsCommits = false)
    (actor : String) (hkinds : ∀ d ∈ drafts, (PolicyKind.ofWord? d.kind).isSome) (a : Ambient) :
    let outcomes := s.importOutcomes a tenant .overwrite actor drafts
    outcomes.length = drafts.length ∧
    ∃ s', ((importAll tenant drafts .overwrite actor).run s a).1 = (.ok (.ofOutcomes outcomes), s') ∧
      Rewritten tenant s.contents (survivors drafts outcomes) s'.contents := by
  intro outcomes
  refine ⟨length_importOutcomes s a drafts, _, ?_, ensures_importEach_rewritten hs.indexed hnames hkinds a⟩
  rw [importAll_run, if_neg (by simp [hcommits])]

/-- Of these drafts the third asks for an identifier that is taken; the others have two names. -/
def repeatedDrafts : List PolicyDraft :=
  [{ PolicyDraft.named "no secrets" .content with priority := 7 },
    PolicyDraft.named "no passwords" .content,
    { PolicyDraft.named "no names" .content with id := some ⟨"p1"⟩ },
    { PolicyDraft.named "no passwords" .user with priority := 9 },
    { PolicyDraft.named "no secrets" .content with enabled := false }]

theorem repeatedDrafts_imported :
    ∃ s', ((importAll ⟨"acme"⟩ repeatedDrafts .overwrite "bob").run startedStore laterAmbient).1 =
        (.ok ⟨1, 3, 0, ["Error creating policy no names: " ++
          "policy database error: policy id p1 already exists"]⟩, s') ∧
      (∃ p, s'.contents.named ⟨"acme"⟩ "no secrets" = some p ∧ p.id = ⟨"p1"⟩ ∧ p.version = 3 ∧
        p.createdBy = "alice" ∧ p.enabled = false ∧ p.priority = 0) ∧
      (∃ p, s'.contents.named ⟨"acme"⟩ "no passwords" = some p ∧ p.version = 2 ∧
        p.kind = .user ∧ p.priority = 9) := by
  have hs : startedStore.Reachable := Reachable.empty.answer _ _
  have hnames : startedStore.contents.NamesDistinct ⟨"acme"⟩ := by
    obtain ⟨p, howned⟩ : ∃ p, startedStore.contents.ownedBy ⟨"acme"⟩ = [p] := ⟨_, rfl⟩
    intro q hq r hr _
    rw [howned, List.mem_singleton] at hq hr
    rw [hq, hr]
  have hkinds : ∀ d ∈ repeatedDrafts, (PolicyKind.ofWord? d.kind).isSome := by decide
  obtain ⟨_, s', hrun, hwritten⟩ := overwriting_import_lets_last_draft_win hs hnames rfl "bob"
    hkinds laterAmbient
  have houtcomes : startedStore.importOutcomes laterAmbient ⟨"acme"⟩ .overwrite "bob"
      repeatedDrafts = [.updated "no secrets", .created "no passwords", .failed "no names"
        ("Error creating policy no names: " ++
          "policy database error: policy id p1 already exists"),
        .updated "no passwords", .updated "no secrets"] := by decide +kernel
  rw [houtcomes] at hrun hwritten
  obtain ⟨p, hp, hshown, hover⟩ := hwritten.last "no secrets" repeatedDrafts[4] (by rfl)
  obtain ⟨q, hq, hqshown, hqover⟩ := hwritten.last "no passwords" repeatedDrafts[3] (by rfl)
  obtain ⟨_, horigin, hversion⟩ := hover
  have hnew : q.version = Int32.ofNat 2 := hqover
  refine ⟨s', hrun, ⟨p, hp, horigin.id, hversion, horigin.createdBy, hshown.enabled,
    hshown.priority⟩, ⟨q, hq, hnew, ?_, hqshown.priority⟩⟩
  exact (Option.some.inj hqshown.kind).symm

end MemoryStore

end Governance
