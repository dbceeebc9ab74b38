import Governance.Proofs.Store.Edits
import Governance.Proofs.Time.Calendar

/-!
# What calls do, deed by deed

A call that changes policies does deeds: it creates a policy, patches, overwrites or deletes one.
A call for many drafts does a deed for every draft that neither fails nor is skipped, and all other
calls do one or none. A deed leaves a revision behind that shows the policy as it was left, or as it
last was when the deed was to delete it. `StoreCall.Does` says which deeds an answer stands for, and
`MemoryStore.Performs` what they make of policies, histories and the clock. That every call performs
what its answer says is `yields_answer`; whatever is said of histories follows from it.
-/

namespace Governance

open Acting (Yields)

/-- A revision tells of a change of a policy. -/
structure Revision.Tells (r : Revision) (p : Policy) (change : ChangeKind) : Prop where
  policy : r.policy = p.id
  version : r.version = p.version
  snapshot : r.snapshot = p
  change : r.change = change

/-- What is done to a policy, and the revision that tells of it. -/
inductive Deed where
  | create (r : Revision)
  | patch (old : Policy) (r : Revision)
  | overwrite (old : Policy) (r : Revision)
  | delete (r : Revision)

namespace Deed

def revision : Deed → Revision
  | .create r | .patch _ r | .overwrite _ r | .delete r => r

def subject (d : Deed) : PolicyId := d.revision.snapshot.id

/-- The policy that is left under the identifier. -/
def left : Deed → Option Policy
  | .create r | .patch _ r | .overwrite _ r => some r.snapshot
  | .delete _ => none

def change : Deed → ChangeKind
  | .create _ => .create
  | .patch old r => .ofTransition old.enabled r.snapshot.enabled
  | .overwrite _ _ => .update
  | .delete _ => .delete

/-- A deed can be done to what there is under its identifier. -/
def Follows (before : Option Policy) : Deed → Prop
  | .create r => before = none ∧ r.snapshot.version = 1
  | .patch old r | .overwrite old r =>
    before = some old ∧ r.snapshot.Succeeds old ∧ r.snapshot.version = old.version + 1
  | .delete r => before = some r.snapshot

def apply (policies : Keyed PolicyId Policy) (d : Deed) : Keyed PolicyId Policy :=
  match d.left with
  | some p => policies.put d.subject p
  | none => policies.erase d.subject

def applyAll (policies : Keyed PolicyId Policy) (deeds : List Deed) : Keyed PolicyId Policy :=
  deeds.foldl apply policies

/-- Deeds that can be done one after the other, of which the revisions tell. -/
def Succession (policies : Keyed PolicyId Policy) : List Deed → Prop
  | [] => True
  | d :: rest =>
      d.Follows (policies.get? d.subject) ∧ d.revision.Tells d.revision.snapshot d.change ∧
        Succession (d.apply policies) rest

variable {policies : Keyed PolicyId Policy} {d : Deed} {deeds more : List Deed}

theorem snapshot_eq_of_left {p : Policy} (hleft : d.left = some p) : d.revision.snapshot = p := by
  cases d with
  | delete r => cases hleft
  | _ => exact Option.some.inj hleft

theorem get?_apply (policies : Keyed PolicyId Policy) (d : Deed) (id : PolicyId) :
    (d.apply policies).get? id = if d.subject = id then d.left else policies.get? id := by
  rw [apply]
  split
  · rename_i p hleft
    rw [Keyed.get?_put, hleft]
  · rename_i hleft
    rw [Keyed.get?_erase, hleft]

theorem indexed_apply (hpolicies : policies.Indexed Policy.id) (d : Deed) :
    (d.apply policies).Indexed Policy.id := by
  cases d with
  | delete r => exact hpolicies.erase
  | _ => exact hpolicies.put rfl

theorem indexed_applyAll (hpolicies : policies.Indexed Policy.id) (deeds : List Deed) :
    (applyAll policies deeds).Indexed Policy.id := by
  induction deeds generalizing policies with
  | nil => exact hpolicies
  | cons d rest ih => exact ih (indexed_apply hpolicies d)

theorem applyAll_append (policies : Keyed PolicyId Policy) (deeds more : List Deed) :
    applyAll policies (deeds ++ more) = applyAll (applyAll policies deeds) more :=
  List.foldl_append

theorem Succession.append (hdeeds : Succession policies deeds)
    (hmore : Succession (applyAll policies deeds) more) : Succession policies (deeds ++ more) := by
  induction deeds generalizing policies with
  | nil => exact hmore
  | cons d rest ih =>
    obtain ⟨hfollows, htells, hrest⟩ := hdeeds
    exact ⟨hfollows, htells, ih hrest hmore⟩

end Deed

/-- Revisions that were recorded one after the other while the clock went from one instant to
another. -/
structure Dated (start : Instant) (revisions : List Revision) (finish : Instant) : Prop where
  order : start.le finish
  within : ∀ r ∈ revisions, start.le r.changedAt ∧ r.changedAt.lt finish
  increasing : revisions.Pairwise fun r r' => r.changedAt.lt r'.changedAt

namespace Dated

variable {start mid finish : Instant} {revisions more : List Revision}

theorem nil (horder : start.le finish) : Dated start [] finish :=
  ⟨horder, fun _ hr => absurd hr List.not_mem_nil, .nil⟩

theorem append (hfirst : Dated start revisions mid) (hsecond : Dated mid more finish) :
    Dated start (revisions ++ more) finish := by
  refine ⟨Instant.le_trans hfirst.order hsecond.order, ?_, ?_⟩
  · intro r hr
    rcases List.mem_append.1 hr with hr | hr
    · obtain ⟨hstart, hmid⟩ := hfirst.within r hr
      exact ⟨hstart, Instant.lt_of_lt_of_le hmid hsecond.order⟩
    · obtain ⟨hmid, hfinish⟩ := hsecond.within r hr
      exact ⟨Instant.le_trans hfirst.order hmid, hfinish⟩
  · refine List.pairwise_append.2 ⟨hfirst.increasing, hsecond.increasing, ?_⟩
    intro r hr r' hr'
    exact Instant.lt_of_lt_of_le (hfirst.within r hr).2 (hsecond.within r' hr').1

end Dated

theorem Dated.of_le {start mid finish : Instant} {revisions : List Revision} (hle : start.le mid)
    (h : Dated mid revisions finish) : Dated start revisions finish :=
  ⟨Instant.le_trans hle h.order, fun r hr => ⟨Instant.le_trans hle (h.within r hr).1,
    (h.within r hr).2⟩, h.increasing⟩

theorem PolicyDraft.Describes.version_eq {d : PolicyDraft} {tenant : TenantId} {actor : String}
    {p : Policy} (hp : d.Describes tenant actor p) : p.version = 1 := by
  obtain ⟨fresh, now, hp⟩ := hp
  obtain ⟨_, _, rfl⟩ := eq_of_toPolicy hp
  rfl

namespace MemoryStore

/-- The revisions that are kept of those that are recorded. -/
def written (s : MemoryStore) (revisions : List Revision) : List Revision :=
  if s.losesRevisions then [] else revisions

theorem written_append (s : MemoryStore) (revisions more : List Revision) :
    s.written (revisions ++ more) = s.written revisions ++ s.written more := by
  unfold written
  split <;> rfl

/-- Revisions were recorded, and nothing else was done to histories or faults. -/
structure Records (s : MemoryStore) (a : Ambient) (revisions : List Revision) (s' : MemoryStore)
    (a' : Ambient) : Prop where
  histories : ∀ id, s'.contents.history id =
    s.contents.history id ++ (s.written revisions).filter fun r => r.policy = id
  dated : Dated a.clock (s.written revisions) a'.clock
  losesRevisions : s'.losesRevisions = s.losesRevisions
  rejectsCommits : s'.rejectsCommits = s.rejectsCommits

/-- Deeds were done, and nothing else. -/
structure Performs (s : MemoryStore) (a : Ambient) (deeds : List Deed) (s' : MemoryStore)
    (a' : Ambient) : Prop where
  succession : Deed.Succession s.contents.policies deeds
  policies : s'.contents.policies = Deed.applyAll s.contents.policies deeds
  records : s.Records a (deeds.map Deed.revision) s' a'

variable {s s' s'' : MemoryStore} {a a' a'' : Ambient}

theorem Records.nil (hclock : a.clock.le a'.clock) : s.Records a [] s a' := by
  have hwritten : s.written [] = [] := by
    unfold written
    split <;> rfl
  refine ⟨fun id => ?_, ?_, rfl, rfl⟩
  · rw [hwritten, List.filter_nil, List.append_nil]
  · rw [hwritten]
    exact .nil hclock

theorem Records.of_le {a₁ : Ambient} {revisions : List Revision} (hclock : a.clock.le a₁.clock)
    (hrecords : s.Records a₁ revisions s' a') : s.Records a revisions s' a' :=
  ⟨hrecords.histories, hrecords.dated.of_le hclock, hrecords.losesRevisions,
    hrecords.rejectsCommits⟩

theorem Records.of_clock_eq {revisions : List Revision} (hrecords : s.Records a revisions s' a')
    (hclock : a''.clock = a'.clock) : s.Records a revisions s' a'' :=
  ⟨hrecords.histories, hclock ▸ hrecords.dated, hrecords.losesRevisions, hrecords.rejectsCommits⟩

/-- Whether a policy has been put in place or not, the same was recorded. -/
theorem Records.of_keep {p : Policy} {revisions : List Revision}
    (hrecords : { s with contents := s.contents.keep p }.Records a revisions s' a') :
    s.Records a revisions s' a' :=
  ⟨hrecords.histories, hrecords.dated, hrecords.losesRevisions, hrecords.rejectsCommits⟩

theorem Records.append {revisions more : List Revision} (hfirst : s.Records a revisions s' a')
    (hsecond : s'.Records a' more s'' a'') : s.Records a (revisions ++ more) s'' a'' := by
  have hwritten : s'.written more = s.written more := by
    unfold written
    rw [hfirst.losesRevisions]
  refine ⟨fun id => ?_, ?_, hsecond.losesRevisions.trans hfirst.losesRevisions,
    hsecond.rejectsCommits.trans hfirst.rejectsCommits⟩
  · rw [hsecond.histories, hfirst.histories, hwritten, written_append, List.filter_append,
      List.append_assoc]
  · rw [written_append]
    exact hfirst.dated.append (hwritten ▸ hsecond.dated)

namespace Performs

variable {deeds more : List Deed} {d : Deed}

theorem nil (hclock : a.clock.le a'.clock) : s.Performs a [] s a' := ⟨trivial, rfl, .nil hclock⟩

theorem single (hfollows : d.Follows (s.contents.policies.get? d.subject))
    (htells : d.revision.Tells d.revision.snapshot d.change)
    (hpolicies : s'.contents.policies = d.apply s.contents.policies)
    (hrecords : s.Records a [d.revision] s' a') : s.Performs a [d] s' a' :=
  ⟨⟨hfollows, htells, trivial⟩, hpolicies, hrecords⟩

theorem append (hfirst : s.Performs a deeds s' a') (hsecond : s'.Performs a' more s'' a'') :
    s.Performs a (deeds ++ more) s'' a'' := by
  refine ⟨hfirst.succession.append (hfirst.policies ▸ hsecond.succession), ?_, ?_⟩
  · rw [hsecond.policies, hfirst.policies, Deed.applyAll_append]
  · rw [List.map_append]
    exact hfirst.records.append hsecond.records

theorem indexed (hperforms : s.Performs a deeds s' a') (hs : s.contents.Indexed) :
    s'.contents.Indexed := by
  have hindexed := Deed.indexed_applyAll hs deeds
  rwa [← hperforms.policies] at hindexed

end Performs

end MemoryStore

/-! ### Which deeds an answer stands for -/

/-- What an import does for a draft. -/
inductive PolicyDraft.Does (tenant : TenantId) (mode : ImportMode) (actor : String)
    (draft : PolicyDraft) : ImportOutcome → List Deed → Prop
  | created {r : Revision} (hdescribes : draft.Describes tenant actor r.snapshot) :
      Does tenant mode actor draft (.created draft.name) [.create r]
  | updated {old : Policy} {now : Instant} {r : Revision} (hmode : mode = .overwrite)
      (hold : old.tenant = tenant ∧ old.name = draft.name)
      (hnew : r.snapshot = old.overwrite draft actor now) :
      Does tenant mode actor draft (.updated draft.name) [.overwrite old r]
  | skipped : Does tenant mode actor draft (.skipped draft.name) []
  | failed (message : String) : Does tenant mode actor draft (.failed draft.name message) []

/-- What an import does for drafts in their order. -/
inductive PolicyDraft.AllDo (tenant : TenantId) (mode : ImportMode) (actor : String) :
    List PolicyDraft → List ImportOutcome → List Deed → Prop
  | nil : AllDo tenant mode actor [] [] []
  | cons {draft : PolicyDraft} {outcome : ImportOutcome} {deeds : List Deed}
      {rest : List PolicyDraft} {outcomes : List ImportOutcome} {more : List Deed}
      (hdraft : draft.Does tenant mode actor outcome deeds)
      (hrest : AllDo tenant mode actor rest outcomes more) :
      AllDo tenant mode actor (draft :: rest) (outcome :: outcomes) (deeds ++ more)

/-- The deeds that an answer stands for. Whatever was refused, not found, not committed or only looked
at stands for none, and so does a patch that is empty. -/
def StoreCall.Does : (c : StoreCall) → c.Answer → List Deed → Prop
  | .create tenant draft actor, .ok p, deeds =>
    draft.Describes tenant actor p ∧ ∃ r, r.snapshot = p ∧ deeds = [.create r]
  | .update tenant id patch actor, .ok (some p), deeds =>
    if patch.isEmpty then deeds = []
    else ∃ old now r, old.id = id ∧ old.tenant = tenant ∧ p = old.applyPatch patch actor now ∧
      r.snapshot = p ∧ deeds = [.patch old r]
  | .delete tenant id _, .ok true, deeds =>
    ∃ r, r.snapshot.id = id ∧ r.snapshot.tenant = tenant ∧ deeds = [.delete r]
  | .importAll tenant drafts mode actor, .ok report, deeds =>
    ∃ outcomes, report = .ofOutcomes outcomes ∧
      PolicyDraft.AllDo tenant mode actor drafts outcomes deeds
  | _, _, deeds => deeds = []

namespace MemoryStore

variable {s : MemoryStore} {a : Ambient} {tenant : TenantId} {actor : String} {draft : PolicyDraft}

theorem yields_record (p : Policy) (kind : ChangeKind) (summary : String) :
    Yields (record p kind summary actor) s a fun _ s' a' =>
      ∃ r : Revision, r.Tells p kind ∧ s'.contents.policies = s.contents.policies ∧
        s.Records a [r] s' a' := by
  refine .get_bind ?_
  split
  · rename_i hloses
    -- Nothing is written, so it does not matter when the revision would have been recorded.
    refine ⟨.capture ⟨0⟩ a.clock p kind summary actor, ⟨rfl, rfl, rfl, rfl⟩, rfl, ?_⟩
    have hwritten (revisions : List Revision) : s.written revisions = [] := if_pos hloses
    refine ⟨fun id => ?_, ?_, rfl, rfl⟩
    · rw [hwritten, List.filter_nil, List.append_nil]
      rfl
    · rw [hwritten]
      exact .nil (Instant.le_refl _)
  · rename_i hkeeps
    refine .uuid_bind fun a₁ hclock _ => .now_bind fun a' hlater _ => .modify ?_
    rw [hclock] at hlater ⊢
    refine ⟨.capture (.ofRandom a.draws) a.clock p kind summary actor, ⟨rfl, rfl, rfl, rfl⟩, rfl,
      fun id => ?_, ?_, rfl, rfl⟩
    · rw [written, if_neg hkeeps, List.filter_singleton]
      refine (StoreContents.history_append _ _ _).trans ?_
      by_cases hid : p.id = id
      · rw [if_pos hid, hid]
        simp [Revision.capture, hid]
      · simp [Revision.capture, hid]
    · rw [written, if_neg hkeeps]
      refine ⟨Instant.le_of_lt hlater, fun r hr => ?_, List.pairwise_singleton _ _⟩
      rw [List.mem_singleton.1 hr]
      exact ⟨Instant.le_refl _, hlater⟩

/-- Either nothing is done, or the policy that the draft describes comes in. -/
theorem yields_insert : Yields (insert tenant draft actor) s a fun answer s' a' =>
    a.clock.le a'.clock ∧ match answer with
    | .error _ => s' = s
    | .ok p => s.contents.policies.get? p.id = none ∧ draft.Describes tenant actor p ∧
        s' = { s with contents := s.contents.keep p } := by
  refine .identifier_bind fun a₁ hclock _ => .now_bind fun a' hlater _ => ?_
  rw [hclock] at hlater
  have hle := Instant.le_of_lt hlater
  split
  · exact ⟨hle, rfl⟩
  · rename_i p hp
    refine .get_bind ?_
    split
    · exact ⟨hle, rfl⟩
    · rename_i hfree
      exact ⟨hle, by simpa using hfree, ⟨_, _, hp⟩, rfl⟩

theorem Performs.of_insert {a₁ a' : Ambient} {s' : MemoryStore} {p : Policy} {r : Revision}
    (hclock : a.clock.le a₁.clock) (hfree : s.contents.policies.get? p.id = none)
    (hdescribes : draft.Describes tenant actor p) (htells : r.Tells p .create)
    (hpolicies : s'.contents.policies = s.contents.policies.put p.id p)
    (hrecords : { s with contents := s.contents.keep p }.Records a₁ [r] s' a') :
    s.Performs a [.create r] s' a' := by
  obtain rfl := htells.snapshot
  exact .single ⟨hfree, hdescribes.version_eq⟩ htells hpolicies (hrecords.of_keep.of_le hclock)

theorem yields_create : Yields (create tenant draft actor) s a fun answer s' a' =>
    ∃ deeds, (StoreCall.create tenant draft actor).Does answer deeds ∧
      s.Performs a deeds s' a' := by
  refine .bind (yields_insert.mono ?_)
  rintro (_ | p) s₁ a₁ ⟨hclock, hinsert⟩
  · subst hinsert
    exact ⟨[], rfl, .nil hclock⟩
  · obtain ⟨hfree, hdescribes, rfl⟩ := hinsert
    refine .bind ((yields_record p .create _).mono ?_)
    rintro _ s' a' ⟨r, htells, hpolicies, hrecords⟩
    refine .emit_bind fun a'' hsame _ => ⟨[.create r], ⟨hdescribes, r, htells.snapshot, rfl⟩, ?_⟩
    exact .of_insert hclock hfree hdescribes htells hpolicies (hrecords.of_clock_eq hsame)

theorem Performs.of_change {a₁ a' : Ambient} {s' : MemoryStore} {old new : Policy} {r : Revision}
    {d : Deed} (hd : d = .patch old r ∨ d = .overwrite old r) (hclock : a.clock.le a₁.clock)
    (hget : s.contents.policies.get? old.id = some old) (hnew : new.Succeeds old)
    (hversion : new.version = old.version + 1) (htells : r.Tells new d.change)
    (hpolicies : s'.contents.policies = s.contents.policies.put new.id new)
    (hrecords : { s with contents := s.contents.keep new }.Records a₁ [r] s' a') :
    s.Performs a [d] s' a' := by
  obtain rfl := htells.snapshot
  have hrecords := hrecords.of_keep.of_le hclock
  have hfound : s.contents.policies.get? r.snapshot.id = some old := hnew.id ▸ hget
  rcases hd with rfl | rfl
  · exact .single ⟨hfound, hnew, hversion⟩ htells hpolicies hrecords
  · exact .single ⟨hfound, hnew, hversion⟩ htells hpolicies hrecords

theorem yields_update {id : PolicyId} {patch : PolicyPatch} (hs : s.contents.Indexed) :
    Yields (update tenant id patch actor) s a fun answer s' a' =>
      ∃ deeds, (StoreCall.update tenant id patch actor).Does (.ok answer) deeds ∧
        s.Performs a deeds s' a' := by
  refine .get_bind ?_
  split
  · exact ⟨[], rfl, .nil (Instant.le_refl _)⟩
  · rename_i p howned
    split
    · rename_i hempty
      exact ⟨[], (if_pos hempty).mpr rfl, .nil (Instant.le_refl _)⟩
    · rename_i hpatch
      obtain rfl := hs.id_of_owned howned
      obtain ⟨hget, htenant⟩ := StoreContents.owned_eq_some.1 howned
      refine .now_bind fun a₁ hlater _ => .bind (.modify (.bind ((yields_record _ _ _).mono ?_)))
      rintro _ s' a' ⟨r, htells, hpolicies, hrecords⟩
      refine .emit_bind fun a'' hsame _ => ⟨[.patch p r], (if_neg hpatch).mpr ?_, ?_⟩
      · exact ⟨p, _, r, rfl, htenant, rfl, htells.snapshot, rfl⟩
      · refine .of_change (.inl rfl) (Instant.le_of_lt hlater) hget
          (p.succeeds_applyPatch patch actor a.clock) rfl ?_ hpolicies (hrecords.of_clock_eq hsame)
        rwa [Deed.change, htells.snapshot]

theorem yields_delete {id : PolicyId} (hs : s.contents.Indexed) :
    Yields (delete tenant id actor) s a fun answer s' a' =>
      ∃ deeds, (StoreCall.delete tenant id actor).Does (.ok answer) deeds ∧
        s.Performs a deeds s' a' := by
  refine .get_bind ?_
  split
  · exact ⟨[], rfl, .nil (Instant.le_refl _)⟩
  · rename_i p howned
    obtain rfl := hs.id_of_owned howned
    obtain ⟨hget, htenant⟩ := StoreContents.owned_eq_some.1 howned
    refine .bind ((yields_record _ _ _).mono ?_)
    rintro _ s₁ a₁ ⟨r, htells, hpolicies, hrecords⟩
    -- The deletion is recorded before the policy is taken out, so it still shows the policy.
    refine .bind (.modify (.emit_bind fun a' hsame _ => ?_))
    obtain rfl := htells.snapshot
    refine ⟨[.delete r], ⟨r, rfl, htenant, rfl⟩, .single hget htells ?_ ?_⟩
    · exact congrArg (·.erase r.snapshot.id) hpolicies
    · have hrecords := hrecords.of_clock_eq hsame
      exact ⟨hrecords.histories, hrecords.dated, hrecords.losesRevisions, hrecords.rejectsCommits⟩

/-! ### Imports -/

section Import

variable {drafts : List PolicyDraft} {mode : ImportMode}

theorem yields_replace {p : Policy} (hs : s.contents.Indexed)
    (hnamed : s.contents.named tenant draft.name = some p) :
    Yields (replace p draft actor) s a fun outcome s' a' =>
      ∃ deeds, draft.Does tenant .overwrite actor outcome deeds ∧ s.Performs a deeds s' a' := by
  obtain ⟨hmem, hname⟩ := StoreContents.of_named hnamed
  obtain ⟨hget, htenant⟩ := StoreContents.owned_eq_some.1 (hs.mem_ownedBy.1 hmem)
  refine .get_bind ?_
  simp only [hget]
  split
  · exact ⟨[], .failed _, .nil (Instant.le_refl _)⟩
  · refine .now_bind fun a₁ hlater _ => .bind (.modify (.bind ((yields_record _ _ _).mono ?_)))
    rintro _ s' a' ⟨r, htells, hpolicies, hrecords⟩
    refine ⟨[.overwrite p r], .updated rfl ⟨htenant, hname⟩ htells.snapshot, ?_⟩
    exact .of_change (.inr rfl) (Instant.le_of_lt hlater) hget
      (p.succeeds_overwrite draft actor a.clock) rfl htells hpolicies hrecords

theorem yields_importOne (hs : s.contents.Indexed) :
    Yields (importOne tenant mode actor draft) s a fun outcome s' a' =>
      ∃ deeds, draft.Does tenant mode actor outcome deeds ∧ s.Performs a deeds s' a' := by
  refine .get_bind ?_
  cases hnamed : s.contents.named tenant draft.name with
  | some p =>
    cases mode with
    | skip => exact ⟨[], .skipped, .nil (Instant.le_refl _)⟩
    | error => exact ⟨[], .failed _, .nil (Instant.le_refl _)⟩
    | overwrite => exact yields_replace hs hnamed
  | none =>
    refine .bind (yields_insert.mono ?_)
    rintro (_ | p) s₁ a₁ ⟨hclock, hinsert⟩
    · subst hinsert
      exact ⟨[], .failed _, .nil hclock⟩
    · obtain ⟨hfree, hdescribes, rfl⟩ := hinsert
      refine .bind ((yields_record p .create _).mono ?_)
      rintro _ s' a' ⟨r, htells, hpolicies, hrecords⟩
      refine ⟨[.create r], .created (htells.snapshot ▸ hdescribes), ?_⟩
      exact .of_insert hclock hfree hdescribes htells hpolicies hrecords

theorem yields_importEach (hs : s.contents.Indexed) :
    Yields (importEach tenant mode actor drafts) s a fun outcomes s' a' =>
      ∃ deeds, PolicyDraft.AllDo tenant mode actor drafts outcomes deeds ∧
        s.Performs a deeds s' a' := by
  induction drafts generalizing s a with
  | nil => exact ⟨[], .nil, .nil (Instant.le_refl _)⟩
  | cons draft rest ih =>
    refine .bind ((yields_importOne hs).mono ?_)
    rintro outcome s₁ a₁ ⟨deeds, hdraft, hfirst⟩
    refine .bind ((ih (hfirst.indexed hs)).mono ?_)
    rintro outcomes s' a' ⟨more, hrest, hothers⟩
    exact ⟨deeds ++ more, .cons hdraft hrest, hfirst.append hothers⟩

theorem yields_importAll (hs : s.contents.Indexed) :
    Yields (importAll tenant drafts mode actor) s a fun answer s' a' =>
      ∃ deeds, (StoreCall.importAll tenant drafts mode actor).Does answer deeds ∧
        s.Performs a deeds s' a' := by
  refine .get_bind (.bind ((yields_importEach hs).mono ?_))
  rintro outcomes s' a' ⟨deeds, hdrafts, hperforms⟩
  split
  · -- The store is as it was before, only the clock has gone on.
    exact ⟨[], rfl, .nil hperforms.records.dated.order⟩
  · exact ⟨deeds, ⟨outcomes, rfl, hdrafts⟩, hperforms⟩

end Import

/-- A call does the deeds that its answer stands for and nothing else. -/
theorem yields_answer (hs : s.contents.Indexed) (c : StoreCall) :
    Yields (answer c) s a fun answer s' a' =>
      ∃ deeds, c.Does answer deeds ∧ s.Performs a deeds s' a' := by
  cases c with
  | create => exact yields_create
  | update => exact .bind (yields_update hs)
  | delete => exact .bind (yields_delete hs)
  | importAll => exact yields_importAll hs
  | _ => exact ⟨[], rfl, .nil (Instant.le_refl _)⟩

end MemoryStore

end Governance
