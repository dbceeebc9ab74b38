import Governance.Proofs.Policy.Codec
import Governance.Proofs.Program.Acting
import Governance.Proofs.Store.Keyed
import Governance.Store.Memory

/-!
# What calls can make of a store

Whatever a call does to the contents of a store is done in single edits: a policy comes in, changes or
goes, or a revision is recorded. `StoreEdit.Fits` says when a tenant may make an edit at all, and
`StoreCall.Permits` which edits belong to a call. Every call makes edits of its own that fit, one
after the other, and does nothing else to the store, whatever the clock shows and whichever
identifiers are drawn. So what holds through every edit that fits holds through every call, and no
later proof looks into one.
-/

namespace Governance

/-- A single change of the contents of a store. -/
inductive StoreEdit where
  | add (p : Policy)
  | change (old new : Policy)
  | remove (old : Policy)
  | record (r : Revision)

def StoreEdit.isAdd : StoreEdit → Bool
  | .add _ => true
  | _ => false

def ImportOutcome.isCreated : ImportOutcome → Bool
  | .created _ => true
  | _ => false

theorem ImportReport.created_foldl (outcomes : List ImportOutcome) (r : ImportReport) :
    (outcomes.foldl record r).created = r.created + outcomes.countP ImportOutcome.isCreated := by
  induction outcomes generalizing r with
  | nil => rfl
  | cons outcome rest ih =>
    rw [List.foldl_cons, ih, List.countP_cons]
    cases outcome with
    | created =>
      simp only [record, ImportOutcome.isCreated, if_true]
      omega
    | updated | skipped | failed => simp [record, ImportOutcome.isCreated]

theorem ImportReport.created_ofOutcomes (outcomes : List ImportOutcome) :
    (ofOutcomes outcomes).created = outcomes.countP ImportOutcome.isCreated :=
  (created_foldl outcomes empty).trans (Nat.zero_add _)

namespace StoreContents

/-- Every policy is kept under its own identifier, and under no other one. -/
abbrev Indexed (s : StoreContents) : Prop := s.policies.Indexed Policy.id

def edit (s : StoreContents) : StoreEdit → StoreContents
  | .add p => s.keep p
  | .change _ new => s.keep new
  | .remove old => s.remove old.id
  | .record r => s.append r.policy r

def editAll (s : StoreContents) (edits : List StoreEdit) : StoreContents := edits.foldl edit s

theorem editAll_append (s : StoreContents) (edits more : List StoreEdit) :
    s.editAll (edits ++ more) = (s.editAll edits).editAll more :=
  List.foldl_append

end StoreContents

/-- A policy is a later state of another one. -/
structure Policy.Succeeds (new old : Policy) : Prop where
  id : new.id = old.id
  tenant : new.tenant = old.tenant
  tier : new.tier = old.tier

/-- What is written once is the same for two policies. -/
structure Policy.SameOrigin (p q : Policy) : Prop where
  id : q.id = p.id
  tenant : q.tenant = p.tenant
  tier : q.tier = p.tier
  createdAt : q.createdAt = p.createdAt
  createdBy : q.createdBy = p.createdBy

theorem Policy.SameOrigin.trans {p q r : Policy} (hfirst : p.SameOrigin q)
    (hsecond : q.SameOrigin r) : p.SameOrigin r :=
  ⟨hsecond.id.trans hfirst.id, hsecond.tenant.trans hfirst.tenant, hsecond.tier.trans hfirst.tier,
    hsecond.createdAt.trans hfirst.createdAt, hsecond.createdBy.trans hfirst.createdBy⟩

theorem Policy.succeeds_applyPatch (p : Policy) (patch : PolicyPatch) (actor : String)
    (now : Instant) : (p.applyPatch patch actor now).Succeeds p :=
  ⟨rfl, rfl, rfl⟩

theorem Policy.succeeds_overwrite (p : Policy) (d : PolicyDraft) (actor : String)
    (now : Instant) : (p.overwrite d actor now).Succeeds p :=
  ⟨rfl, rfl, rfl⟩

/-- An edit concerns policies of a tenant only. A policy that comes in has an identifier that is free,
and a revision shows its policy as it is. -/
def StoreEdit.Fits (tenant : TenantId) (s : StoreContents) : StoreEdit → Prop
  | .add p => s.policies.get? p.id = none ∧ p.tenant = tenant
  | .change old new => s.owned tenant old.id = some old ∧ new.Succeeds old
  | .remove old => s.owned tenant old.id = some old
  | .record r => s.owned tenant r.policy = some r.snapshot

/-- A draft describes a policy when the policy could have been made of it. -/
def PolicyDraft.Describes (d : PolicyDraft) (tenant : TenantId) (actor : String) (p : Policy) :
    Prop :=
  ∃ fresh now, d.toPolicy fresh tenant actor now = .ok p

theorem PolicyDraft.Describes.tenant_eq {d : PolicyDraft} {tenant : TenantId} {actor : String}
    {p : Policy} (hp : d.Describes tenant actor p) : p.tenant = tenant := by
  obtain ⟨fresh, now, hp⟩ := hp
  obtain ⟨_, _, rfl⟩ := eq_of_toPolicy hp
  rfl

theorem PolicyDraft.Describes.tier_eq {d : PolicyDraft} {tenant : TenantId} {actor : String}
    {p : Policy} (hp : d.Describes tenant actor p) : p.tier = d.effectiveTier := by
  obtain ⟨fresh, now, hp⟩ := hp
  obtain ⟨_, _, rfl⟩ := eq_of_toPolicy hp
  rfl

theorem PolicyDraft.Describes.name_eq {d : PolicyDraft} {tenant : TenantId} {actor : String}
    {p : Policy} (hp : d.Describes tenant actor p) : p.name = d.name := by
  obtain ⟨fresh, now, hp⟩ := hp
  obtain ⟨_, _, rfl⟩ := eq_of_toPolicy hp
  rfl

namespace StoreCall

def tenant : StoreCall → TenantId
  | .create tenant .. | .get tenant _ | .findByName tenant _ | .list tenant _
  | .countTenantTier tenant | .update tenant .. | .delete tenant .. | .revisions tenant _
  | .exportAll tenant | .enabledPolicies tenant | .importAll tenant .. => tenant

def isRead : StoreCall → Bool
  | .create .. | .update .. | .delete .. | .importAll .. => false
  | _ => true

def brings : StoreCall → Bool
  | .create .. | .importAll .. => true
  | _ => false

def drafts : StoreCall → List PolicyDraft
  | .create _ draft _ => [draft]
  | .importAll _ drafts _ _ => drafts
  | _ => []

def patches : StoreCall → List PolicyPatch
  | .update _ _ patch _ => [patch]
  | _ => []

/-- The edits that belong to a call. An import adds a policy only under a name that its tenant does
not have yet, and changes only policies that have the name of a draft and are not of the system. -/
def Permits (s : StoreContents) : StoreCall → StoreEdit → Prop
  | .create tenant draft actor, .add p => draft.Describes tenant actor p
  | .update _ id patch actor, .change old new =>
    old.id = id ∧ ∃ now, new = old.applyPatch patch actor now
  | .delete _ id _, .remove old => old.id = id
  | .importAll tenant drafts _ actor, .add p =>
    s.named tenant p.name = none ∧ ∃ d ∈ drafts, d.Describes tenant actor p
  | .importAll _ drafts _ actor, .change old new =>
    old.isSystem = false ∧ ∃ d ∈ drafts, d.name = old.name ∧ ∃ now, new = old.overwrite d actor now
  | .create tenant draft actor, .record r => draft.Describes tenant actor r.snapshot
  | .update _ id _ _, .record r | .delete _ id _, .record r => r.policy = id
  | .importAll tenant drafts _ actor, .record r =>
    r.snapshot.isSystem = false ∨ ∃ d ∈ drafts, d.Describes tenant actor r.snapshot
  | _, _ => False

/-- Edits that a call may make one after the other. -/
def Allows (c : StoreCall) (s : StoreContents) : List StoreEdit → Prop
  | [] => True
  | e :: rest => e.Fits c.tenant s ∧ c.Permits s e ∧ c.Allows (s.edit e) rest

theorem allows_append {c : StoreCall} {s : StoreContents} {edits more : List StoreEdit} :
    c.Allows s (edits ++ more) ↔ c.Allows s edits ∧ c.Allows (s.editAll edits) more := by
  induction edits generalizing s with
  | nil => exact ⟨fun h => ⟨trivial, h⟩, And.right⟩
  | cons e rest ih =>
    change (_ ∧ _ ∧ c.Allows (s.edit e) (rest ++ more)) ↔
      (_ ∧ _ ∧ c.Allows (s.edit e) rest) ∧ c.Allows ((s.edit e).editAll rest) more
    rw [ih, and_assoc, and_assoc]

/-- What holds through every edit of a call that fits holds through all of its edits. -/
theorem Allows.keeps {c : StoreCall} {P : StoreContents → Prop}
    (hstep : ∀ s e, e.Fits c.tenant s → c.Permits s e → P s → P (s.edit e)) {s : StoreContents}
    {edits : List StoreEdit} (hedits : c.Allows s edits) (hs : P s) : P (s.editAll edits) := by
  induction edits generalizing s with
  | nil => exact hs
  | cons e rest ih =>
    obtain ⟨hfits, hpermits, hrest⟩ := hedits
    exact ih hrest (hstep s e hfits hpermits hs)

end StoreCall

namespace StoreContents

variable {s : StoreContents} {tenant : TenantId} {id : PolicyId} {p : Policy}

theorem owned_eq_some : s.owned tenant id = some p ↔
    s.policies.get? id = some p ∧ p.tenant = tenant := by
  rw [owned, Option.filter_eq_some_iff, decide_eq_true_iff]

theorem owned_keep_self : (s.keep p).owned p.tenant p.id = some p := by
  rw [owned_eq_some, keep]
  exact ⟨by rw [Keyed.get?_put, if_pos rfl], rfl⟩

theorem Indexed.id_of_owned (hs : s.Indexed) (howned : s.owned tenant id = some p) : p.id = id :=
  hs.key_of_get (owned_eq_some.1 howned).1

theorem mem_ownedBy : p ∈ s.ownedBy tenant ↔ p ∈ s.policies.values ∧ p.tenant = tenant := by
  rw [ownedBy, List.mem_filter, decide_eq_true_iff]

theorem Indexed.mem_ownedBy (hs : s.Indexed) :
    p ∈ s.ownedBy tenant ↔ s.owned tenant p.id = some p := by
  rw [StoreContents.mem_ownedBy, hs.mem_values, owned_eq_some]

theorem named_eq_none {name : String} :
    s.named tenant name = none ↔ ∀ p ∈ s.ownedBy tenant, p.name ≠ name := by
  simp [named]

theorem of_named {name : String} (hnamed : s.named tenant name = some p) :
    p ∈ s.ownedBy tenant ∧ p.name = name :=
  ⟨List.mem_of_find?_eq_some hnamed, by simpa using List.find?_some hnamed⟩

theorem history_append (id other : PolicyId) (r : Revision) :
    (s.append id r).history other = if id = other then s.history id ++ [r] else s.history other := by
  rw [history, append, Keyed.get?_put]
  split <;> rfl

theorem Indexed.edit (hs : s.Indexed) (e : StoreEdit) : (s.edit e).Indexed := by
  cases e with
  | add p => exact hs.put rfl
  | change old new => exact hs.put rfl
  | remove old => exact hs.erase
  | record r => exact hs

theorem Indexed.editAll (hs : s.Indexed) (edits : List StoreEdit) : (s.editAll edits).Indexed := by
  induction edits generalizing s with
  | nil => exact hs
  | cons e rest ih => exact ih (hs.edit e)

/-- What holds of every policy, of one that comes in and of the later state of one of which it held. -/
theorem forall_values_edit {P : Policy → Prop} {e : StoreEdit} (hs : s.Indexed)
    (hall : ∀ p ∈ s.policies.values, P p) (hfits : e.Fits tenant s)
    (hadd : ∀ p, e = .add p → P p) (hchange : ∀ old new, e = .change old new → P old → P new) :
    ∀ p ∈ (s.edit e).policies.values, P p := by
  have hkeep {new : Policy} (hnew : P new) : ∀ p ∈ (s.keep new).policies.values, P p := by
    intro p hp
    rcases Keyed.mem_values_put hp with rfl | hold
    · exact hnew
    · exact hall p hold
  cases e with
  | add p => exact hkeep (hadd p rfl)
  | change old new =>
    have hold : P old := hall old (StoreContents.mem_ownedBy.1 (hs.mem_ownedBy.2 hfits.1)).1
    exact hkeep (hchange old new rfl hold)
  | remove old => exact fun p hp => hall p (Keyed.values_erase_sublist.subset hp)
  | record r => exact hall

end StoreContents

def MemoryStore.edited (s : MemoryStore) (edits : List StoreEdit) : MemoryStore :=
  { s with contents := s.contents.editAll edits }

theorem MemoryStore.edited_append (s : MemoryStore) (edits more : List StoreEdit) :
    s.edited (edits ++ more) = (s.edited edits).edited more := by
  rw [edited, StoreContents.editAll_append]
  rfl

/-- What has been done to a store on behalf of a call: edits that belong to it, of which so many bring
a policy in. -/
def StoreCall.Makes (c : StoreCall) (added : Nat) (s s' : MemoryStore) : Prop :=
  ∃ edits, c.Allows s.contents edits ∧ s' = s.edited edits ∧
    edits.countP StoreEdit.isAdd = added

namespace StoreCall.Makes

variable {c : StoreCall} {s s' s'' : MemoryStore} {added more : Nat}

theorem refl : c.Makes 0 s s := ⟨[], trivial, rfl, rfl⟩

theorem single {e : StoreEdit} (hfits : e.Fits c.tenant s.contents)
    (hpermits : c.Permits s.contents e) :
    c.Makes (if e.isAdd then 1 else 0) s (s.edited [e]) :=
  ⟨[e], ⟨hfits, hpermits, trivial⟩, rfl, List.countP_singleton⟩

theorem trans (hfirst : c.Makes added s s') (hsecond : c.Makes more s' s'') :
    c.Makes (added + more) s s'' := by
  obtain ⟨edits, hedits, rfl, hcount⟩ := hfirst
  obtain ⟨edits', hedits', rfl, hcount'⟩ := hsecond
  refine ⟨edits ++ edits', allows_append.2 ⟨hedits, hedits'⟩, (s.edited_append _ _).symm, ?_⟩
  rw [List.countP_append, hcount, hcount']

/-- What holds of doing nothing, and of an edit that fits followed by others if it holds of those, holds
of everything that is done on behalf of a call. -/
theorem induct {R : Nat → StoreContents → StoreContents → Prop} (hrefl : ∀ t, R 0 t t)
    (hstep : ∀ n t e t', t.Indexed → e.Fits c.tenant t → c.Permits t e → R n (t.edit e) t' →
      R (n + if e.isAdd then 1 else 0) t t')
    (hs : s.contents.Indexed) (hmakes : c.Makes added s s') :
    R added s.contents s'.contents := by
  obtain ⟨edits, hallowed, rfl, rfl⟩ := hmakes
  suffices h : ∀ t : StoreContents, t.Indexed → c.Allows t edits →
      R (edits.countP StoreEdit.isAdd) t (t.editAll edits) from h _ hs hallowed
  clear hallowed
  induction edits with
  | nil => exact fun t _ _ => hrefl t
  | cons e rest ih =>
    rintro t ht ⟨hfits, hpermits, hrest⟩
    rw [List.countP_cons]
    exact hstep _ t e _ ht hfits hpermits (ih _ (ht.edit e) hrest)

theorem indexed (hmakes : c.Makes added s s') (hs : s.contents.Indexed) : s'.contents.Indexed := by
  obtain ⟨edits, _, rfl, _⟩ := hmakes
  exact hs.editAll edits

/-- What every edit keeps that fits and belongs to a call, the call keeps. -/
theorem keeps {P : StoreContents → Prop}
    (hstep : ∀ t e, t.Indexed → e.Fits c.tenant t → c.Permits t e → P t → P (t.edit e))
    (hmakes : c.Makes added s s') (hs : s.contents.Indexed) (hbefore : P s.contents) :
    P s'.contents := by
  obtain ⟨edits, hallowed, rfl, _⟩ := hmakes
  have hkept : (s.contents.editAll edits).Indexed ∧ P (s.contents.editAll edits) := by
    refine hallowed.keeps (P := fun t => t.Indexed ∧ P t) ?_ ⟨hs, hbefore⟩
    intro t e hfits hpermits ht
    exact ⟨ht.1.edit e, hstep t e ht.1 hfits hpermits ht.2⟩
  exact hkept.2

end StoreCall.Makes

namespace MemoryStore

open Acting (Ensures)

variable {s : MemoryStore} {tenant : TenantId} {actor : String} {draft : PolicyDraft}

theorem ensures_record {c : StoreCall} {p : Policy} {kind : ChangeKind} {summary : String}
    (howned : s.contents.owned c.tenant p.id = some p)
    (hpermits : ∀ r, r.policy = p.id → r.snapshot = p → c.Permits s.contents (.record r)) :
    Ensures (record p kind summary actor) s fun _ s' =>
      c.Makes 0 s s' ∧ s'.contents.policies = s.contents.policies := by
  refine .get_bind ?_
  split
  · exact .lift fun _ => ⟨.refl, rfl⟩
  · refine .lift_bind fun id => .lift_bind fun now _ => ⟨?_, rfl⟩
    exact .single (e := .record (.capture id now p kind summary actor)) howned (hpermits _ rfl rfl)

theorem ensures_insert : Ensures (insert tenant draft actor) s fun answer s' =>
    match answer with
    | .error _ => s' = s
    | .ok p => s.contents.policies.get? p.id = none ∧ draft.Describes tenant actor p ∧
        s' = s.edited [.add p] := by
  refine .lift_bind fun fresh => .lift_bind fun now => ?_
  split
  · exact .pure rfl
  · rename_i p hp
    refine .get_bind ?_
    split
    · exact .pure rfl
    · rename_i hfree
      exact fun _ => ⟨by simpa using hfree, ⟨fresh, now, hp⟩, rfl⟩

theorem ensures_create : Ensures (create tenant draft actor) s fun answer s' =>
    match answer with
    | .error _ => s' = s
    | .ok _ => (StoreCall.create tenant draft actor).Makes 1 s s' := by
  refine .bind (ensures_insert.mono ?_)
  rintro (_ | p) s' hinsert
  · exact .pure hinsert
  · obtain ⟨hfree, hdescribes, rfl⟩ := hinsert
    have htenant := hdescribes.tenant_eq
    have hadd : StoreCall.Makes (.create tenant draft actor) 1 s (s.edited [.add p]) :=
      .single ⟨hfree, htenant⟩ hdescribes
    refine .bind ((ensures_record (c := .create tenant draft actor) ?_ ?_).mono ?_)
    · exact htenant ▸ StoreContents.owned_keep_self
    · rintro r _ rfl
      exact hdescribes
    · rintro _ s' ⟨hrecord, _⟩
      exact .lift_bind fun _ => .pure (hadd.trans hrecord)

theorem ensures_update {id : PolicyId} {patch : PolicyPatch} (hs : s.contents.Indexed) :
    Ensures (update tenant id patch actor) s fun _ s' =>
      ∃ added, (StoreCall.update tenant id patch actor).Makes added s s' := by
  refine .get_bind ?_
  split
  · exact .pure ⟨0, .refl⟩
  · rename_i p howned
    split
    · exact .pure ⟨0, .refl⟩
    · refine .lift_bind fun now => ?_
      obtain rfl := hs.id_of_owned howned
      have htenant := (StoreContents.owned_eq_some.1 howned).2
      have hchange : StoreCall.Makes (.update tenant p.id patch actor) 0 s
          (s.edited [.change p (p.applyPatch patch actor now)]) :=
        .single ⟨howned, p.succeeds_applyPatch patch actor now⟩ ⟨rfl, now, rfl⟩
      refine .bind fun _ => ?_
      refine .bind ((ensures_record (c := .update tenant p.id patch actor) ?_ ?_).mono ?_)
      · exact htenant ▸ StoreContents.owned_keep_self
      · exact fun r hid _ => hid
      · rintro _ s' ⟨hrecord, _⟩
        exact .lift_bind fun _ => .pure ⟨_, hchange.trans hrecord⟩

theorem ensures_delete {id : PolicyId} (hs : s.contents.Indexed) :
    Ensures (delete tenant id actor) s fun _ s' =>
      ∃ added, (StoreCall.delete tenant id actor).Makes added s s' := by
  refine .get_bind ?_
  split
  · exact .pure ⟨0, .refl⟩
  · rename_i p howned
    obtain rfl := hs.id_of_owned howned
    -- The revision is recorded while the policy is still there.
    refine .bind ((ensures_record (c := .delete tenant p.id actor) howned ?_).mono ?_)
    · exact fun r hid _ => hid
    rintro _ s' ⟨hrecord, hpolicies⟩
    have howned' : s'.contents.owned tenant p.id = some p := by
      rw [StoreContents.owned, hpolicies]
      exact howned
    have hremove : StoreCall.Makes (.delete tenant p.id actor) 0 s' (s'.edited [.remove p]) :=
      .single howned' rfl
    exact .bind fun _ => .lift_bind fun _ => .pure ⟨_, hrecord.trans hremove⟩

/-! ### Imports -/

section Import

variable {drafts : List PolicyDraft} {mode : ImportMode}

theorem ensures_replace (mode : ImportMode) {p : Policy} (hs : s.contents.Indexed)
    (hdraft : draft ∈ drafts)
    (hnamed : s.contents.named tenant draft.name = some p) :
    Ensures (replace p draft actor) s fun outcome s' =>
      (StoreCall.importAll tenant drafts mode actor).Makes 0 s s' ∧ ¬ outcome.isCreated := by
  obtain ⟨hmem, hname⟩ := StoreContents.of_named hnamed
  have howned := hs.mem_ownedBy.1 hmem
  obtain ⟨hget, htenant⟩ := StoreContents.owned_eq_some.1 howned
  refine .get_bind ?_
  simp only [hget]
  split
  · exact .pure ⟨.refl, Bool.false_ne_true⟩
  · rename_i hsystem
    refine .lift_bind fun now => ?_
    have hchange : StoreCall.Makes (.importAll tenant drafts mode actor) 0 s
        (s.edited [.change p (p.overwrite draft actor now)]) :=
      .single ⟨howned, p.succeeds_overwrite draft actor now⟩
        ⟨Bool.eq_false_iff.2 hsystem, draft, hdraft, hname.symm, now, rfl⟩
    refine .bind fun _ => ?_
    refine .bind ((ensures_record (c := .importAll tenant drafts mode actor) ?_ ?_).mono ?_)
    · exact htenant ▸ StoreContents.owned_keep_self
    · intro r _ hsnapshot
      left
      rw [hsnapshot]
      exact Bool.eq_false_iff.2 hsystem
    · rintro _ s' ⟨hrecord, _⟩
      exact .pure ⟨hchange.trans hrecord, Bool.false_ne_true⟩

theorem ensures_importOne (hs : s.contents.Indexed) (hdraft : draft ∈ drafts) :
    Ensures (importOne tenant mode actor draft) s fun outcome s' =>
      (StoreCall.importAll tenant drafts mode actor).Makes
        (if outcome.isCreated then 1 else 0) s s' := by
  refine .get_bind ?_
  cases hnamed : s.contents.named tenant draft.name with
  | some p =>
    cases mode with
    | skip => exact .pure .refl
    | error => exact .pure .refl
    | overwrite =>
      refine (ensures_replace .overwrite hs hdraft hnamed).mono ?_
      rintro outcome s' ⟨hmakes, houtcome⟩
      rwa [if_neg houtcome]
  | none =>
    refine .bind (ensures_insert.mono ?_)
    rintro (_ | p) s' hinsert
    · exact .pure (hinsert ▸ .refl)
    · obtain ⟨hfree, hdescribes, rfl⟩ := hinsert
      have htenant := hdescribes.tenant_eq
      have hadd : StoreCall.Makes (.importAll tenant drafts mode actor) 1 s
          (s.edited [.add p]) := by
        refine .single ⟨hfree, htenant⟩ ⟨?_, draft, hdraft, hdescribes⟩
        rw [hdescribes.name_eq]
        exact hnamed
      refine .bind ((ensures_record (c := .importAll tenant drafts mode actor) ?_ ?_).mono ?_)
      · exact htenant ▸ StoreContents.owned_keep_self
      · rintro r _ rfl
        exact .inr ⟨draft, hdraft, hdescribes⟩
      · rintro _ s' ⟨hrecord, _⟩
        exact .pure (hadd.trans hrecord)

theorem ensures_importEach {rest : List PolicyDraft} (hs : s.contents.Indexed)
    (hrest : rest ⊆ drafts) :
    Ensures (importEach tenant mode actor rest) s fun outcomes s' =>
      (StoreCall.importAll tenant drafts mode actor).Makes
        (outcomes.countP ImportOutcome.isCreated) s s' := by
  induction rest generalizing s with
  | nil => exact .pure .refl
  | cons draft rest ih =>
    obtain ⟨hdraft, hrest⟩ := List.cons_subset.1 hrest
    -- The other drafts meet the store as the first one has left it.
    refine .bind ((ensures_importOne hs hdraft).mono ?_)
    intro outcome s' hone
    refine .bind ((ih (hone.indexed hs) hrest).mono ?_)
    intro outcomes s'' hothers
    refine .pure ?_
    rw [List.countP_cons, Nat.add_comm]
    exact hone.trans hothers

/-- Either all of an import is done or nothing, and the report tells how many policies came in. -/
theorem ensures_importAll (hs : s.contents.Indexed) :
    Ensures (importAll tenant drafts mode actor) s fun answer s' =>
      match answer with
      | .error _ => s' = s
      | .ok report =>
        (StoreCall.importAll tenant drafts mode actor).Makes report.created s s' := by
  refine .get_bind (.bind ((ensures_importEach hs (List.Subset.refl drafts)).mono ?_))
  intro outcomes s' hmakes
  split
  · exact fun _ => rfl
  · rw [← ImportReport.created_ofOutcomes] at hmakes
    exact .pure hmakes

end Import

/-- A call makes edits that belong to it and does nothing else. -/
theorem ensures_answer (hs : s.contents.Indexed) (c : StoreCall) :
    Ensures (answer c) s fun _ s' => ∃ added, c.Makes added s s' := by
  cases c with
  | create =>
    refine ensures_create.mono ?_
    rintro (_ | _) s' hmakes
    · exact ⟨0, hmakes ▸ .refl⟩
    · exact ⟨1, hmakes⟩
  | update => exact .bind ((ensures_update hs).mono fun _ _ h => .pure h)
  | delete => exact .bind ((ensures_delete hs).mono fun _ _ h => .pure h)
  | importAll tenant drafts mode actor =>
    refine (ensures_importAll hs).mono ?_
    rintro (_ | report) s' hmakes
    · exact ⟨0, hmakes ▸ .refl⟩
    · exact ⟨_, hmakes⟩
  | _ => exact fun _ => ⟨0, .refl⟩

/-!
### The stores that there can be

A store starts empty. Policies are seeded into it as they are, calls are made to it, and its faults
are switched on and off, in any order. Nothing else changes a store, and so every policy of a store is
kept under its own identifier.
-/

/-- The stores that come about by seeding policies, making calls and switching faults. -/
inductive Reachable : MemoryStore → Prop where
  | empty : Reachable empty
  | seed {s : MemoryStore} (hs : Reachable s) (p : Policy) : Reachable (s.seed p)
  | answer {s : MemoryStore} (hs : Reachable s) (c : StoreCall) (a : Ambient) :
      Reachable ((answer c).run s a).1.2
  | switch {s : MemoryStore} (hs : Reachable s) (losesRevisions rejectsCommits : Bool) :
      Reachable ⟨s.contents, losesRevisions, rejectsCommits⟩

namespace Reachable

variable {s : MemoryStore}

theorem indexed (hs : Reachable s) : s.contents.Indexed := by
  induction hs with
  | empty => exact Keyed.indexed_empty
  | seed _ p ih => exact ih.put rfl
  | answer _ c a ih =>
    obtain ⟨_, hmakes⟩ := ensures_answer ih c a
    exact hmakes.indexed ih
  | switch _ _ _ ih => exact ih

end Reachable

end MemoryStore

end Governance

namespace Governance

/-!
## Stores of what was read

In drafts and patches that were read, objects are maps. A call with such drafts and patches leaves only
policies behind of which the same can be said, so it holds of every policy of a store that is changed by
what was read alone.
-/

section Made

variable {p : Policy} {d : PolicyDraft} {tenant : TenantId} {actor : String} {now : Instant}

theorem PolicyDraft.Describes.isCanonical (hp : d.Describes tenant actor p) (hd : d.IsCanonical) :
    p.IsCanonical := by
  obtain ⟨fresh, now, hp⟩ := hp
  obtain ⟨_, _, rfl⟩ := eq_of_toPolicy hp
  exact ⟨hd.conditions, hd.actions⟩

theorem Policy.isCanonical_overwrite (p : Policy) (hd : d.IsCanonical) :
    (p.overwrite d actor now).IsCanonical :=
  ⟨hd.conditions, hd.actions⟩

theorem Policy.IsCanonical.applyPatch {patch : PolicyPatch} (hp : p.IsCanonical)
    (hpatch : patch.IsCanonical) : (p.applyPatch patch actor now).IsCanonical := by
  constructor
  · change ∀ c ∈ patch.conditions.getD p.conditions, c.IsCanonical
    cases hgiven : patch.conditions with
    | none => exact hp.conditions
    | some conditions => exact hpatch.conditions conditions hgiven
  · change ∀ a ∈ patch.actions.getD p.actions, a.IsCanonical
    cases hgiven : patch.actions with
    | none => exact hp.actions
    | some actions => exact hpatch.actions actions hgiven

end Made

/-- In the drafts and patches of a call objects are maps, as they are when these were read. -/
def StoreCall.IsCanonical : StoreCall → Prop
  | .create _ draft _ => draft.IsCanonical
  | .update _ _ patch _ => patch.IsCanonical
  | .importAll _ drafts _ _ => ∀ d ∈ drafts, d.IsCanonical
  | _ => True

namespace StoreContents

variable {s : StoreContents} {c : StoreCall} {e : StoreEdit}

def AllCanonical (s : StoreContents) : Prop := ∀ p ∈ s.policies.values, p.IsCanonical

theorem AllCanonical.edit (hs : s.AllCanonical) (hindexed : s.Indexed) (hc : c.IsCanonical)
    (hfits : e.Fits c.tenant s) (hpermits : c.Permits s e) : (s.edit e).AllCanonical := by
  refine forall_values_edit hindexed hs hfits ?_ ?_
  · rintro p rfl
    cases c with
    | create => exact hpermits.isCanonical hc
    | importAll =>
      obtain ⟨_, d, hd, hdescribes⟩ := hpermits
      exact hdescribes.isCanonical (hc d hd)
    | _ => cases hpermits
  · rintro old new rfl hold
    cases c with
    | update =>
      obtain ⟨_, now, rfl⟩ := hpermits
      exact hold.applyPatch hc
    | importAll =>
      obtain ⟨_, d, hd, _, now, rfl⟩ := hpermits
      exact old.isCanonical_overwrite (hc d hd)
    | _ => cases hpermits

end StoreContents

theorem StoreCall.Makes.allCanonical {c : StoreCall} {added : Nat} {s s' : MemoryStore}
    (hmakes : c.Makes added s s') (hs : s.contents.Indexed) (hc : c.IsCanonical)
    (hpolicies : s.contents.AllCanonical) : s'.contents.AllCanonical :=
  hmakes.keeps (fun _ _ ht hfits hpermits hall => hall.edit ht hc hfits hpermits) hs hpolicies

end Governance
