import Governance.Proofs.Store.Deeds
import Governance.Proofs.Store.Holdings
import Governance.Proofs.Store.Isolation

/-!
# What a change hangs on

A change on behalf of a tenant hangs on the tenant's own policies, and of those of other tenants only on
whether they hold an identifier that a draft asks for. Identifiers that are drawn and times that are
read differ from run to run; as long as the drawn ones are new, nothing else in an answer does. All that
is looked at for an import, besides, are the tiers of the policies that have the names of its drafts.
-/

namespace Governance

open Acting (Yields)

/-- The identifier that is made of a number when it is drawn. -/
def drawnId (n : Nat) : PolicyId := ⟨(Uuid.ofRandom n).render⟩

namespace StoreContents

def holds (s : StoreContents) (id : PolicyId) : Bool := (s.policies.get? id).isSome

/-- The tier of the tenant's policy with a name. -/
def tierOf (s : StoreContents) (tenant : TenantId) (name : String) : Option PolicyTier :=
  (s.named tenant name).map (·.tier)

/-- Another tenant has a policy with that identifier. -/
def heldByOther (s : StoreContents) (tenant : TenantId) (id : PolicyId) : Bool :=
  (s.policies.get? id).any fun p => p.tenant ≠ tenant

/-- Why no policy may be kept under an identifier, if so. -/
def collision (s : StoreContents) (id : PolicyId) : Option StoreError :=
  if s.holds id then some (.database ("policy id " ++ id.text ++ " already exists")) else none

/-- Why a draft cannot become a policy, as long as the identifier that is drawn for it is new. -/
def refusal (s : StoreContents) (draft : PolicyDraft) : Option StoreError :=
  match PolicyKind.ofWord? draft.kind with
  | none => some (.unknownKind draft.kind)
  | some _ => draft.id.bind s.collision

/-- The identifiers drawn from one number up to another one are new: they are distinct, no policy has
one of them, and no draft asks for one. -/
structure DrawsNew (s : StoreContents) (asked : List PolicyId) (draws limit : Nat) : Prop where
  free : ∀ n < limit, draws ≤ n → s.holds (drawnId n) = false
  unasked : ∀ n < limit, draws ≤ n → drawnId n ∉ asked
  distinct : ∀ n < limit, ∀ m < n, draws ≤ m → drawnId m ≠ drawnId n

variable {s : StoreContents} {tenant : TenantId} {p old new : Policy}

theorem holds_keep (s : StoreContents) (p : Policy) (id : PolicyId) :
    (s.keep p).holds id = (s.holds id || p.id = id) := by
  rw [holds, keep, Keyed.get?_put]
  split <;> simp [holds, *]

theorem holds_eq_false {id : PolicyId} : s.holds id = false ↔ s.policies.get? id = none := by
  simp [holds]

theorem refusal_of_error {draft : PolicyDraft} {fresh : PolicyId} {actor : String} {now : Instant}
    {word : String} (hword : draft.toPolicy fresh tenant actor now = .error word) :
    s.refusal draft = some (.unknownKind word) := by
  obtain ⟨hkind, rfl⟩ := PolicyDraft.kind_of_toPolicy_error hword
  rw [refusal, hkind]

theorem refusal_of_ok {draft : PolicyDraft} {fresh : PolicyId} {actor : String} {now : Instant}
    (hfree : s.holds fresh = false) (hp : draft.toPolicy fresh tenant actor now = .ok p) :
    s.refusal draft = s.collision p.id := by
  obtain ⟨kind, hkind, _⟩ := PolicyDraft.eq_of_toPolicy hp
  rw [refusal, hkind, PolicyDraft.id_of_toPolicy hp]
  cases draft.id with
  | none => simp [collision, hfree]
  | some id => rfl

/-- A policy that comes in is the one of its name unless there was one before. -/
theorem tierOf_add (hfits : (StoreEdit.add p).Fits tenant s) (name : String) :
    (s.keep p).tierOf tenant name =
      (s.tierOf tenant name).or (if p.name = name then some p.tier else none) := by
  have howned : (s.keep p).ownedBy tenant = s.ownedBy tenant ++ [p] := ownedBy_add hfits
  rw [tierOf, named, howned, List.find?_append, Option.map_or, tierOf, named]
  congr 1
  by_cases hname : p.name = name <;> simp [hname]

theorem tierOf_change (hfits : (StoreEdit.change old new).Fits tenant s)
    (hname : new.name = old.name) (name : String) :
    (s.keep new).tierOf tenant name = s.tierOf tenant name := by
  have hlisted (t : StoreContents) : t.tierOf tenant name =
      (((t.ownedBy tenant).map fun p => (p.name, p.tier)).find? fun e => e.1 = name).map (·.2) := by
    rw [List.find?_map, Option.map_map]
    rfl
  have hsame : ((s.keep new).ownedBy tenant).map (fun p => (p.name, p.tier)) =
      (s.ownedBy tenant).map fun p => (p.name, p.tier) :=
    map_ownedBy_change (fun p => (p.name, p.tier)) hfits (by rw [hname, hfits.2.tier])
  rw [hlisted, hlisted, hsame]

/-! ### What is left for the drafts that follow -/

namespace DrawsNew

variable {asked : List PolicyId} {draws draws' limit : Nat} {s' : StoreContents}

theorem of_policies_eq (hnew : s.DrawsNew asked draws limit) (hle : draws ≤ draws')
    (hpolicies : s'.policies = s.policies) : s'.DrawsNew asked draws' limit := by
  refine ⟨fun n hlimit hn => ?_, fun n hlimit hn => hnew.unasked n hlimit (hle.trans hn),
    fun n hlimit m hm hn => hnew.distinct n hlimit m hm (hle.trans hn)⟩
  rw [holds, hpolicies]
  exact hnew.free n hlimit (hle.trans hn)

theorem keep (hnew : s.DrawsNew asked draws limit) (hle : draws ≤ draws')
    (hother : ∀ n < limit, draws' ≤ n → p.id ≠ drawnId n) :
    (s.keep p).DrawsNew asked draws' limit := by
  refine ⟨fun n hlimit hn => ?_, fun n hlimit hn => hnew.unasked n hlimit (hle.trans hn),
    fun n hlimit m hm hn => hnew.distinct n hlimit m hm (hle.trans hn)⟩
  rw [holds_keep, hnew.free n hlimit (hle.trans hn)]
  simpa using hother n hlimit hn

end DrawsNew

/-- What imports of a tenant look at has changed just by what became of a draft. -/
structure Gains (tenant : TenantId) (asked : List PolicyId) (draft : PolicyDraft)
    (outcome : ImportOutcome) (s s' : StoreContents) : Prop where
  tiers : ∀ name, s'.tierOf tenant name = (s.tierOf tenant name).or
    (if outcome.isCreated ∧ draft.name = name then some draft.effectiveTier else none)
  holds : ∀ id ∈ asked,
    s'.holds id = (s.holds id || outcome.isCreated && decide (draft.id = some id))

namespace Gains

variable {asked : List PolicyId} {draft : PolicyDraft} {outcome : ImportOutcome}
  {s' t : StoreContents}

theorem refl (houtcome : outcome.isCreated = false) : Gains tenant asked draft outcome s s := by
  refine ⟨fun name => ?_, fun id _ => ?_⟩ <;> simp [houtcome]

theorem of_policies_eq (hgains : Gains tenant asked draft outcome s t)
    (hpolicies : s'.policies = t.policies) : Gains tenant asked draft outcome s s' := by
  refine ⟨fun name => ?_, fun id hid => ?_⟩
  · rw [← hgains.tiers name, tierOf, tierOf, named, named, ownedBy, ownedBy, hpolicies]
  · rw [← hgains.holds id hid, StoreContents.holds, StoreContents.holds, hpolicies]

theorem keep_created {fresh : PolicyId} {actor : String} {now : Instant} (hunasked : fresh ∉ asked)
    (hp : draft.toPolicy fresh tenant actor now = .ok p) (hfree : s.holds p.id = false) :
    Gains tenant asked draft (.created draft.name) s (s.keep p) := by
  have hdescribes : draft.Describes tenant actor p := ⟨fresh, now, hp⟩
  refine ⟨fun name => ?_, fun id hid => ?_⟩
  · rw [tierOf_add ⟨holds_eq_false.1 hfree, hdescribes.tenant_eq⟩, hdescribes.tier_eq,
      hdescribes.name_eq]
    simp [ImportOutcome.isCreated]
  · have hsame : p.id = id ↔ draft.id = some id := by
      rw [PolicyDraft.id_of_toPolicy hp]
      cases draft.id with
      | none =>
        refine ⟨?_, fun h => absurd h.symm (Option.some_ne_none id)⟩
        rintro rfl
        exact absurd hid hunasked
      | some chosen => simp
    rw [holds_keep]
    simp [ImportOutcome.isCreated, hsame]

theorem keep_updated (hfits : (StoreEdit.change old new).Fits tenant s)
    (hname : new.name = old.name) :
    Gains tenant asked draft (.updated draft.name) s (s.keep new) := by
  refine ⟨fun name => ?_, fun id _ => ?_⟩
  · rw [tierOf_change hfits hname]
    simp [ImportOutcome.isCreated]
  · have hheld : s.holds new.id = true := by
      rw [hfits.2.id, StoreContents.holds, (owned_eq_some.1 hfits.1).1]
      rfl
    have hsame : new.id = id → s.holds id = true := by
      rintro rfl
      exact hheld
    rw [holds_keep]
    simpa [ImportOutcome.isCreated] using hsame

end Gains

/-- What imports of a tenant look at is the same in both stores. -/
structure SeenAlike (tenant : TenantId) (asked : List PolicyId) (s s' : StoreContents) : Prop where
  tiers : ∀ name, s.tierOf tenant name = s'.tierOf tenant name
  holds : ∀ id ∈ asked, s.holds id = s'.holds id

namespace SeenAlike

variable {asked : List PolicyId} {draft : PolicyDraft} {outcome : ImportOutcome}
  {s' t t' : StoreContents}

theorem refusal_eq (hseen : SeenAlike tenant asked s s')
    (hasked : ∀ id, draft.id = some id → id ∈ asked) : s.refusal draft = s'.refusal draft := by
  unfold refusal
  split
  · rfl
  · cases hid : draft.id with
    | none => rfl
    | some id => rw [Option.bind_some, Option.bind_some, collision, collision,
        hseen.holds id (hasked id hid)]

theorem gains (hseen : SeenAlike tenant asked s s') (hgains : Gains tenant asked draft outcome s t)
    (hgains' : Gains tenant asked draft outcome s' t') : SeenAlike tenant asked t t' where
  tiers name := by rw [hgains.tiers, hgains'.tiers, hseen.tiers]
  holds id hid := by rw [hgains.holds id hid, hgains'.holds id hid, hseen.holds id hid]

end SeenAlike

/-- Stores that agree for a tenant look alike where they also agree on which identifiers other tenants
hold. -/
theorem AgreesFor.seenAlike {asked : List PolicyId} {s' : StoreContents}
    (hagrees : AgreesFor tenant s s') (hs : s.Indexed) (hs' : s'.Indexed)
    (hothers : ∀ id ∈ asked, s.heldByOther tenant id = s'.heldByOther tenant id) :
    SeenAlike tenant asked s s' where
  tiers name := congrArg (Option.map Policy.tier) (hagrees.policies.find_eq name)
  holds id hid := by
    have hsplit (t : StoreContents) :
        t.holds id = ((t.owned tenant id).isSome || t.heldByOther tenant id) := by
      rw [StoreContents.holds, owned, heldByOther]
      cases t.policies.get? id with
      | none => rfl
      | some p => by_cases htenant : p.tenant = tenant <;> simp [htenant]
    rw [hsplit, hsplit, hagrees.owned_eq hs hs', hothers id hid]

end StoreContents

/-- What becomes of a draft, from the tier of the policy that has its name and from why it cannot become
a policy. -/
def PolicyDraft.outcome (draft : PolicyDraft) (mode : ImportMode) (tier : Option PolicyTier)
    (refusal : Option StoreError) : ImportOutcome :=
  match tier, mode with
  | some _, .skip => .skipped draft.name
  | some _, .error => .failed draft.name (takenMessage draft.name)
  | some tier, .overwrite =>
    if tier = .system then
      .failed draft.name (replacementMessage draft.name "system policies are immutable")
    else .updated draft.name
  | none, _ =>
    match refusal with
    | some e => .failed draft.name (creationMessage draft.name e.message)
    | none => .created draft.name

namespace MemoryStore

variable {s : MemoryStore} {a : Ambient} {tenant : TenantId} {actor : String} {draft : PolicyDraft}

theorem yields_record_draws (p : Policy) (kind : ChangeKind) (summary : String) :
    Yields (record p kind summary actor) s a fun _ s' a' =>
      s'.contents.policies = s.contents.policies ∧ a.draws ≤ a'.draws ∧ a'.draws ≤ a.draws + 1 := by
  refine .get_bind ?_
  split
  · exact ⟨rfl, Nat.le_refl _, Nat.le_succ _⟩
  · refine .uuid_bind fun a₁ _ hdraws => .now_bind fun a' _ hsame => .modify ?_
    rw [hsame, hdraws]
    exact ⟨rfl, Nat.le_succ _, Nat.le_refl _⟩

/-- As long as the identifier that is drawn is free, what comes of a draft does not hang on it. -/
theorem yields_insert_drawn (hfree : s.contents.holds (drawnId a.draws) = false) :
    Yields (insert tenant draft actor) s a fun answer s' a' => a'.draws = a.draws + 1 ∧
      match s.contents.refusal draft with
      | some e => answer = .error e ∧ s' = s
      | none => ∃ p, answer = .ok p ∧
          draft.toPolicy (drawnId a.draws) tenant actor a.clock = .ok p ∧
          s.contents.holds p.id = false ∧ s' = { s with contents := s.contents.keep p } := by
  refine .identifier_bind fun a₁ hclock hdraws => .now_bind fun a' _ hsame => ?_
  rw [hclock]
  have hnext : a'.draws = a.draws + 1 := hsame.trans hdraws
  split
  · rename_i word hword
    rw [StoreContents.refusal_of_error hword]
    exact ⟨hnext, rfl, rfl⟩
  · rename_i p hp
    refine .get_bind ?_
    rw [StoreContents.refusal_of_ok hfree hp, StoreContents.collision, StoreContents.holds]
    split
    · exact ⟨hnext, rfl, rfl⟩
    · rename_i hunheld
      exact ⟨hnext, p, rfl, hp, Bool.eq_false_iff.2 hunheld, rfl⟩

/-! ### Answers to changes of one policy -/

theorem yields_create_drawn (hfree : s.contents.holds (drawnId a.draws) = false) :
    Yields (answer (.create tenant draft actor)) s a fun answer _ _ =>
      match s.contents.refusal draft with
      | some e => answer = .error e
      | none => ∃ p, answer = .ok p ∧
          draft.toPolicy (drawnId a.draws) tenant actor a.clock = .ok p := by
  refine .bind ((yields_insert_drawn hfree).mono ?_)
  rintro answer s₁ a₁ ⟨_, hanswer⟩
  cases hrefusal : s.contents.refusal draft with
  | some e =>
    rw [hrefusal] at hanswer
    obtain ⟨rfl, _⟩ := hanswer
    rfl
  | none =>
    rw [hrefusal] at hanswer
    obtain ⟨p, rfl, hp, _⟩ := hanswer
    exact ⟨p, rfl, hp⟩

theorem yields_update_clock {id : PolicyId} {patch : PolicyPatch} :
    Yields (answer (.update tenant id patch actor)) s a fun answer _ _ =>
      answer = .ok ((s.contents.owned tenant id).map fun p =>
        if patch.isEmpty then p else p.applyPatch patch actor a.clock) := by
  refine .bind (.get_bind ?_)
  cases s.contents.owned tenant id with
  | none => exact rfl
  | some p =>
    dsimp only
    split
    · exact rfl
    · exact .now_bind fun _ _ _ => rfl

theorem yields_delete_isSome {id : PolicyId} :
    Yields (answer (.delete tenant id actor)) s a fun answer _ _ =>
      answer = .ok (s.contents.owned tenant id).isSome := by
  refine .bind (.get_bind ?_)
  cases s.contents.owned tenant id with
  | none => exact rfl
  | some p => exact rfl

/-! ### Imports -/

section Import

variable {mode : ImportMode} {asked : List PolicyId} {limit : Nat}

theorem yields_replace_outcome {p : Policy} {refusal : Option StoreError} (hs : s.contents.Indexed)
    (hnamed : s.contents.named tenant draft.name = some p)
    (hnew : s.contents.DrawsNew asked a.draws limit) :
    Yields (replace p draft actor) s a fun outcome s' a' =>
      outcome = draft.outcome .overwrite (some p.tier) refusal ∧
      s.contents.Gains tenant asked draft outcome s'.contents ∧
      s'.contents.DrawsNew asked a'.draws limit ∧ a'.draws ≤ a.draws + 2 := by
  obtain ⟨hmem, hname⟩ := StoreContents.of_named hnamed
  have howned := hs.mem_ownedBy.1 hmem
  have hget := (StoreContents.owned_eq_some.1 howned).1
  refine .get_bind ?_
  simp only [hget]
  split
  · rename_i hsystem
    refine .pure ⟨?_, .refl rfl, hnew, Nat.le_add_right _ _⟩
    exact (if_pos (of_decide_eq_true hsystem)).symm
  · rename_i hsystem
    refine .now_bind fun a₁ _ hdraws => .bind (.modify (.bind ?_))
    refine (yields_record_draws _ _ _).mono ?_
    rintro _ s' a' ⟨hpolicies, hle, hdraws'⟩
    rw [hdraws] at hle hdraws'
    have hpolicies : s'.contents.policies =
        (s.contents.keep (p.overwrite draft actor a.clock)).policies := hpolicies
    have hfits : (StoreEdit.change p (p.overwrite draft actor a.clock)).Fits tenant s.contents :=
      ⟨howned, p.succeeds_overwrite draft actor a.clock⟩
    refine .pure ⟨?_, ?_, ?_, by omega⟩
    · exact (if_neg fun h => hsystem (decide_eq_true h)).symm
    · exact (StoreContents.Gains.keep_updated hfits hname.symm).of_policies_eq hpolicies
    · -- The policy keeps an identifier that it held before, so it is none of the new ones.
      refine (hnew.keep hle fun n hlimit hn hsame => ?_).of_policies_eq (Nat.le_refl _) hpolicies
      have hfree := hnew.free n hlimit (hle.trans hn)
      rw [← hsame, StoreContents.holds_eq_false] at hfree
      exact absurd (hget.symm.trans hfree) (Option.some_ne_none _)

theorem yields_importOne_outcome (tenant : TenantId) (mode : ImportMode) (actor : String)
    (hs : s.contents.Indexed)
    (hnew : s.contents.DrawsNew asked a.draws limit) (hroom : a.draws < limit)
    (hasked : ∀ id, draft.id = some id → id ∈ asked) :
    Yields (importOne tenant mode actor draft) s a fun outcome s' a' =>
      outcome =
        draft.outcome mode (s.contents.tierOf tenant draft.name) (s.contents.refusal draft) ∧
      s.contents.Gains tenant asked draft outcome s'.contents ∧
      s'.contents.DrawsNew asked a'.draws limit ∧ a'.draws ≤ a.draws + 2 := by
  refine .get_bind ?_
  rw [StoreContents.tierOf]
  cases hnamed : s.contents.named tenant draft.name with
  | some p =>
    cases mode with
    | skip => exact ⟨rfl, .refl rfl, hnew, Nat.le_add_right _ _⟩
    | error => exact ⟨rfl, .refl rfl, hnew, Nat.le_add_right _ _⟩
    | overwrite => exact yields_replace_outcome hs hnamed hnew
  | none =>
    -- Of the two numbers that a draft draws, the first is for its policy, the second for a revision.
    have hfree := hnew.free a.draws hroom (Nat.le_refl _)
    refine .bind ((yields_insert_drawn hfree).mono ?_)
    rintro answer s₁ a₁ ⟨hdraws, hanswer⟩
    cases hrefusal : s.contents.refusal draft with
    | some e =>
      rw [hrefusal] at hanswer
      obtain ⟨rfl, rfl⟩ := hanswer
      refine .pure ⟨rfl, .refl rfl, hnew.of_policies_eq ?_ rfl, ?_⟩ <;> omega
    | none =>
      rw [hrefusal] at hanswer
      obtain ⟨p, rfl, hp, hunheld, rfl⟩ := hanswer
      refine .bind ((yields_record_draws _ _ _).mono ?_)
      rintro _ s' a' ⟨hpolicies, hle, hdraws'⟩
      have hid := PolicyDraft.id_of_toPolicy hp
      refine .pure ⟨rfl, ?_, ?_, by omega⟩
      · exact (StoreContents.Gains.keep_created (hnew.unasked _ hroom (Nat.le_refl _)) hp
          hunheld).of_policies_eq hpolicies
      · -- The numbers left are neither the one just drawn nor what the draft has asked for.
        refine (hnew.keep (by omega) fun n hlimit hn => ?_).of_policies_eq hle hpolicies
        rw [hid]
        cases hchosen : draft.id with
        | none => exact hnew.distinct n hlimit _ (by omega) (Nat.le_refl _)
        | some id =>
          rintro rfl
          exact hnew.unasked n hlimit (by omega) (hasked _ hchosen)

/-- Imports that look at the same come out the same. -/
theorem importEach_eq (mode : ImportMode) (actor : String) {s' : MemoryStore} {a' : Ambient}
    {limit' : Nat} {drafts : List PolicyDraft}
    (hasked : ∀ draft ∈ drafts, ∀ id, draft.id = some id → id ∈ asked)
    (hs : s.contents.Indexed) (hs' : s'.contents.Indexed)
    (hseen : s.contents.SeenAlike tenant asked s'.contents)
    (hnew : s.contents.DrawsNew asked a.draws limit) (hroom : a.draws + 2 * drafts.length ≤ limit)
    (hnew' : s'.contents.DrawsNew asked a'.draws limit')
    (hroom' : a'.draws + 2 * drafts.length ≤ limit') :
    ((importEach tenant mode actor drafts).run s a).1.1 =
      ((importEach tenant mode actor drafts).run s' a').1.1 := by
  induction drafts generalizing s s' a a' with
  | nil => rfl
  | cons draft rest ih =>
    rw [List.length_cons] at hroom hroom'
    obtain ⟨hdraft, hrest⟩ := List.forall_mem_cons.1 hasked
    obtain ⟨houtcome, hgains, hnext, hdraws⟩ :=
      yields_importOne_outcome tenant mode actor hs hnew (by omega) hdraft
    obtain ⟨houtcome', hgains', hnext', hdraws'⟩ :=
      yields_importOne_outcome tenant mode actor hs' hnew' (by omega) hdraft
    have hindexed {s : MemoryStore} (hs : s.contents.Indexed) (a : Ambient) :
        ((importOne tenant mode actor draft).run s a).1.2.contents.Indexed := by
      obtain ⟨_, _, hperforms⟩ : Yields (importOne tenant mode actor draft) s a _ :=
        yields_importOne hs
      exact hperforms.indexed hs
    -- The same becomes of the first draft in both stores, which look alike again after it.
    rw [← hseen.tiers, ← hseen.refusal_eq hdraft, ← houtcome] at houtcome'
    rw [houtcome'] at hgains'
    have hothers := ih hrest (hindexed hs a) (hindexed hs' a')
      (hseen.gains hgains hgains') hnext (by omega) hnext' (by omega)
    exact congrArg₂ List.cons houtcome'.symm hothers

theorem importAll_eq (mode : ImportMode) (actor : String) {s' : MemoryStore} {a' : Ambient}
    {limit' : Nat} {drafts : List PolicyDraft}
    (hasked : ∀ draft ∈ drafts, ∀ id, draft.id = some id → id ∈ asked)
    (hs : s.contents.Indexed) (hs' : s'.contents.Indexed)
    (hcommits : s.rejectsCommits = s'.rejectsCommits)
    (hseen : s.contents.SeenAlike tenant asked s'.contents)
    (hnew : s.contents.DrawsNew asked a.draws limit) (hroom : a.draws + 2 * drafts.length ≤ limit)
    (hnew' : s'.contents.DrawsNew asked a'.draws limit')
    (hroom' : a'.draws + 2 * drafts.length ≤ limit') :
    ((importAll tenant drafts mode actor).run s a).1.1 =
      ((importAll tenant drafts mode actor).run s' a').1.1 := by
  have houtcomes := importEach_eq mode actor hasked hs hs' hseen hnew hroom
    hnew' hroom'
  have hanswer (s : MemoryStore) (a : Ambient) :
      ((importAll tenant drafts mode actor).run s a).1.1 =
        if s.rejectsCommits then .error (.transaction "commit rejected")
        else .ok (.ofOutcomes ((importEach tenant mode actor drafts).run s a).1.1) := by
    have hrun : Yields (importAll tenant drafts mode actor) s a fun answer _ _ => answer =
        if s.rejectsCommits then .error (.transaction "commit rejected")
        else .ok (.ofOutcomes ((importEach tenant mode actor drafts).run s a).1.1) := by
      refine .get_bind (.bind ?_)
      rw [Yields]
      split <;> rfl
    exact hrun
  rw [hanswer, hanswer, hcommits, houtcomes]

end Import

end MemoryStore

end Governance
