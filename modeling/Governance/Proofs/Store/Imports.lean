import Governance.Proofs.Store.Edits
import Governance.Proofs.Store.Outlook

/-!
# Imports

What an import makes of its drafts, and what it leaves for a second import of the same drafts.
-/

namespace Governance

/-!
## What becomes of the drafts of an import

A draft that is created or updated leaves one policy and one revision behind, which shows the policy as
it was left; a draft that is skipped or fails leaves the store exactly as it was. `yields_importOne_becomes`
says so of one draft, down to the identifier and the times that are drawn for it. Policies are never
removed by an import and histories only grow at their ends; the report counts every draft once.
-/

open Acting (Ensures Yields)

/-! ### Outcomes and their report -/

def ImportOutcome.isFailed : ImportOutcome → Bool
  | .failed .. => true
  | _ => false

/-- The drafts that did not fail. -/
def survivors : List PolicyDraft → List ImportOutcome → List PolicyDraft
  | draft :: drafts, outcome :: outcomes =>
    if outcome.isFailed then survivors drafts outcomes else draft :: survivors drafts outcomes
  | _, _ => []

theorem length_survivors_le (drafts : List PolicyDraft) (outcomes : List ImportOutcome) :
    (survivors drafts outcomes).length ≤ drafts.length := by
  induction drafts generalizing outcomes with
  | nil => exact Nat.le_refl _
  | cons draft rest ih =>
    cases outcomes with
    | nil => exact Nat.zero_le _
    | cons outcome others =>
      rw [survivors]
      have hrest := ih others
      split
      · exact hrest.trans (Nat.le_succ _)
      · exact Nat.succ_le_succ hrest

namespace ImportReport

variable {outcome : ImportOutcome} {outcomes : List ImportOutcome}

def total (r : ImportReport) : Nat := r.created + r.updated + r.skipped + r.errors.length

def flawless (r : ImportReport) : ImportReport := { r with errors := [] }

theorem total_record (r : ImportReport) (outcome : ImportOutcome) :
    (r.record outcome).total = r.total + 1 := by
  cases outcome with
  | failed name message =>
    simp only [record, total, List.length_append, List.length_singleton]
    omega
  | _ =>
    simp only [record, total]
    omega

theorem total_ofOutcomes (outcomes : List ImportOutcome) :
    (ofOutcomes outcomes).total = outcomes.length := by
  suffices h : ∀ r : ImportReport, (outcomes.foldl record r).total = r.total + outcomes.length by
    exact (h empty).trans (Nat.zero_add _)
  induction outcomes with
  | nil => exact fun _ => rfl
  | cons outcome rest ih =>
    intro r
    rw [List.foldl_cons, ih, total_record, List.length_cons]
    omega

theorem flawless_record (r : ImportReport) (houtcome : outcome.isFailed = false) :
    (r.record outcome).flawless = r.flawless.record outcome := by
  cases outcome with
  | failed => cases houtcome
  | _ => rfl

theorem flawless_record_of_failed (r : ImportReport) (houtcome : outcome.isFailed) :
    (r.record outcome).flawless = r.flawless := by
  cases outcome with
  | failed => rfl
  | _ => cases houtcome

/-- Without the drafts that failed the report is the same but for its errors. -/
theorem ofOutcomes_filter (outcomes : List ImportOutcome) :
    ofOutcomes (outcomes.filter fun o => !o.isFailed) = (ofOutcomes outcomes).flawless := by
  suffices h : ∀ r : ImportReport,
      (outcomes.filter fun o => !o.isFailed).foldl record r.flawless =
        (outcomes.foldl record r).flawless from h empty
  induction outcomes with
  | nil => exact fun _ => rfl
  | cons outcome rest ih =>
    intro r
    rw [List.foldl_cons, ← ih (r.record outcome)]
    cases houtcome : outcome.isFailed with
    | false =>
      rw [List.filter_cons_of_pos (by simp [houtcome]), List.foldl_cons, flawless_record r houtcome]
    | true =>
      rw [List.filter_cons_of_neg (by simp [houtcome]), flawless_record_of_failed r houtcome]

end ImportReport

/-! ### What an import leaves of what there was -/

namespace StoreContents

variable {s s' s'' : StoreContents} {tenant : TenantId} {e : StoreEdit}

/-- Every revision is kept under the identifier of the policy that it shows. -/
def Filed (s : StoreContents) : Prop :=
  ∀ id, ∀ r ∈ s.history id, r.policy = id ∧ r.snapshot.id = id

/-- Every policy is still there, in its later state, and histories have only grown. -/
structure Retains (s' s : StoreContents) : Prop where
  policies : ∀ id p, s.policies.get? id = some p →
    ∃ q, s'.policies.get? id = some q ∧ q.Succeeds p
  histories : ∀ id, s.history id <+: s'.history id

theorem Filed.edit (hfiled : s.Filed) (hs : s.Indexed) (hfits : e.Fits tenant s) :
    (s.edit e).Filed := by
  cases e with
  | record r =>
    intro id r' hr'
    have hhistory : (s.edit (.record r)).history id =
        if r.policy = id then s.history r.policy ++ [r] else s.history id := history_append _ _ _
    rw [hhistory] at hr'
    split at hr'
    · rename_i hid
      rw [hid] at hr'
      rcases List.mem_append.1 hr' with hold | hnew
      · exact hfiled id r' hold
      · obtain rfl := List.mem_singleton.1 hnew
        exact ⟨hid, (hs.id_of_owned hfits).trans hid⟩
    · exact hfiled id r' hr'
  | _ => exact hfiled

namespace Retains

theorem refl (s : StoreContents) : s.Retains s :=
  ⟨fun _ p hp => ⟨p, hp, rfl, rfl, rfl⟩, fun _ => List.prefix_rfl⟩

theorem trans (hfirst : s'.Retains s) (hsecond : s''.Retains s') : s''.Retains s := by
  refine ⟨fun id p hp => ?_, fun id => (hfirst.histories id).trans (hsecond.histories id)⟩
  obtain ⟨q, hq, hnext⟩ := hfirst.policies id p hp
  obtain ⟨r, hr, hlast⟩ := hsecond.policies id q hq
  exact ⟨r, hr, hlast.id.trans hnext.id, hlast.tenant.trans hnext.tenant,
    hlast.tier.trans hnext.tier⟩

/-- What takes the place of a policy is a later state of it. -/
theorem keep {p : Policy}
    (hplace : ∀ old, s.policies.get? p.id = some old → p.Succeeds old) :
    (s.keep p).Retains s := by
  refine ⟨fun id old hold => ?_, fun _ => List.prefix_rfl⟩
  have hget : (s.keep p).policies.get? id = if p.id = id then some p else s.policies.get? id :=
    Keyed.get?_put _ _ _ _
  by_cases hid : p.id = id
  · subst hid
    exact ⟨p, hget.trans (if_pos rfl), hplace old hold⟩
  · exact ⟨old, (hget.trans (if_neg hid)).trans hold, rfl, rfl, rfl⟩

theorem append (s : StoreContents) (r : Revision) : (s.append r.policy r).Retains s := by
  refine ⟨fun _ p hp => ⟨p, hp, rfl, rfl, rfl⟩, fun id => ?_⟩
  rw [history_append]
  split
  · rename_i hid
    subst hid
    exact List.prefix_append _ _
  · exact List.prefix_rfl

end Retains

/-- No edit of an import takes anything away. -/
theorem retains_import {drafts : List PolicyDraft} {mode : ImportMode} {actor : String}
    (hfits : e.Fits tenant s)
    (hpermits : (StoreCall.importAll tenant drafts mode actor).Permits s e) :
    (s.edit e).Retains s := by
  cases e with
  | add p =>
    refine .keep fun old hold => ?_
    rw [hfits.1] at hold
    cases hold
  | change old new =>
    obtain ⟨howned, hsucceeds⟩ := hfits
    refine .keep fun other hother => ?_
    rw [hsucceeds.id, (owned_eq_some.1 howned).1] at hother
    exact Option.some.inj hother ▸ hsucceeds
  | remove old => cases hpermits
  | record r => exact .append s r

end StoreContents

namespace StoreCall.Makes

variable {c : StoreCall} {s s' : MemoryStore} {added : Nat}

theorem filed (hmakes : c.Makes added s s') (hs : s.contents.Indexed) (hfiled : s.contents.Filed) :
    s'.contents.Filed :=
  hmakes.keeps (fun _ _ ht hfits _ hbefore => hbefore.edit ht hfits) hs hfiled

theorem retains {tenant : TenantId} {drafts : List PolicyDraft} {mode : ImportMode}
    {actor : String} (hmakes : (StoreCall.importAll tenant drafts mode actor).Makes added s s')
    (hs : s.contents.Indexed) : s'.contents.Retains s.contents := by
  refine hmakes.keeps (P := fun t => t.Retains s.contents) ?_ hs (.refl _)
  intro t e _ hfits hpermits hbefore
  exact hbefore.trans (StoreContents.retains_import hfits hpermits)

end StoreCall.Makes

namespace MemoryStore

variable {s : MemoryStore} {a : Ambient} {tenant : TenantId} {actor : String} {draft : PolicyDraft}
  {mode : ImportMode}

theorem Reachable.filed (hs : s.Reachable) : s.contents.Filed := by
  induction hs with
  | empty => exact fun _ _ hr => absurd hr List.not_mem_nil
  | seed _ p ih => exact ih
  | answer hs c a ih =>
    obtain ⟨_, hmakes⟩ := ensures_answer hs.indexed c a
    exact hmakes.filed hs.indexed ih
  | switch _ _ _ ih => exact ih

/-! ### One draft -/

/-- The store after a change of which a revision tells: the policy is kept as the revision shows it,
and the revision is recorded unless revisions are lost. -/
def after (s : MemoryStore) (r : Revision) : MemoryStore :=
  if s.losesRevisions then { s with contents := s.contents.keep r.snapshot }
  else { s with contents := (s.contents.keep r.snapshot).append r.policy r }

theorem policies_after (s : MemoryStore) (r : Revision) :
    (s.after r).contents.policies = (s.contents.keep r.snapshot).policies := by
  unfold after
  split <;> rfl

theorem losesRevisions_after (s : MemoryStore) (r : Revision) :
    (s.after r).losesRevisions = s.losesRevisions := by
  unfold after
  split <;> rfl

theorem history_after_of_ne (s : MemoryStore) {r : Revision} {id : PolicyId} (hid : r.policy ≠ id) :
    (s.after r).contents.history id = s.contents.history id := by
  unfold after
  split
  · rfl
  · exact (StoreContents.history_append _ _ _).trans (if_neg hid)

end MemoryStore

/-- What becomes of a store with the outcome of a draft. A policy that comes in has the identifier that
its draft asks for, or else the one that is drawn. -/
inductive PolicyDraft.Becomes (draft : PolicyDraft) (tenant : TenantId) (actor : String)
    (s : MemoryStore) (a : Ambient) : ImportOutcome → MemoryStore → Prop
  | created {p : Policy} {id : Uuid} {time : Instant}
      (hp : draft.toPolicy (drawnId a.draws) tenant actor a.clock = .ok p)
      (htime : a.clock.le time) :
      Becomes draft tenant actor s a (.created draft.name)
        (s.after (.capture id time p .create importSummary actor))
  | updated {p next : Policy} {id : Uuid} {time : Instant}
      (hnamed : s.contents.named tenant draft.name = some p)
      (hnext : next = p.overwrite draft actor a.clock) (htime : a.clock.le time) :
      Becomes draft tenant actor s a (.updated draft.name)
        (s.after (.capture id time next .update (changeSummary .update next.version) actor))
  | skipped : Becomes draft tenant actor s a (.skipped draft.name) s
  | failed (message : String) : Becomes draft tenant actor s a (.failed draft.name message) s

theorem PolicyDraft.Becomes.eq_of_failed {s s' : MemoryStore} {a : Ambient} {tenant : TenantId}
    {actor : String} {draft : PolicyDraft} {outcome : ImportOutcome}
    (hbecomes : draft.Becomes tenant actor s a outcome s') (houtcome : outcome.isFailed) :
    s' = s := by
  cases hbecomes with
  | failed => rfl
  | _ => cases houtcome

namespace MemoryStore

variable {s : MemoryStore} {a : Ambient} {tenant : TenantId} {actor : String} {draft : PolicyDraft}
  {mode : ImportMode}

theorem yields_keep_record (p : Policy) (kind : ChangeKind) (summary : String) :
    Yields (record p kind summary actor) { s with contents := s.contents.keep p } a
      fun _ s' a' => (∃ id time, a.clock.le time ∧
        s' = s.after (.capture id time p kind summary actor)) ∧
      a.clock.le a'.clock ∧ a.draws ≤ a'.draws := by
  refine .get_bind ?_
  by_cases hloses : s.losesRevisions
  · simp only [if_pos hloses]
    refine ⟨⟨⟨0⟩, a.clock, Instant.le_refl _, ?_⟩, Instant.le_refl _, Nat.le_refl _⟩
    rw [after, if_pos hloses]
    rfl
  · simp only [if_neg hloses]
    refine .uuid_bind fun a₁ hclock hdraws => .now_bind fun a' hlater hsame => .modify ?_
    rw [hclock] at hlater ⊢
    refine ⟨⟨.ofRandom a.draws, a.clock, Instant.le_refl _, ?_⟩, Instant.le_of_lt hlater, by omega⟩
    rw [after, if_neg hloses]
    rfl

theorem yields_replace_becomes {p : Policy} (hs : s.contents.Indexed)
    (hnamed : s.contents.named tenant draft.name = some p) :
    Yields (replace p draft actor) s a fun outcome s' a' =>
      draft.Becomes tenant actor s a outcome s' ∧ a.clock.le a'.clock ∧ a.draws ≤ a'.draws := by
  have hget := (StoreContents.owned_eq_some.1
    (hs.mem_ownedBy.1 (StoreContents.of_named hnamed).1)).1
  refine .get_bind ?_
  simp only [hget]
  split
  · exact ⟨.failed _, Instant.le_refl _, Nat.le_refl _⟩
  · refine .now_bind fun a₁ hlater hdraws => .bind (.modify (.bind ?_))
    have hfirst := Instant.le_of_lt hlater
    refine (yields_keep_record (s := s) _ _ _).mono ?_
    rintro _ s' a' ⟨⟨id, time, htime, rfl⟩, hclock, hdraws'⟩
    refine .pure ⟨.updated hnamed rfl (Instant.le_trans hfirst htime), ?_, by omega⟩
    exact Instant.le_trans hfirst hclock

theorem yields_importOne_becomes (tenant : TenantId) (mode : ImportMode) (actor : String)
    (draft : PolicyDraft) (hs : s.contents.Indexed) :
    Yields (importOne tenant mode actor draft) s a fun outcome s' a' =>
      draft.Becomes tenant actor s a outcome s' ∧ a.clock.le a'.clock ∧ a.draws ≤ a'.draws := by
  refine .get_bind ?_
  cases hnamed : s.contents.named tenant draft.name with
  | some p =>
    cases mode with
    | skip => exact ⟨.skipped, Instant.le_refl _, Nat.le_refl _⟩
    | error => exact ⟨.failed _, Instant.le_refl _, Nat.le_refl _⟩
    | overwrite => exact yields_replace_becomes hs hnamed
  | none =>
    refine .bind (.identifier_bind fun a₁ hsame hdraws => .now_bind fun a₂ hlater hdraws' => ?_)
    rw [hsame] at hlater ⊢
    have hclock := Instant.le_of_lt hlater
    have hle : a.draws ≤ a₂.draws := by omega
    split
    · exact ⟨.failed _, hclock, hle⟩
    · rename_i p hp
      refine .get_bind ?_
      split
      · exact ⟨.failed _, hclock, hle⟩
      · refine .bind (.modify (.pure (.bind ((yields_keep_record (s := s) p _ _).mono ?_))))
        rintro _ s' a' ⟨⟨id, time, htime, rfl⟩, hclock', hdraws''⟩
        refine .pure ⟨.created hp (Instant.le_trans hclock htime), ?_, by omega⟩
        exact Instant.le_trans hclock hclock'

/-! ### All drafts -/

/-- What became of the drafts of an import. -/
def importOutcomes (s : MemoryStore) (a : Ambient) (tenant : TenantId) (mode : ImportMode)
    (actor : String) (drafts : List PolicyDraft) : List ImportOutcome :=
  ((importEach tenant mode actor drafts).run s a).1.1

theorem importEach_cons {rest : List PolicyDraft} {outcome : ImportOutcome}
    {outcomes : List ImportOutcome} {s₁ s' : MemoryStore} {a₁ a' : Ambient}
    (hfirst : (importOne tenant mode actor draft).run s a = ((outcome, s₁), a₁))
    (hrest : (importEach tenant mode actor rest).run s₁ a₁ = ((outcomes, s'), a')) :
    (importEach tenant mode actor (draft :: rest)).run s a = ((outcome :: outcomes, s'), a') := by
  rw [importEach, Acting.run_bind hfirst, Acting.run_bind hrest]
  rfl

theorem length_importOutcomes (s : MemoryStore) (a : Ambient) (drafts : List PolicyDraft) :
    (s.importOutcomes a tenant mode actor drafts).length = drafts.length := by
  suffices h : ∀ s : MemoryStore, Acting.Ensures (importEach tenant mode actor drafts) s
      fun outcomes _ => outcomes.length = drafts.length from h s a
  induction drafts with
  | nil => exact fun _ => .pure rfl
  | cons draft rest ih =>
    intro s
    refine .bind fun _ => .bind ((ih _).mono fun outcomes _ hlength => .pure ?_)
    rw [List.length_cons, List.length_cons, hlength]

/-- An import that is not committed leaves nothing behind. -/
theorem importAll_run (s : MemoryStore) (a : Ambient) (tenant : TenantId) (mode : ImportMode)
    (actor : String) (drafts : List PolicyDraft) :
    ((importAll tenant drafts mode actor).run s a).1 =
      if s.rejectsCommits then (.error (.transaction "commit rejected"), s)
      else (.ok (.ofOutcomes (s.importOutcomes a tenant mode actor drafts)),
        ((importEach tenant mode actor drafts).run s a).1.2) := by
  have hrun : Yields (importAll tenant drafts mode actor) s a fun answer s' _ => (answer, s') =
      if s.rejectsCommits then (.error (.transaction "commit rejected"), s)
      else (.ok (.ofOutcomes (s.importOutcomes a tenant mode actor drafts)),
        ((importEach tenant mode actor drafts).run s a).1.2) := by
    refine .get_bind (.bind ?_)
    rw [Yields]
    split <;> rfl
  exact hrun

end MemoryStore

/-!
## Drafts that an import has settled

After an import every draft is settled: the tenant has a policy of its name, or the draft is refused for
a reason that stays, because policies are never removed by an import. It does not matter which draft of
the import brought the policy in, nor whether the names or the identifiers of the drafts occur twice. For
a draft that is settled, an import that leaves taken names alone does nothing.
-/

def ImportOutcome.isIdle : ImportOutcome → Bool
  | .skipped _ | .failed .. => true
  | _ => false

theorem ImportReport.idle_ofOutcomes {outcomes : List ImportOutcome}
    (hidle : ∀ outcome ∈ outcomes, outcome.isIdle) :
    (ofOutcomes outcomes).created = 0 ∧ (ofOutcomes outcomes).updated = 0 := by
  suffices h : ∀ r : ImportReport, (outcomes.foldl record r).created = r.created ∧
      (outcomes.foldl record r).updated = r.updated from h empty
  induction outcomes with
  | nil => exact fun _ => ⟨rfl, rfl⟩
  | cons outcome rest ih =>
    intro r
    obtain ⟨houtcome, hrest⟩ := List.forall_mem_cons.1 hidle
    obtain ⟨hcreated, hupdated⟩ := ih hrest (r.record outcome)
    rw [List.foldl_cons, hcreated, hupdated]
    cases outcome with
    | created | updated => cases houtcome
    | skipped | failed => exact ⟨rfl, rfl⟩

namespace StoreContents

variable {s s' : StoreContents} {tenant : TenantId} {asked : List PolicyId} {draft other : PolicyDraft}
  {outcome : ImportOutcome}

/-- The name of a draft is taken, or the draft is refused whatever is drawn for it. -/
def Settled (s : StoreContents) (tenant : TenantId) (draft : PolicyDraft) : Prop :=
  s.tierOf tenant draft.name ≠ none ∨ s.refusal draft ≠ none

theorem Gains.tierOf_ne_none (hgains : Gains tenant asked other outcome s s') {name : String}
    (hname : s.tierOf tenant name ≠ none) : s'.tierOf tenant name ≠ none := by
  obtain ⟨tier, htier⟩ := Option.ne_none_iff_exists'.1 hname
  rw [hgains.tiers, htier, Option.some_or]
  exact Option.some_ne_none tier

theorem Gains.refusal_ne_none (hgains : Gains tenant asked other outcome s s')
    (hasked : ∀ id, draft.id = some id → id ∈ asked) (hrefused : s.refusal draft ≠ none) :
    s'.refusal draft ≠ none := by
  unfold refusal at hrefused ⊢
  split
  · exact Option.some_ne_none _
  · rename_i hkind
    rw [hkind] at hrefused
    cases hid : draft.id with
    | none => rw [hid] at hrefused; exact absurd rfl hrefused
    | some id =>
      rw [hid] at hrefused
      have hheld : s.holds id = true := by
        by_contra hfree
        exact hrefused (if_neg hfree)
      have hstill : s'.holds id = true := by
        rw [hgains.holds id (hasked id hid), hheld, Bool.true_or]
      rw [Option.bind_some, collision, if_pos hstill]
      exact Option.some_ne_none _

theorem Settled.gains (hsettled : s.Settled tenant draft)
    (hasked : ∀ id, draft.id = some id → id ∈ asked)
    (hgains : Gains tenant asked other outcome s s') : s'.Settled tenant draft :=
  hsettled.imp hgains.tierOf_ne_none (hgains.refusal_ne_none hasked)

/-- Whatever comes of a draft, it is settled then. -/
theorem Gains.settled {mode : ImportMode} (hgains : Gains tenant asked draft outcome s s')
    (hasked : ∀ id, draft.id = some id → id ∈ asked)
    (houtcome : outcome = draft.outcome mode (s.tierOf tenant draft.name) (s.refusal draft)) :
    s'.Settled tenant draft := by
  by_cases hbefore : s.Settled tenant draft
  · exact hbefore.gains hasked hgains
  · obtain ⟨hname, hrefusal⟩ := not_or.1 hbefore
    rw [not_not] at hname hrefusal
    have hcreated : outcome.isCreated = true := by
      rw [houtcome, hname, hrefusal]
      rfl
    left
    rw [hgains.tiers, hname, if_pos ⟨hcreated, rfl⟩]
    exact Option.some_ne_none _

end StoreContents

namespace MemoryStore

variable {s : MemoryStore} {a : Ambient} {tenant : TenantId} {mode : ImportMode} {actor : String}
  {draft : PolicyDraft} {drafts : List PolicyDraft}

/-! ### The first import -/

/-- An import settles its drafts, and what was settled stays so. -/
theorem yields_importEach_settled {asked : List PolicyId} {limit : Nat} (hs : s.contents.Indexed)
    (hasked : ∀ draft ∈ drafts, ∀ id, draft.id = some id → id ∈ asked)
    (hnew : s.contents.DrawsNew asked a.draws limit) (hroom : a.draws + 2 * drafts.length ≤ limit)
    (hdraft : ∀ id, draft.id = some id → id ∈ asked)
    (hsettled : draft ∈ drafts ∨ s.contents.Settled tenant draft) :
    Yields (importEach tenant mode actor drafts) s a fun _ s' _ =>
      s'.contents.Settled tenant draft := by
  induction drafts generalizing s a with
  | nil => exact hsettled.resolve_left List.not_mem_nil
  | cons first rest ih =>
    obtain ⟨hfirst, hrest⟩ := List.forall_mem_cons.1 hasked
    rw [List.length_cons] at hroom
    have hone : Yields (importOne tenant mode actor first) s a fun outcome s' a' =>
        s'.contents.Indexed ∧ outcome = first.outcome mode (s.contents.tierOf tenant first.name)
          (s.contents.refusal first) ∧
        s.contents.Gains tenant asked first outcome s'.contents ∧
        s'.contents.DrawsNew asked a'.draws limit ∧ a'.draws ≤ a.draws + 2 := by
      obtain ⟨_, _, hperforms⟩ : Yields (importOne tenant mode actor first) s a _ :=
        yields_importOne hs
      exact ⟨hperforms.indexed hs,
        yields_importOne_outcome tenant mode actor hs hnew (by omega) hfirst⟩
    refine .bind (hone.mono ?_)
    rintro outcome s₁ a₁ ⟨hindexed, houtcome, hgains, hnext, hdraws⟩
    refine .bind (ih hindexed hrest hnext (by omega) ?_)
    rcases hsettled with hmem | hbefore
    · rcases List.mem_cons.1 hmem with rfl | hlater
      · exact .inr (hgains.settled hfirst houtcome)
      · exact .inl hlater
    · exact .inr (hbefore.gains hdraft hgains)

theorem importAll_committed {asked : List PolicyId} {limit : Nat} (hs : s.contents.Indexed)
    (hasked : ∀ draft ∈ drafts, ∀ id, draft.id = some id → id ∈ asked)
    (hnew : s.contents.DrawsNew asked a.draws limit) (hroom : a.draws + 2 * drafts.length ≤ limit)
    {report : ImportReport} {s' : MemoryStore}
    (himport : ((importAll tenant drafts mode actor).run s a).1 = (.ok report, s')) :
    s'.rejectsCommits = false ∧
      (StoreCall.importAll tenant drafts mode actor).Makes report.created s s' ∧
      ∀ draft ∈ drafts, s'.contents.Settled tenant draft := by
  have hensured : Ensures (importAll tenant drafts mode actor) s _ := ensures_importAll hs
  have hmakes := hensured a
  rw [himport] at hmakes
  rw [importAll_run] at himport
  split at himport
  · cases himport
  · rename_i hcommits
    cases himport
    refine ⟨?_, hmakes, fun draft hdraft => ?_⟩
    · obtain ⟨edits, _, hedited, _⟩ := hmakes
      rw [hedited]
      exact Bool.eq_false_iff.2 hcommits
    · exact yields_importEach_settled hs hasked hnew hroom (hasked draft hdraft) (.inl hdraft)

/-! ### The second import -/

theorem ensures_insert_refused (hrefused : s.contents.refusal draft ≠ none) :
    Ensures (insert tenant draft actor) s fun answer s' => (∃ e, answer = .error e) ∧ s' = s := by
  refine .lift_bind fun fresh => .lift_bind fun now => ?_
  split
  · exact .pure ⟨⟨_, rfl⟩, rfl⟩
  · rename_i p hp
    refine .get_bind ?_
    split
    · exact .pure ⟨⟨_, rfl⟩, rfl⟩
    · -- The kind is known, so the draft has asked for an identifier that is held.
      rename_i hfree
      have hid := PolicyDraft.id_of_toPolicy hp
      obtain ⟨kind, hkind, _⟩ := PolicyDraft.eq_of_toPolicy hp
      refine absurd ?_ hrefused
      rw [StoreContents.refusal, hkind]
      cases hchosen : draft.id with
      | none => rfl
      | some id =>
        rw [hchosen, Option.getD_some] at hid
        rw [hid] at hfree
        exact if_neg hfree

/-- An import that leaves taken names alone does nothing for a draft that is settled. -/
theorem ensures_importOne_settled (hmode : mode ≠ .overwrite)
    (hsettled : s.contents.Settled tenant draft) :
    Ensures (importOne tenant mode actor draft) s fun outcome s' => outcome.isIdle ∧ s' = s := by
  refine .get_bind ?_
  cases hnamed : s.contents.named tenant draft.name with
  | some p =>
    cases mode with
    | skip => exact .pure ⟨rfl, rfl⟩
    | error => exact .pure ⟨rfl, rfl⟩
    | overwrite => exact absurd rfl hmode
  | none =>
    have hrefused : s.contents.refusal draft ≠ none := by
      refine hsettled.resolve_left ?_
      rw [StoreContents.tierOf, hnamed, not_not]
      rfl
    refine .bind ((ensures_insert_refused hrefused).mono ?_)
    rintro answer s' ⟨⟨e, rfl⟩, rfl⟩
    exact .pure ⟨rfl, rfl⟩

theorem ensures_importEach_settled (hmode : mode ≠ .overwrite)
    (hsettled : ∀ draft ∈ drafts, s.contents.Settled tenant draft) :
    Ensures (importEach tenant mode actor drafts) s fun outcomes s' =>
      (∀ outcome ∈ outcomes, outcome.isIdle) ∧ s' = s := by
  induction drafts with
  | nil => exact .pure ⟨fun _ h => absurd h List.not_mem_nil, rfl⟩
  | cons draft rest ih =>
    obtain ⟨hdraft, hrest⟩ := List.forall_mem_cons.1 hsettled
    refine .bind ((ensures_importOne_settled hmode hdraft).mono ?_)
    rintro outcome _ ⟨hidle, rfl⟩
    refine .bind ((ih hrest).mono ?_)
    rintro outcomes _ ⟨hothers, rfl⟩
    exact .pure ⟨List.forall_mem_cons.2 ⟨hidle, hothers⟩, rfl⟩

end MemoryStore

end Governance
