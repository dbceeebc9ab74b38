import Governance.Proofs.Store.Likeness
import Governance.Proofs.Store.Runs

/-!
# An import is one transaction of independent drafts

Later drafts of an import meet the store as the earlier ones have left it. A draft that fails has left
nothing, so the others do not notice whether it was there: the import without it takes the same steps,
with other identifiers and at other times. The proof runs both imports side by side. They stay twins:
each step is taken by both, or it is a failure that only one of them has, and then its store is as it was.
-/

namespace Governance

/-- What is drawn from one number up to another is new, and no history is kept under it. -/
structure StoreContents.DrawsUnused (s : StoreContents) (asked : List PolicyId)
    (draws limit : Nat) : Prop extends s.DrawsNew asked draws limit where
  unrecorded : ∀ n < limit, draws ≤ n → s.history (drawnId n) = []

theorem Likeness.policies_of_toPolicy {l : Likeness} {draft : PolicyDraft} {x y : PolicyId}
    {tenant : TenantId} {actor : String} {now now' : Instant} {p p' : Policy}
    (hp : draft.toPolicy x tenant actor now = .ok p)
    (hp' : draft.toPolicy y tenant actor now' = .ok p')
    (hid : l.ids (draft.id.getD x) = draft.id.getD y) (hnow : l.since.le now)
    (hnow' : l.since'.le now') : l.Policies p p' := by
  obtain ⟨kind, hkind, rfl⟩ := PolicyDraft.eq_of_toPolicy hp
  obtain ⟨kind', hkind', rfl⟩ := PolicyDraft.eq_of_toPolicy hp'
  obtain rfl : kind = kind' := Option.some.inj (hkind.symm.trans hkind')
  exact ⟨hid.symm, rfl, .inr ⟨hnow, hnow'⟩, .inr ⟨hnow, hnow'⟩⟩

/-- A draft that comes to the same outcome in stores that are alike leaves them alike. -/
theorem PolicyDraft.Becomes.alike {l : Likeness} {draft : PolicyDraft} {tenant : TenantId}
    {actor : String} {s s' s₁ s₁' : MemoryStore} {a a' : Ambient} {outcome : ImportOutcome}
    (hcontents : l.Contents s.contents s'.contents)
    (hloses : s'.losesRevisions = s.losesRevisions)
    (hid : l.ids (draft.id.getD (drawnId a.draws)) = draft.id.getD (drawnId a'.draws))
    (hclock : l.since.le a.clock) (hclock' : l.since'.le a'.clock)
    (hbecomes : draft.Becomes tenant actor s a outcome s₁)
    (hbecomes' : draft.Becomes tenant actor s' a' outcome s₁') :
    l.Contents s₁.contents s₁'.contents ∧ s₁'.losesRevisions = s₁.losesRevisions := by
  have hafter {r r' : Revision} (halike : l.Revisions r r') :
      l.Contents (s.after r).contents (s'.after r').contents ∧
        (s'.after r').losesRevisions = (s.after r).losesRevisions := by
    refine ⟨hcontents.after hloses halike, ?_⟩
    rw [MemoryStore.losesRevisions_after, MemoryStore.losesRevisions_after, hloses]
  cases hbecomes with
  | created hp htime =>
    obtain ⟨hp', htime'⟩ := hbecomes'
    have halike := Likeness.policies_of_toPolicy hp hp' hid hclock hclock'
    exact hafter (halike.capture _ _ _ _ _ (Instant.le_trans hclock htime)
      (Instant.le_trans hclock' htime'))
  | updated hnamed hnext htime =>
    obtain _ | ⟨hnamed', hnext', htime'⟩ := hbecomes'
    have hfound := hcontents.named tenant draft.name
    rw [hnamed, hnamed'] at hfound
    obtain ⟨halike⟩ := hfound
    have hnew := halike.overwrite draft actor hclock hclock'
    rw [← hnext, ← hnext'] at hnew
    rw [hnew.version_eq]
    exact hafter (hnew.capture _ _ _ _ _ (Instant.le_trans hclock htime)
      (Instant.le_trans hclock' htime'))
  | skipped =>
    cases hbecomes'
    exact ⟨hcontents, hloses⟩
  | failed =>
    cases hbecomes'
    exact ⟨hcontents, hloses⟩

namespace MemoryStore

variable {asked : List PolicyId} {drawn : PolicyId → Prop} {limit limit' : Nat} {l : Likeness}
  {s s' s₁ s₁' : MemoryStore} {a a' a₁ a₁' : Ambient} {tenant : TenantId} {mode : ImportMode}
  {actor : String} {draft : PolicyDraft} {outcome outcome' : ImportOutcome}

/-! ### One import -/

/-- A store and surroundings in which an import can go on: whatever it draws up to a limit is unused,
and it has begun at an instant that the clock has passed. -/
structure Poised (asked : List PolicyId) (drawn : PolicyId → Prop) (since : Instant) (limit : Nat)
    (s : MemoryStore) (a : Ambient) : Prop where
  indexed : s.contents.Indexed
  filed : s.contents.Filed
  unused : s.contents.DrawsUnused asked a.draws limit
  within : ∀ n < limit, a.draws ≤ n → drawn (drawnId n)
  clock : since.le a.clock

/-- The outcome of a draft is determined, the store becomes what it says, and the import can go on. -/
structure Handled (asked : List PolicyId) (drawn : PolicyId → Prop) (since : Instant) (limit : Nat)
    (tenant : TenantId) (mode : ImportMode) (actor : String) (draft : PolicyDraft)
    (s : MemoryStore) (a : Ambient) (result : ImportOutcome) (s₁ : MemoryStore) (a₁ : Ambient) :
    Prop where
  outcome : result =
    draft.outcome mode (s.contents.tierOf tenant draft.name) (s.contents.refusal draft)
  becomes : draft.Becomes tenant actor s a result s₁
  poised : s₁.Poised asked drawn since limit a₁
  draws : a₁.draws ≤ a.draws + 2

theorem Poised.handled {since : Instant} (hpoised : s.Poised asked drawn since limit a)
    (hroom : a.draws < limit) (hasked : ∀ id, draft.id = some id → id ∈ asked)
    (hrun : (importOne tenant mode actor draft).run s a = ((outcome, s₁), a₁)) :
    Handled asked drawn since limit tenant mode actor draft s a outcome s₁ a₁ := by
  have hdetermined := yields_importOne_outcome tenant mode actor hpoised.indexed
    hpoised.unused.toDrawsNew hroom hasked
  have hbecomes := yields_importOne_becomes (a := a) tenant mode actor draft hpoised.indexed
  have hensured : Acting.Ensures (importOne tenant mode actor draft) s _ :=
    ensures_importOne hpoised.indexed (List.mem_singleton.2 (Eq.refl draft))
  have hmakes := hensured a
  rw [Acting.Yields, hrun] at hdetermined hbecomes
  rw [hrun] at hmakes
  obtain ⟨houtcome, _, hnew, hdraws⟩ := hdetermined
  obtain ⟨hbecomes, hclock, hle⟩ := hbecomes
  refine ⟨houtcome, hbecomes, ⟨hmakes.indexed hpoised.indexed,
    hmakes.filed hpoised.indexed hpoised.filed, ⟨hnew, ?_⟩, ?_, ?_⟩, hdraws⟩
  · intro n hlimit hn
    have hbefore := hpoised.unused.unrecorded n hlimit (hle.trans hn)
    have hunheld := hnew.free n hlimit hn
    -- What the draft has left is held, and so it is not filed under a number that is still new.
    have hleft (r : Revision) (hr : r.policy = r.snapshot.id)
        (hheld : (s.after r).contents.holds (drawnId n) = false) :
        (s.after r).contents.history (drawnId n) = [] := by
      have hother : r.policy ≠ drawnId n := by
        intro hsame
        rw [StoreContents.holds, policies_after, ← StoreContents.holds, StoreContents.holds_keep,
          ← hr, hsame] at hheld
        simp at hheld
      rw [history_after_of_ne s hother, hbefore]
    cases hbecomes with
    | created => exact hleft _ rfl hunheld
    | updated => exact hleft _ rfl hunheld
    | skipped => exact hbefore
    | failed => exact hbefore
  · exact fun n hlimit hn => hpoised.within n hlimit (hle.trans hn)
  · exact Instant.le_trans hpoised.clock hclock

/-! ### Two imports side by side -/

/-- Two imports that have taken the same steps so far. Only what they have drawn tells their stores
apart. -/
structure Twins (asked : List PolicyId) (drawn : PolicyId → Prop) (limit limit' : Nat)
    (l : Likeness) (s : MemoryStore) (a : Ambient) (s' : MemoryStore) (a' : Ambient) : Prop where
  left : s.Poised asked drawn l.since limit a
  right : s'.Poised asked drawn l.since' limit' a'
  contents : l.Contents s.contents s'.contents
  loses : s'.losesRevisions = s.losesRevisions
  fixed : ∀ id ∈ asked, l.ids id = id
  moved : ∀ id, l.ids id ≠ id → drawn id

namespace Twins

/-- Both draw an identifier for a draft: if it does not ask for one, each uses what it has drawn. -/
theorem draw (htwins : Twins asked drawn limit limit' l s a s' a') (hroom : a.draws < limit)
    (hroom' : a'.draws < limit') (hasked : ∀ id, draft.id = some id → id ∈ asked) :
    ∃ l' : Likeness, l'.Continues l ∧ Twins asked drawn limit limit' l' s a s' a' ∧
      l'.ids (draft.id.getD (drawnId a.draws)) = draft.id.getD (drawnId a'.draws) := by
  obtain ⟨hleft, hright, hcontents, hloses, hfixed, hmoved⟩ := htwins
  cases hid : draft.id with
  | some id =>
    exact ⟨l, .refl l, ⟨hleft, hright, hcontents, hloses, hfixed, hmoved⟩, hfixed id (hasked id hid)⟩
  | none =>
    have hunasked := hleft.unused.unasked a.draws hroom (Nat.le_refl _)
    have hunasked' := hright.unused.unasked a'.draws hroom' (Nat.le_refl _)
    refine ⟨l.exchange (drawnId a.draws) (drawnId a'.draws), ⟨rfl, rfl⟩,
      ⟨hleft, hright, ?_, hloses, ?_, ?_⟩, l.exchange_self _ _⟩
    · exact hcontents.exchange hleft.indexed hright.indexed hleft.filed
        (hleft.unused.free _ hroom (Nat.le_refl _))
        (hleft.unused.unrecorded _ hroom (Nat.le_refl _))
        (hright.unused.free _ hroom' (Nat.le_refl _))
        (hright.unused.unrecorded _ hroom' (Nat.le_refl _))
    · intro id hmem
      have hother : id ≠ drawnId a.draws := fun h => hunasked (h ▸ hmem)
      have hother' : l.ids id ≠ drawnId a'.draws := by
        rw [hfixed id hmem]
        exact fun h => hunasked' (h ▸ hmem)
      rw [Likeness.exchange_of_ne hother hother', hfixed id hmem]
    · intro id hid
      rcases Likeness.moved_of_exchange hid with rfl | rfl | hbefore
      · exact hleft.within _ hroom (Nat.le_refl _)
      · exact hright.within _ hroom' (Nat.le_refl _)
      · exact hmoved id hbefore

/-- A draft has the same outcome in both, and they stay twins. -/
theorem next (htwins : Twins asked drawn limit limit' l s a s' a') (hroom : a.draws < limit)
    (hroom' : a'.draws < limit') (hasked : ∀ id, draft.id = some id → id ∈ asked)
    (hrun : (importOne tenant mode actor draft).run s a = ((outcome, s₁), a₁))
    (hrun' : (importOne tenant mode actor draft).run s' a' = ((outcome', s₁'), a₁')) :
    outcome' = outcome ∧ ∃ l' : Likeness, l'.Continues l ∧
      Twins asked drawn limit limit' l' s₁ a₁ s₁' a₁' := by
  obtain ⟨houtcome, hbecomes, hleft, _⟩ := htwins.left.handled hroom hasked hrun
  obtain ⟨houtcome', hbecomes', hright, _⟩ := htwins.right.handled hroom' hasked hrun'
  have hseen := htwins.contents.seenAlike tenant htwins.fixed
  rw [← hseen.tiers, ← hseen.refusal_eq hasked, ← houtcome] at houtcome'
  obtain ⟨l', hcontinues, hdrawn, hid⟩ := htwins.draw hroom hroom' hasked
  rw [houtcome'] at hbecomes'
  obtain ⟨hcontents, hloses⟩ := PolicyDraft.Becomes.alike hdrawn.contents hdrawn.loses hid
    hdrawn.left.clock hdrawn.right.clock hbecomes hbecomes'
  refine ⟨houtcome', l', hcontinues, ?_, ?_, hcontents, hloses, hdrawn.fixed, hdrawn.moved⟩
  · rw [hcontinues.since]
    exact hleft
  · rw [hcontinues.since']
    exact hright

/-- The import that has a draft more, which fails, leaves its store as it was. -/
theorem next_failed (htwins : Twins asked drawn limit limit' l s a s' a')
    (hroom : a.draws < limit) (hasked : ∀ id, draft.id = some id → id ∈ asked)
    (hrun : (importOne tenant mode actor draft).run s a = ((outcome, s₁), a₁))
    (houtcome : outcome.isFailed) : Twins asked drawn limit limit' l s₁ a₁ s' a' := by
  obtain ⟨_, hbecomes, hleft, _⟩ := htwins.left.handled hroom hasked hrun
  obtain rfl := hbecomes.eq_of_failed houtcome
  exact ⟨hleft, htwins.right, htwins.contents, htwins.loses, htwins.fixed, htwins.moved⟩

theorem run {drafts : List PolicyDraft} {outcomes outcomes' : List ImportOutcome}
    (htwins : Twins asked drawn limit limit' l s a s' a')
    (hasked : ∀ draft ∈ drafts, ∀ id, draft.id = some id → id ∈ asked)
    (hrun : (importEach tenant mode actor drafts).run s a = ((outcomes, s₁), a₁))
    (hroom : a.draws + 2 * drafts.length ≤ limit)
    (hrun' : (importEach tenant mode actor (survivors drafts outcomes)).run s' a' =
      ((outcomes', s₁'), a₁'))
    (hroom' : a'.draws + 2 * (survivors drafts outcomes).length ≤ limit') :
    outcomes' = outcomes.filter (fun o => !o.isFailed) ∧ ∃ l' : Likeness, l'.Continues l ∧
      Twins asked drawn limit limit' l' s₁ a₁ s₁' a₁' := by
  -- On the drafts of the longer import: where one fails it goes on alone, else both take a step.
  induction drafts generalizing l s a s' a' outcomes outcomes' with
  | nil =>
    cases hrun
    cases hrun'
    exact ⟨rfl, l, .refl l, htwins⟩
  | cons draft rest ih =>
    obtain ⟨hdraft, hrest⟩ := List.forall_mem_cons.1 hasked
    rw [List.length_cons] at hroom
    obtain ⟨⟨⟨outcome, t⟩, b⟩, hfirst⟩ :
        ∃ r, (importOne tenant mode actor draft).run s a = r := ⟨_, rfl⟩
    obtain ⟨⟨⟨others, t₁⟩, b₁⟩, hothers⟩ :
        ∃ r, (importEach tenant mode actor rest).run t b = r := ⟨_, rfl⟩
    have hdraws := (htwins.left.handled (by omega) hdraft hfirst).draws
    rw [importEach_cons hfirst hothers] at hrun
    cases hrun
    cases houtcome : outcome.isFailed with
    | true =>
      rw [survivors, if_pos houtcome] at hrun' hroom'
      rw [List.filter_cons_of_neg (by simp [houtcome])]
      exact ih (htwins.next_failed (by omega) hdraft hfirst houtcome) hrest hothers (by omega)
        hrun' hroom'
    | false =>
      rw [survivors, if_neg (by simp [houtcome])] at hrun' hroom'
      rw [List.length_cons] at hroom'
      obtain ⟨⟨⟨outcome', t'⟩, b'⟩, hfirst'⟩ :
          ∃ r, (importOne tenant mode actor draft).run s' a' = r := ⟨_, rfl⟩
      obtain ⟨⟨⟨others', t₁'⟩, b₁'⟩, hothers'⟩ :
          ∃ r, (importEach tenant mode actor (survivors rest others)).run t' b' = r :=
        ⟨_, rfl⟩
      have hdraws' := (htwins.right.handled (by omega) hdraft hfirst').draws
      rw [importEach_cons hfirst' hothers'] at hrun'
      cases hrun'
      obtain ⟨rfl, l₁, hcontinues, htwins₁⟩ :=
        htwins.next (by omega) (by omega) hdraft hfirst hfirst'
      obtain ⟨rfl, l', hcontinues', htwins'⟩ :=
        ih htwins₁ hrest hothers (by omega) hothers' (by omega)
      rw [List.filter_cons_of_pos (by simp [houtcome])]
      exact ⟨rfl, l', hcontinues'.trans hcontinues, htwins'⟩

end Twins

/-- The identifiers drawn from one number up to another. -/
def DrawnBetween (draws limit : Nat) (id : PolicyId) : Prop :=
  ∃ n < limit, draws ≤ n ∧ id = drawnId n

/-- An import of the drafts that do not fail, begun in the same store, ends in one that is alike. -/
theorem importEach_survivors (tenant : TenantId) (mode : ImportMode) (actor : String)
    (hs : s.Reachable) {drafts : List PolicyDraft}
    (hnew : s.contents.DrawsUnused (drafts.filterMap (·.id)) a.draws (a.draws + 2 * drafts.length))
    (hnew' : s.contents.DrawsUnused (drafts.filterMap (·.id)) a'.draws
      (a'.draws + 2 * drafts.length)) :
    let outcomes := s.importOutcomes a tenant mode actor drafts
    let others := survivors drafts outcomes
    s.importOutcomes a' tenant mode actor others = outcomes.filter (fun o => !o.isFailed) ∧
    ∃ l : Likeness, l.since = a.clock ∧ l.since' = a'.clock ∧
      (∀ id, l.ids id ≠ id → DrawnBetween a.draws (a.draws + 2 * drafts.length) id ∨
        DrawnBetween a'.draws (a'.draws + 2 * drafts.length) id) ∧
      l.Contents ((importEach tenant mode actor drafts).run s a).1.2.contents
        ((importEach tenant mode actor others).run s a').1.2.contents := by
  intro outcomes others
  let drawn (id : PolicyId) : Prop := DrawnBetween a.draws (a.draws + 2 * drafts.length) id ∨
    DrawnBetween a'.draws (a'.draws + 2 * drafts.length) id
  have hasked : ∀ draft ∈ drafts, ∀ id, draft.id = some id → id ∈ drafts.filterMap (·.id) :=
    fun draft hdraft id hid => List.mem_filterMap.2 ⟨draft, hdraft, hid⟩
  have hfewer : others.length ≤ drafts.length := length_survivors_le drafts outcomes
  have hstart : Twins (drafts.filterMap (·.id)) drawn (a.draws + 2 * drafts.length)
      (a'.draws + 2 * drafts.length) ⟨.refl _, a.clock, a'.clock⟩ s a s a' := by
    refine ⟨⟨hs.indexed, hs.filed, hnew, ?_, Instant.le_refl _⟩,
      ⟨hs.indexed, hs.filed, hnew', ?_, Instant.le_refl _⟩,
      Likeness.contents_refl a.clock a'.clock s.contents, rfl, fun _ _ => rfl,
      fun id hid => absurd rfl hid⟩
    · exact fun n hlimit hn => .inl ⟨n, hlimit, hn, rfl⟩
    · exact fun n hlimit hn => .inr ⟨n, hlimit, hn, rfl⟩
  obtain ⟨houtcomes, l, hcontinues, hend⟩ :=
    hstart.run hasked rfl (Nat.le_refl _) rfl
      (Nat.add_le_add_left (Nat.mul_le_mul_left 2 hfewer) _)
  exact ⟨houtcomes, l, hcontinues.since, hcontinues.since', hend.moved, hend.contents⟩

/-- An import that is not committed changes nothing. Otherwise every draft is counted once, as many
policies come in as the report says, nothing goes, and the drafts that fail leave no trace: without
them the import ends alike, as long as the identifiers that are drawn are new. -/
theorem import_is_transaction (hs : s.Reachable) (tenant : TenantId) (mode : ImportMode)
    (actor : String) (drafts : List PolicyDraft) (a : Ambient) :
    let imported := ((importAll tenant drafts mode actor).run s a).1
    let outcomes := s.importOutcomes a tenant mode actor drafts
    (s.rejectsCommits = true → imported = (.error (.transaction "commit rejected"), s)) ∧
    (s.rejectsCommits = false → ∃ report, imported.1 = .ok report ∧
      report = .ofOutcomes outcomes ∧
      report.created + report.updated + report.skipped + report.errors.length = drafts.length ∧
      (imported.2.contents.ownedBy tenant).length =
        (s.contents.ownedBy tenant).length + report.created ∧
      imported.2.contents.Retains s.contents ∧
      ∀ a' : Ambient,
        s.contents.DrawsUnused (drafts.filterMap (·.id)) a.draws (a.draws + 2 * drafts.length) →
        s.contents.DrawsUnused (drafts.filterMap (·.id)) a'.draws
          (a'.draws + 2 * drafts.length) →
        let again := ((importAll tenant (survivors drafts outcomes) mode actor).run s a').1
        again.1 = .ok { report with errors := [] } ∧
        ∃ l : Likeness, l.since = a.clock ∧ l.since' = a'.clock ∧
          (∀ id, l.ids id ≠ id → DrawnBetween a.draws (a.draws + 2 * drafts.length) id ∨
            DrawnBetween a'.draws (a'.draws + 2 * drafts.length) id) ∧
          l.Contents imported.2.contents again.2.contents) := by
  intro imported outcomes
  have hrun : imported = _ := importAll_run s a tenant mode actor drafts
  refine ⟨fun hrejects => hrun.trans (if_pos hrejects), fun hcommits => ?_⟩
  rw [if_neg (by simp [hcommits])] at hrun
  have hmakes : (StoreCall.importAll tenant drafts mode actor).Makes
      (ImportReport.ofOutcomes outcomes).created s imported.2 := by
    have hensured : Acting.Ensures (importAll tenant drafts mode actor) s _ :=
      ensures_importAll hs.indexed
    have hanswer : ((importAll tenant drafts mode actor).run s a).1.1 = _ := congrArg Prod.fst hrun
    have hmade := hensured a
    rw [hanswer] at hmade
    exact hmade
  refine ⟨_, congrArg Prod.fst hrun, rfl, ?_, (hmakes.of_import hs.indexed).1,
    hmakes.retains hs.indexed, ?_⟩
  · exact (ImportReport.total_ofOutcomes outcomes).trans (length_importOutcomes s a drafts)
  · intro a' hnew hnew' again
    have hagain : again = _ := importAll_run s a' tenant mode actor (survivors drafts outcomes)
    rw [if_neg (by simp [hcommits])] at hagain
    obtain ⟨houtcomes, hlikeness⟩ := importEach_survivors tenant mode actor hs hnew hnew'
    rw [hagain, hrun]
    refine ⟨?_, hlikeness⟩
    rw [houtcomes, ImportReport.ofOutcomes_filter]
    rfl

/-! ### An import with drafts that fail -/

/-- A store with one policy and its history. -/
def startedStore : MemoryStore :=
  ((answer (.create ⟨"acme"⟩ chosenDraft "alice")).run empty .initial).1.2

/-- Of these drafts the second is of no known kind, and the last asks for an identifier that is
taken. -/
def mixedDrafts : List PolicyDraft :=
  [{ PolicyDraft.named "no secrets" .content with enabled := false },
    { PolicyDraft.named "no weather" .content with kind := "weather" },
    PolicyDraft.named "no passwords" .content,
    { PolicyDraft.named "no names" .content with id := some ⟨"p1"⟩ }]

/-- Surroundings in which three numbers have been drawn. -/
def laterAmbient : Ambient := ⟨⟨1900000000, 0⟩, 3, []⟩

theorem mixedDrafts_without_trace :
    startedStore.Reachable ∧ startedStore.rejectsCommits = false ∧
    startedStore.contents.DrawsUnused [⟨"p1"⟩] 3 11 ∧
    let imported := ((importAll ⟨"acme"⟩ mixedDrafts .overwrite "alice").run startedStore
      laterAmbient).1
    let again := ((importAll ⟨"acme"⟩ [mixedDrafts[0], mixedDrafts[2]] .overwrite "alice").run
      startedStore laterAmbient).1
    again.1 = .ok ⟨1, 1, 0, []⟩ ∧ ∃ l : Likeness, l.Contents imported.2.contents again.2.contents := by
  have hs : startedStore.Reachable := Reachable.empty.answer _ _
  have hnew : startedStore.contents.DrawsUnused [⟨"p1"⟩] 3 11 :=
    ⟨⟨by decide +kernel, by decide +kernel, by decide +kernel⟩, by decide +kernel⟩
  refine ⟨hs, rfl, hnew, ?_⟩
  obtain ⟨report, hreport, _, _, _, _, hagain⟩ :=
    (import_is_transaction hs ⟨"acme"⟩ .overwrite "alice" mixedDrafts laterAmbient).2 rfl
  have hcounts : report = ⟨1, 1, 0, report.errors⟩ := by
    cases hreport
    rfl
  obtain ⟨hanswer, l, _, _, _, hcontents⟩ := hagain laterAmbient hnew hnew
  rw [hcounts] at hanswer
  exact ⟨hanswer, l, hcontents⟩

end MemoryStore

end Governance
