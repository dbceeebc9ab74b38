import Mathlib.Data.List.Nodup
import Governance.Proofs.Store.Isolation
import Governance.Proofs.Store.Lifetimes

/-!
# The order in which revisions are listed

The revisions of a policy are listed by their versions, and by their times only where two versions are
the same. The clock goes on from one revision to the next, so the list has the newest revision first
just when versions never go down while they are recorded. Within a life they go up. When an identifier
is used again they start from one again, and then a creation that was recorded last may be listed last.
-/

namespace Governance

namespace StoreContents

variable {a b c : Revision}

theorem isLater_iff : isLater a b ↔ b.version.toInt < a.version.toInt ∨
    a.version.toInt = b.version.toInt ∧ b.changedAt.le a.changedAt := by
  simp [isLater, Int32.lt_iff_toInt_lt, Int32.toInt_inj]

theorem isLater_total (a b : Revision) : isLater a b || isLater b a := by
  rw [Bool.or_eq_true, isLater_iff, isLater_iff]
  rcases Instant.le_total a.changedAt b.changedAt with h | h <;> simp only [h, and_true] <;> omega

theorem isLater_trans (a b c : Revision) (hab : isLater a b) (hbc : isLater b c) : isLater a c := by
  rw [isLater_iff] at hab hbc ⊢
  rcases hab with hab | ⟨hab, htime⟩ <;> rcases hbc with hbc | ⟨hbc, htime'⟩
  · exact .inl (by omega)
  · exact .inl (by omega)
  · exact .inl (by omega)
  · exact .inr ⟨by omega, Instant.le_trans htime' htime⟩

theorem changedAt_eq_of_isLater (hab : isLater a b) (hba : isLater b a) :
    a.changedAt = b.changedAt := by
  rw [isLater_iff] at hab hba
  rcases hab with hab | ⟨hab, htime⟩ <;> rcases hba with hba | ⟨hba, htime'⟩
  · omega
  · omega
  · omega
  · exact Instant.le_antisymm htime' htime

end StoreContents

/-- Every revision was recorded after those that come later in the list. -/
def NewestFirst (revisions : List Revision) : Prop :=
  revisions.Pairwise fun r r' => r'.changedAt.lt r.changedAt

/-! ### Sorting what was recorded -/

namespace StoreContents

variable {s : StoreContents} {tenant : TenantId} {id : PolicyId}

theorem revisions_perm (s : StoreContents) (tenant : TenantId) (id : PolicyId) :
    (s.revisions tenant id).Perm (s.recorded tenant id) :=
  List.mergeSort_perm _ _

theorem sorted_revisions (s : StoreContents) (tenant : TenantId) (id : PolicyId) :
    (s.revisions tenant id).Pairwise fun r r' => isLater r r' :=
  List.pairwise_mergeSort isLater_trans isLater_total _

/-- What is listed newest first is what was recorded, the other way round. -/
theorem newestFirst_iff_eq_reverse
    (hincreasing : (s.recorded tenant id).Pairwise fun r r' => r.changedAt.lt r'.changedAt) :
    NewestFirst (s.revisions tenant id) ↔
      s.revisions tenant id = (s.recorded tenant id).reverse := by
  have hreverse : NewestFirst (s.recorded tenant id).reverse := List.pairwise_reverse.2 hincreasing
  constructor
  · intro hnewest
    refine List.Perm.eq_of_pairwise ?_ hnewest hreverse
      ((revisions_perm s tenant id).trans (List.reverse_perm _).symm)
    exact fun r r' _ _ hafter hbefore =>
      absurd (Instant.le_of_lt hbefore) (Instant.not_le_of_lt hafter)
  · intro heq
    rwa [heq]

/-- The revisions are listed newest first just when their versions never went down. -/
theorem newestFirst_revisions_iff
    (hincreasing : (s.recorded tenant id).Pairwise fun r r' => r.changedAt.lt r'.changedAt) :
    NewestFirst (s.revisions tenant id) ↔
      (s.recorded tenant id).Pairwise fun r r' => r.version ≤ r'.version := by
  rw [newestFirst_iff_eq_reverse hincreasing]
  constructor
  · intro heq
    have hsorted := sorted_revisions s tenant id
    rw [heq, List.pairwise_reverse] at hsorted
    refine hsorted.imp fun hlater => ?_
    rw [isLater_iff] at hlater
    rw [Int32.le_iff_toInt_le]
    omega
  · intro hversions
    have hsorted : (s.recorded tenant id).reverse.Pairwise fun r r' => isLater r r' := by
      rw [List.pairwise_reverse]
      refine (hversions.and hincreasing).imp fun ⟨hversion, htime⟩ => ?_
      rw [Int32.le_iff_toInt_le] at hversion
      rcases Int.lt_or_eq_of_le hversion with hless | hsame
      · exact isLater_iff.2 (.inl hless)
      · exact isLater_iff.2 (.inr ⟨hsame.symm, Instant.le_of_lt htime⟩)
    -- No two revisions were recorded at the same time, so the order is one on all of them.
    have htimes : ((s.recorded tenant id).map (·.changedAt)).Nodup :=
      List.pairwise_map.2 (hincreasing.imp Instant.ne_of_lt)
    refine List.Perm.eq_of_pairwise ?_ (sorted_revisions s tenant id) hsorted
      ((revisions_perm s tenant id).trans (List.reverse_perm _).symm)
    intro r r' hr hr' hlater hlater'
    exact List.inj_on_of_nodup_map htimes ((revisions_perm s tenant id).mem_iff.1 hr)
      (List.mem_reverse.1 hr') (changedAt_eq_of_isLater hlater hlater')

end StoreContents

/-! ### Times along a run -/

theorem Dated.filter {start finish : Instant} {revisions : List Revision}
    (h : Dated start revisions finish) (q : Revision → Bool) :
    Dated start (revisions.filter q) finish :=
  ⟨h.order, fun r hr => h.within r (List.mem_of_mem_filter hr), h.increasing.filter q⟩

namespace MemoryStore

variable {s : MemoryStore} {turns : List StoreTurn} {start : Instant}

/-- The clock goes only forward: every call of a run finds it where the calls before have left it, or
later. -/
def Advances (s : MemoryStore) (start : Instant) : List StoreTurn → Prop
  | [] => True
  | .call c a :: rest => start.le a.clock ∧
      Advances (s.take (.call c a)) ((answer c).run s a).2.clock rest
  | .switch losesRevisions rejectsCommits :: rest =>
      Advances (s.take (.switch losesRevisions rejectsCommits)) start rest

theorem dated_play {first : Instant} (hs : s.contents.Indexed)
    (hdated : ∀ id, Dated first (s.contents.history id) start)
    (hadvances : s.Advances start turns) :
    ∃ finish, ∀ id, Dated first ((s.play turns).contents.history id) finish := by
  induction turns generalizing s start with
  | nil => exact ⟨start, hdated⟩
  | cons turn rest ih =>
    cases turn with
    | call c a =>
      obtain ⟨hclock, hrest⟩ := hadvances
      obtain ⟨deeds, _, hperforms⟩ := yields_answer (a := a) hs c
      refine ih (hperforms.indexed hs) (fun id => ?_) hrest
      rw [take, hperforms.records.histories]
      exact (hdated id).append ((hperforms.records.dated.filter _).of_le hclock)
    | switch losesRevisions rejectsCommits => exact ih hs hdated hadvances

end MemoryStore

theorem le_add_one_of_le {version next : Int32} (hle : version ≤ next)
    (hroom : next < Int32.maxValue) : version ≤ next + 1 := by
  rw [Int32.le_iff_toInt_le] at hle ⊢
  rw [toInt_add_one hroom]
  omega

namespace Deed

variable {id : PolicyId} {first live : Option Policy} {deeds : List Deed} {tenant : TenantId}

/-- The revisions of a tale that show policies of a tenant. -/
def shown (tenant : TenantId) (deeds : List Deed) : List Revision :=
  (deeds.map revision).filter fun r => r.snapshot.tenant = tenant

theorem shown_concat {d : Deed} (htenant : d.revision.snapshot.tenant = tenant) :
    shown tenant (deeds ++ [d]) = shown tenant deeds ++ [d.revision] := by
  simp [shown, htenant]

theorem shown_concat_of_ne {d : Deed} (htenant : d.revision.snapshot.tenant ≠ tenant) :
    shown tenant (deeds ++ [d]) = shown tenant deeds := by
  simp [shown, htenant]

/-- As long as a tenant's policy is not created anew, versions do not go down, and a policy that there
is now has the last of them. -/
theorem Tale.versions_increase (htale : Tale id first deeds live)
    (hroom : ∀ r ∈ shown tenant deeds, r.version < Int32.maxValue)
    (honce : ∀ r ∈ (shown tenant deeds).tail, r.change ≠ .create) :
    ((shown tenant deeds).Pairwise fun r r' => r.version ≤ r'.version) ∧
    ∀ p, live = some p → p.tenant = tenant →
      ∀ r ∈ shown tenant deeds, r.version ≤ p.version ∧ p.version < Int32.maxValue := by
  induction htale with
  | start => exact ⟨.nil, fun _ _ _ _ hr => absurd hr List.not_mem_nil⟩
  | @next deeds before d htale _ hfollows htells ih =>
    have hsub : (shown tenant deeds).Sublist (shown tenant (deeds ++ [d])) :=
      ((List.sublist_append_left deeds [d]).map revision).filter _
    obtain ⟨hversions, hlive⟩ := ih (fun r hr => hroom r (hsub.subset hr))
      fun r hr => honce r (hsub.tail.subset hr)
    by_cases htenant : d.revision.snapshot.tenant = tenant
    · rw [shown_concat htenant] at hroom honce ⊢
      have hbelow : ∀ r ∈ shown tenant deeds, r.version ≤ d.revision.version := by
        rw [htells.version]
        cases d with
        | create created =>
          -- It would be created anew if anything of the tenant had been recorded before.
          intro r hr
          refine absurd htells.change (honce _ ?_)
          rw [List.tail_append_of_ne_nil (List.ne_nil_of_mem hr)]
          exact List.mem_append_right _ List.mem_cons_self
        | patch old new | overwrite old new =>
          obtain ⟨rfl, hsucceeds, hversion⟩ := hfollows
          intro r hr
          obtain ⟨hle, hlast⟩ := hlive old rfl (hsucceeds.tenant.symm.trans htenant) r hr
          exact hversion ▸ le_add_one_of_le hle hlast
        | delete last => exact fun r hr => (hlive _ hfollows htenant r hr).1
      refine ⟨List.pairwise_append.2 ⟨hversions, List.pairwise_singleton _ _, ?_⟩, ?_⟩
      · intro r hr r' hr'
        rw [List.mem_singleton.1 hr']
        exact hbelow r hr
      · intro p hleft _ r hr
        rw [← snapshot_eq_of_left hleft, ← htells.version]
        refine ⟨?_, hroom _ (List.mem_append_right _ List.mem_cons_self)⟩
        rcases List.mem_append.1 hr with hold | hnew
        · exact hbelow r hold
        · rw [List.mem_singleton.1 hnew]
          exact Int32.le_refl _
    · rw [shown_concat_of_ne htenant]
      refine ⟨hversions, fun p hleft hp => absurd ?_ htenant⟩
      rwa [snapshot_eq_of_left hleft]

end Deed

namespace MemoryStore

variable {s : MemoryStore} {turns : List StoreTurn} {start : Instant}

/-- The revisions of a tenant under an identifier are all listed, and they are listed newest first just
when their versions never went down. That is so where none is lost and the policy was created once. -/
theorem newestFirst_iff_versions_increase (hs : s.contents.Indexed)
    (hnew : ∀ id, s.contents.history id = []) (hadvances : s.Advances start turns)
    (tenant : TenantId) (id : PolicyId) :
    let contents := (s.play turns).contents
    (contents.revisions tenant id).Perm (contents.recorded tenant id) ∧
    (NewestFirst (contents.revisions tenant id) ↔
      (contents.recorded tenant id).Pairwise fun r r' => r.version ≤ r'.version) ∧
    (s.losesRevisions = false → (∀ turn ∈ turns, turn.Keeps) →
      (∀ r ∈ contents.recorded tenant id, r.version < Int32.maxValue) →
      (∀ r ∈ (contents.recorded tenant id).tail, r.change ≠ .create) →
      NewestFirst (contents.revisions tenant id)) := by
  intro contents
  have hempty (id : PolicyId) : Dated start (s.contents.history id) start := by
    rw [hnew]
    exact .nil (Instant.le_refl _)
  obtain ⟨_, hdated⟩ := dated_play hs hempty hadvances
  have hincreasing : (contents.recorded tenant id).Pairwise fun r r' =>
      r.changedAt.lt r'.changedAt := ((hdated id).filter _).increasing
  have hiff := StoreContents.newestFirst_revisions_iff hincreasing
  refine ⟨StoreContents.revisions_perm _ _ _, hiff, fun hkeeps hturns hroom honce => hiff.2 ?_⟩
  obtain ⟨deeds, haccounts⟩ := accounts_play hs hkeeps hturns id
  have hshown : contents.recorded tenant id = Deed.shown tenant deeds := by
    rw [StoreContents.recorded, haccounts.history, hnew, List.nil_append, Deed.shown]
  rw [hshown] at hroom honce ⊢
  exact (haccounts.tale.versions_increase hroom honce).1

/-! ### Deleted and created again -/

/-- Surroundings so many seconds after the first of January 2030. -/
def afterSeconds (n : Nat) : Ambient := ⟨⟨1893456000 + n, 0⟩, n, []⟩

/-- A policy is created, changed and deleted. -/
def endingTurns : List StoreTurn :=
  [.call (.create ⟨"acme"⟩ chosenDraft "alice") (afterSeconds 0),
    .call (.update ⟨"acme"⟩ ⟨"p1"⟩ ⟨none, none, none, none, none, some 5, none, none, none⟩ "alice")
      (afterSeconds 10),
    .call (.delete ⟨"acme"⟩ ⟨"p1"⟩ "alice") (afterSeconds 20)]

/-- The same, and then a policy is created under the same identifier. -/
def revivingTurns : List StoreTurn :=
  endingTurns ++ [.call (.create ⟨"acme"⟩ chosenDraft "alice") (afterSeconds 30)]

theorem endingTurns_newestFirst :
    empty.Advances ⟨0, 0⟩ endingTurns ∧ (∀ turn ∈ endingTurns, turn.Keeps) ∧
    ((empty.play endingTurns).contents.recorded ⟨"acme"⟩ ⟨"p1"⟩).map (·.change) =
      [.create, .update, .delete] ∧
    NewestFirst ((empty.play endingTurns).contents.revisions ⟨"acme"⟩ ⟨"p1"⟩) := by
  have hadvances : empty.Advances ⟨0, 0⟩ endingTurns :=
    ⟨by decide +kernel, by decide +kernel, by decide +kernel, trivial⟩
  have hturns : ∀ turn ∈ endingTurns, turn.Keeps := by
    simp [endingTurns, StoreTurn.Keeps]
  obtain ⟨_, _, hnewest⟩ := newestFirst_iff_versions_increase Keyed.indexed_empty (fun _ => rfl)
    hadvances ⟨"acme"⟩ ⟨"p1"⟩
  refine ⟨hadvances, hturns, rfl, hnewest rfl hturns ?_ ?_⟩
  · decide +kernel
  · decide +kernel

/-- A clock that only goes forward is not enough: the creation that was recorded last is not listed
first. -/
theorem revivingTurns_not_newestFirst :
    ¬ ∀ (turns : List StoreTurn) (start : Instant) (tenant : TenantId) (id : PolicyId),
      empty.Advances start turns →
      NewestFirst ((empty.play turns).contents.revisions tenant id) := by
  intro hall
  have hadvances : empty.Advances ⟨0, 0⟩ revivingTurns :=
    ⟨by decide +kernel, by decide +kernel, by decide +kernel, by decide +kernel, trivial⟩
  have hincreasing : ((empty.play revivingTurns).contents.recorded ⟨"acme"⟩ ⟨"p1"⟩).Pairwise
      fun r r' => r.changedAt.lt r'.changedAt := by
    decide +kernel
  have hversions := (StoreContents.newestFirst_revisions_iff hincreasing).1
    (hall revivingTurns ⟨0, 0⟩ ⟨"acme"⟩ ⟨"p1"⟩ hadvances)
  exact absurd hversions (by decide +kernel)

end MemoryStore

end Governance
