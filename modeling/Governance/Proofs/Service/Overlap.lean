import Governance.Proofs.Service.Quota
import Governance.Proofs.Service.Turns

/-!
# The limit when calls overlap

The check whether there is room and the writing are two calls of the store, and two calls to the service
can both have checked before either of them writes. So the limit of the community edition is not kept
when calls take turns. What is kept: every call writes at most what it was allowed, and it was allowed
that on top of what the tenant held at the time. So the tenant gets beyond the limit only by what other
calls had been allowed by then and not yet written, and not at all if no two calls stand between check
and write at the same time.
-/

namespace Governance

/-- Whether the next thing that a program asks for, reports apart, brings in policies of a tenant. -/
def Program.awaitsWrite {α : Type} (tenant : TenantId) : Program serviceInterface α → Bool
  | .done _ => false
  | .call (.store c) _ => c.brings && c.tenant = tenant
  | .call .now _ => false
  | .call (.report _) next => (next ()).awaitsWrite tenant

/-- How many calls stand between check and write for a tenant. -/
def LivePolicies.overlapping (g : LivePolicies) (tenant : TenantId) : Nat :=
  g.tasks.countP fun t => t.rest.awaitsWrite tenant

/-- Calls that come in for a tenant create policies or import them, and not more than `size`. -/
def PolicyTurn.Brings (tenant : TenantId) (size : Nat) : PolicyTurn → Prop
  | .arrive caller call => caller.tenant = tenant → call.brings ∧ call.size ≤ size
  | _ => True

/-! ### What tasks make of it -/

/-- Whoever has been allowed policies is about to bring them in. -/
theorem Program.awaitsWrite_of_tracks {α : Type} {limit size : Nat} {tenant : TenantId}
    {p : Program serviceInterface α} {g : Allowance}
    (hp : p.Tracks (quota limit size tenant) (fun g _ => g.pending = 0) g)
    (hpending : 0 < g.pending) : p.awaitsWrite tenant := by
  induction p generalizing g with
  | done value =>
    rw [show g.pending = 0 from hp] at hpending
    cases hpending
  | call c next ih =>
    obtain ⟨hcovers, hnext⟩ := hp
    cases c with
    | now =>
      rw [show g.pending = 0 from hcovers] at hpending
      cases hpending
    | report e =>
      obtain ⟨_, rfl, hrest⟩ := hnext ()
      exact ih () hrest hpending
    | store c =>
      by_cases hc : c.tenant = tenant
      · have hcovered : c.CoveredBy g := (if_pos hc).mp hcovers
        rw [awaitsWrite, decide_eq_true hc, Bool.and_true]
        cases c with
        | create | importAll => rfl
        | findByName | countTenantTier =>
          rw [show g.pending = 0 from hcovered] at hpending
          cases hpending
        | _ => cases hcovered
      · rw [show g.pending = 0 from (if_neg hc).mp hcovers] at hpending
        cases hpending

/-- What is left of a call to the service keeps to what it has been allowed. -/
structure PolicyTask.Keeps (limit size : Nat) (tenant : TenantId) (s : StoreContents)
    (t : PolicyTask) (g : Allowance) : Prop where
  tracks : t.rest.Tracks (quota limit size tenant) (fun g _ => g.pending = 0) g
  holds : g.Holds size tenant s

section Tasks

variable {limit size bound overlap : Nat} {tenant : TenantId}

theorem PolicyTask.Keeps.proceed {s : MemoryStore} {t : PolicyTask} {g : Allowance}
    (hkeeps : t.Keeps limit size tenant s.contents g) (hs : s.contents.Indexed) (a : Ambient) :
    let t' := (t.proceed s a).1
    let s' := (t.proceed s a).2
    s'.contents.Indexed ∧ s.contents.names tenant ⊆ s'.contents.names tenant ∧
    ∃ g', t'.Keeps limit size tenant s'.contents g' ∧
      (s'.contents.held tenant + g'.pending ≤ s.contents.held tenant + g.pending ∨
        0 < g'.pending ∧ s'.contents.held tenant + g'.pending ≤ limit) := by
  obtain ⟨caller, call, rest⟩ := t
  obtain ⟨htracks, hholds⟩ := hkeeps
  cases rest with
  | done value =>
    exact ⟨hs, Finset.Subset.refl _, g, ⟨htracks, hholds⟩, .inl (Nat.le_refl _)⟩
  | call c next =>
    obtain ⟨hcovers, hnext⟩ := htracks
    cases c with
    | now =>
      obtain ⟨_, rfl, hrest⟩ := hnext ((Service.answer .now).run s a).1.1
      exact ⟨hs, Finset.Subset.refl _, _, ⟨hrest, hholds⟩, .inl (Nat.le_refl _)⟩
    | report e =>
      obtain ⟨_, rfl, hrest⟩ := hnext ()
      exact ⟨hs, Finset.Subset.refl _, _, ⟨hrest, hholds⟩, .inl (Nat.le_refl _)⟩
    | store c =>
      obtain ⟨added, hmakes⟩ := MemoryStore.ensures_answer hs c a
      refine ⟨hmakes.indexed hs, ?_⟩
      obtain ⟨g', hcarries, hrest⟩ := hnext ((MemoryStore.answer c).run s a).1.1
      by_cases hc : c.tenant = tenant
      · subst hc
        have hcovered : c.CoveredBy g := (if_pos rfl).mp hcovers
        obtain ⟨hnames, hheld⟩ := hcovered.ensures_answer hs hholds a
        obtain ⟨hholds', hheld⟩ := hheld g' ((if_pos rfl).mp hcarries)
        exact ⟨hnames, g', ⟨hrest, hholds'⟩, hheld⟩
      · -- What is done for another tenant does not touch the policies of this one.
        obtain rfl : g' = g := (if_neg hc).mp hcarries
        have hkeeps := (hmakes.keepsFor hs hc).policies
        have hnames := (StoreContents.names_of_ownedBy_eq hkeeps).symm.subset
        have hheld := StoreContents.held_of_ownedBy_eq hkeeps
        exact ⟨hnames, g', ⟨hrest, hholds.mono hnames⟩,
          .inl (Nat.le_of_eq (congrArg (· + g'.pending) hheld))⟩

namespace LivePolicies

/-- How many policies tasks have been allowed that they have not brought in yet. -/
def pendingAll : List (PolicyTask × Allowance) → Nat
  | [] => 0
  | e :: rest => e.2.pending + pendingAll rest

theorem pendingAll_perm {entries entries' : List (PolicyTask × Allowance)}
    (hperm : entries.Perm entries') : pendingAll entries = pendingAll entries' := by
  induction hperm with
  | nil => rfl
  | cons e _ ih => rw [pendingAll, pendingAll, ih]
  | swap e e' rest => exact Nat.add_left_comm _ _ _
  | trans _ _ ih ih' => exact ih.trans ih'

/-- All tasks keep to what they have been allowed, and what the tenant holds and what they have been
allowed is not more than `bound`. -/
def Budgeted (limit size bound : Nat) (tenant : TenantId) (g : LivePolicies) : Prop :=
  g.store.contents.Indexed ∧ ∃ entries : List (PolicyTask × Allowance),
    entries.map (·.1) = g.tasks ∧
    (∀ e ∈ entries, e.1.Keeps limit size tenant g.store.contents e.2) ∧
    g.store.contents.held tenant + pendingAll entries ≤ bound

theorem pendingAll_le {s : StoreContents} {entries : List (PolicyTask × Allowance)}
    (hkeeps : ∀ e ∈ entries, e.1.Keeps limit size tenant s e.2) :
    pendingAll entries ≤ (entries.countP fun e => e.1.rest.awaitsWrite tenant) * size := by
  induction entries with
  | nil => exact Nat.zero_le _
  | cons e rest ih =>
    obtain ⟨he, hrest⟩ := List.forall_mem_cons.1 hkeeps
    have hothers := ih hrest
    rw [pendingAll, List.countP_cons]
    rcases Nat.eq_zero_or_pos e.2.pending with hnone | hsome
    · rw [hnone, Nat.zero_add]
      exact hothers.trans (Nat.mul_le_mul_right _ (Nat.le_add_right _ _))
    · rw [if_pos (Program.awaitsWrite_of_tracks he.tracks hsome), Nat.add_one_mul, Nat.add_comm]
      exact Nat.add_le_add hothers he.holds.small

/-- The task that goes on either spends what it has been allowed or is newly allowed what there is room
for, and then no more than `overlap - 1` other tasks are about to write. -/
theorem Budgeted.proceed {g : LivePolicies} (hg : g.Budgeted limit size bound tenant)
    (hbound : limit + (overlap - 1) * size ≤ bound) (i : Nat) (a : Ambient)
    (hoverlap : (g.proceed i a).overlapping tenant ≤ overlap) :
    (g.proceed i a).Budgeted limit size bound tenant := by
  cases htask : g.tasks[i]? with
  | none => rwa [proceed_of_none htask]
  | some t =>
    rw [proceed_of_some htask] at hoverlap ⊢
    obtain ⟨hs, entries, htasks, hkeeps, hsum⟩ := hg
    rw [← htasks, List.getElem?_map, Option.map_eq_some_iff] at htask
    obtain ⟨⟨t, account⟩, hentry, rfl⟩ := htask
    obtain ⟨hi, hget⟩ := List.getElem?_eq_some_iff.1 hentry
    obtain ⟨hs', hnames, account', hkeeps', hheld⟩ :=
      (hkeeps _ (List.mem_of_getElem? hentry)).proceed hs a
    let entry' : PolicyTask × Allowance := ((t.proceed g.store a).1, account')
    let others := entries.eraseIdx i
    have hold : ((t, account) :: others).Perm entries := hget ▸ List.getElem_cons_eraseIdx_perm hi
    have hnew : (entries.set i entry').Perm (entry' :: others) :=
      List.set_perm_cons_eraseIdx hi entry'
    have htasks' : (entries.set i entry').map (·.1) = g.tasks.set i (t.proceed g.store a).1 := by
      rw [List.map_set, htasks]
    have hothers : pendingAll others ≤
        (others.countP fun e => e.1.rest.awaitsWrite tenant) * size :=
      pendingAll_le fun e he => hkeeps e (List.mem_of_mem_eraseIdx he)
    refine ⟨hs', entries.set i entry', htasks', ?_, ?_⟩
    · intro e he
      rcases List.mem_or_eq_of_mem_set he with hstays | rfl
      · exact ⟨(hkeeps e hstays).tracks, (hkeeps e hstays).holds.mono hnames⟩
      · exact hkeeps'
    · rw [← pendingAll_perm hold, pendingAll] at hsum
      rw [pendingAll_perm hnew, pendingAll]
      -- What the others have been allowed is not touched, so only the entry that changes counts.
      change (t.proceed g.store a).2.contents.held tenant +
        (account'.pending + pendingAll others) ≤ bound
      dsimp only at hsum hheld
      rcases hheld with hspent | ⟨hpending, hroom⟩
      · omega
      · -- This task stands between check and write now, which leaves the others one place less.
        have hcount : (others.countP fun e => e.1.rest.awaitsWrite tenant) + 1 ≤ overlap := by
          have hawaits : entry'.1.rest.awaitsWrite tenant :=
            Program.awaitsWrite_of_tracks hkeeps'.tracks hpending
          have hhead : ((entry' :: others).countP fun e => e.1.rest.awaitsWrite tenant) =
              (others.countP fun e => e.1.rest.awaitsWrite tenant) + 1 :=
            List.countP_cons_of_pos hawaits
          rw [overlapping, ← htasks', List.countP_map, hnew.countP_eq] at hoverlap
          exact hhead.ge.trans hoverlap
        have hshare := hothers.trans (Nat.mul_le_mul_right size (Nat.le_sub_one_of_lt hcount))
        omega

theorem Budgeted.take {g : LivePolicies} (hg : g.Budgeted limit size bound tenant)
    (hbound : limit + (overlap - 1) * size ≤ bound) {turn : PolicyTurn}
    (hturn : turn.Brings tenant size)
    (hoverlap : (g.take ⟨false, limit⟩ turn).overlapping tenant ≤ overlap) :
    (g.take ⟨false, limit⟩ turn).Budgeted limit size bound tenant := by
  cases turn with
  | proceed i a => exact hg.proceed hbound i a hoverlap
  | switch losesRevisions rejectsCommits => exact hg
  | arrive caller call =>
    obtain ⟨hs, entries, htasks, hkeeps, hsum⟩ := hg
    refine ⟨hs, entries ++ [(.ofCall ⟨false, limit⟩ caller call, .start)], ?_, ?_, ?_⟩
    · rw [List.map_append, htasks]
      rfl
    · intro e he
      rcases List.mem_append.1 he with hold | hnew
      · exact hkeeps e hold
      · rw [List.mem_singleton.1 hnew]
        exact ⟨Service.tracked_perform hturn, Finset.empty_subset _, Nat.zero_le _⟩
    · rw [pendingAll_perm (List.perm_append_singleton _ _), pendingAll]
      exact (Nat.le_of_eq (congrArg _ (Nat.zero_add _))).trans hsum

theorem Budgeted.run {g : LivePolicies} (hg : g.Budgeted limit size bound tenant)
    (hbound : limit + (overlap - 1) * size ≤ bound) {turns : List PolicyTurn}
    (hturns : ∀ turn ∈ turns, turn.Brings tenant size)
    (hoverlap : ∀ earlier, earlier <+: turns →
      (g.run ⟨false, limit⟩ earlier).overlapping tenant ≤ overlap) :
    (g.run ⟨false, limit⟩ turns).Budgeted limit size bound tenant := by
  induction turns generalizing g with
  | nil => exact hg
  | cons turn rest ih =>
    obtain ⟨hturn, hrest⟩ := List.forall_mem_cons.1 hturns
    have hnext := hoverlap [turn] (List.prefix_append [turn] rest)
    refine ih (hg.take hbound hturn hnext) hrest fun earlier hearlier => ?_
    exact hoverlap (turn :: earlier) ((List.prefix_cons_inj turn).2 hearlier)

theorem budgeted_ofStore {s : MemoryStore} (hs : s.Reachable)
    (hheld : s.contents.held tenant ≤ bound) :
    (ofStore s).Budgeted limit size bound tenant :=
  ⟨hs.indexed, [], rfl, fun _ he => absurd he List.not_mem_nil, hheld⟩

/-- When never more than `overlap` calls stand between check and write, a tenant gets beyond the limit
by what all of them but one bring in at most. So it does not get beyond it at all when there is never
more than one. -/
theorem held_le_of_overlapping {s : MemoryStore} (hs : s.Reachable)
    (hheld : s.contents.held tenant ≤ limit) {turns : List PolicyTurn}
    (hturns : ∀ turn ∈ turns, turn.Brings tenant size)
    (hoverlap : ∀ earlier, earlier <+: turns →
      ((ofStore s).run ⟨false, limit⟩ earlier).overlapping tenant ≤ overlap) :
    ((ofStore s).run ⟨false, limit⟩ turns).store.contents.held tenant ≤
      limit + (overlap - 1) * size := by
  have hstart : (ofStore s).Budgeted limit size (limit + (overlap - 1) * size) tenant :=
    budgeted_ofStore hs (hheld.trans (Nat.le_add_right _ _))
  obtain ⟨_, entries, _, _, hsum⟩ := hstart.run (Nat.le_refl _) hturns hoverlap
  exact (Nat.le_add_right _ _).trans hsum

end LivePolicies

end Tasks

/-! ### Two creations that take turns -/

namespace LivePolicies

def thirdDraft : PolicyDraft := { secondDraft with id := some ⟨"p3"⟩, name := "no tokens" }

/-- Both come in at once; the first is checked and written before the second is checked. -/
def patientTurns : List PolicyTurn :=
  [.arrive alice (.create { secondDraft with id := some ⟨"p2"⟩ }), .arrive alice (.create thirdDraft),
    .proceed 0 .initial, .proceed 0 .initial, .proceed 0 .initial,
    .proceed 1 .initial, .proceed 1 .initial]

/-- Both are checked before either is written. -/
def racingTurns : List PolicyTurn :=
  [.arrive alice (.create { secondDraft with id := some ⟨"p2"⟩ }), .arrive alice (.create thirdDraft),
    .proceed 0 .initial, .proceed 1 .initial, .proceed 0 .initial, .proceed 0 .initial,
    .proceed 1 .initial, .proceed 1 .initial]

theorem patientTurns_keep_limit :
    MemoryStore.empty.Reachable ∧
    (∀ turn ∈ patientTurns, turn.Brings ⟨"acme"⟩ 1) ∧
    (∀ earlier, earlier <+: patientTurns →
      ((ofStore .empty).run ⟨false, 1⟩ earlier).overlapping ⟨"acme"⟩ ≤ 1) ∧
    ((ofStore .empty).run ⟨false, 1⟩ patientTurns).store.contents.held ⟨"acme"⟩ ≤ 1 := by
  have hturns : ∀ turn ∈ patientTurns, turn.Brings ⟨"acme"⟩ 1 := by
    simp [patientTurns, PolicyTurn.Brings, PolicyCall.brings, PolicyCall.size]
  have hoverlap : ∀ earlier, earlier <+: patientTurns →
      ((ofStore .empty).run ⟨false, 1⟩ earlier).overlapping ⟨"acme"⟩ ≤ 1 := by
    intro earlier hearlier
    have hall : ∀ turns ∈ patientTurns.inits,
        ((ofStore .empty).run ⟨false, 1⟩ turns).overlapping ⟨"acme"⟩ ≤ 1 := by
      simp only [patientTurns, List.inits]
      decide
    exact hall earlier ((List.mem_inits _ _).2 hearlier)
  refine ⟨.empty, hturns, hoverlap, ?_⟩
  exact held_le_of_overlapping .empty (Nat.zero_le 1) hturns hoverlap

/-- The limit is not kept by calls that take turns, not even by two that create a policy each. -/
theorem racing_creations_exceed_limit :
    ¬ ∀ (limit : Nat) (s : MemoryStore) (tenant : TenantId) (turns : List PolicyTurn),
      s.Reachable → s.contents.held tenant ≤ limit →
      (∀ caller call, .arrive caller call ∈ turns → caller.tenant = tenant ∧ call.brings) →
      ((ofStore s).run ⟨false, limit⟩ turns).store.contents.held tenant ≤ limit := by
  intro hkept
  have hcalls : ∀ caller call, .arrive caller call ∈ racingTurns →
      caller.tenant = ⟨"acme"⟩ ∧ call.brings := by
    intro caller call harrive
    simp only [racingTurns, List.mem_cons, PolicyTurn.arrive.injEq, List.not_mem_nil, or_false,
      reduceCtorEq] at harrive
    rcases harrive with ⟨rfl, rfl⟩ | ⟨rfl, rfl⟩
    · exact ⟨rfl, rfl⟩
    · exact ⟨rfl, rfl⟩
  have hone := hkept 1 .empty ⟨"acme"⟩ racingTurns .empty (by decide) hcalls
  have htwo : ((ofStore .empty).run ⟨false, 1⟩ racingTurns).store.contents.held ⟨"acme"⟩ = 2 := by
    rfl
  omega

end LivePolicies

end Governance
