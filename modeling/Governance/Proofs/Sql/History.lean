import Governance.Proofs.Sql.Bracketing
import Governance.Proofs.Sql.PolicyRows

/-!
# The history follows what was written

What a call has written lasts as soon as the command was acknowledged; in a transaction it lasts when
every level around it was committed and the commit acknowledged. Creating, changing and importing policies
adds a row to the history only for what lasts by then. Removing a policy is the exception: the history
learns of it before, from the row that was found, whatever becomes of the removal.
-/

namespace Governance

/-- Whether an answer says that nothing was changed. -/
def StoreCall.tellsNoChange : (c : StoreCall) → c.Answer → Bool
  | .create .., .ok _ => false
  | .update _ _ patch _, .ok (some _) => patch.isEmpty
  | .delete .., .ok removed => !removed
  | .importAll .., .ok report => report.created == 0 && report.updated == 0
  | _, _ => true

namespace Sql

/-! ### What lasts -/

/-- The commands that last, and for every level of a transaction, innermost first, those that will last
when it is committed. -/
structure Standing where
  lasting : List Command
  levels : List (List Command)

namespace Standing

/-- What an exchange makes of it. Only what was acknowledged counts. -/
def after (s : Standing) : Exchange sqlInterface → Standing
  | ⟨.execute c, some (.ok _)⟩ => { s with lasting := s.lasting ++ [c] }
  | ⟨.start, some (.ok _)⟩ => { s with levels := [[]] }
  | ⟨.mark _, some (.ok (), _)⟩ => { s with levels := [] :: s.levels }
  | ⟨.within _ c, some (.ok _, _)⟩ =>
    match s.levels with
    | level :: outer => { s with levels := (level ++ [c]) :: outer }
    | [] => s
  | ⟨.settle .commit _, some (.ok (), _)⟩ =>
    match s.levels with
    | level :: next :: outer => { s with levels := (next ++ level) :: outer }
    | _ => s
  | ⟨.settle .., _⟩ | ⟨.leave _, _⟩ => { s with levels := s.levels.tail }
  | ⟨.finish .commit _, some (.ok ())⟩ => ⟨s.lasting ++ s.levels.flatten, []⟩
  | ⟨.finish .., _⟩ | ⟨.abandon _, _⟩ => { s with levels := [] }
  | _ => s

def afterAll (s : Standing) (trace : List (Exchange sqlInterface)) : Standing := trace.foldl after s

/-- What lasts of exchanges before which nothing was written. -/
def of (trace : List (Exchange sqlInterface)) : Standing := afterAll ⟨[], []⟩ trace

variable {s : Standing} {trace : List (Exchange sqlInterface)}

theorem afterAll_append (s : Standing) (before after : List (Exchange sqlInterface)) :
    s.afterAll (before ++ after) = (s.afterAll before).afterAll after :=
  List.foldl_append

theorem lasting_subset_after (s : Standing) (x : Exchange sqlInterface) :
    s.lasting ⊆ (s.after x).lasting := by
  unfold after
  split
  · exact List.subset_append_left _ _
  · exact List.Subset.refl _
  · exact List.Subset.refl _
  · split <;> exact List.Subset.refl _
  · split <;> exact List.Subset.refl _
  · exact List.Subset.refl _
  · exact List.Subset.refl _
  · exact List.subset_append_left _ _
  · exact List.Subset.refl _
  · exact List.Subset.refl _
  · exact List.Subset.refl _

theorem lasting_subset_afterAll (s : Standing) (trace : List (Exchange sqlInterface)) :
    s.lasting ⊆ (s.afterAll trace).lasting := by
  induction trace generalizing s with
  | nil => exact List.Subset.refl _
  | cons x rest ih => exact List.Subset.trans (s.lasting_subset_after x) (ih (s.after x))

theorem afterAll_inner {body : List (Exchange sqlInterface)} (hinner : ∀ x ∈ body, Call.isInner x.call)
    (lasting level : List Command) (outer : List (List Command)) :
    afterAll ⟨lasting, level :: outer⟩ body = ⟨lasting, (level ++ acknowledged body) :: outer⟩ := by
  induction body generalizing level with
  | nil => exact congrArg (fun level => (⟨lasting, level :: outer⟩ : Standing)) (List.append_nil _).symm
  | cons x rest ih =>
    obtain ⟨hx, hrest⟩ := List.forall_mem_cons.1 hinner
    obtain ⟨call, answer⟩ := x
    cases call with
    | within t c =>
      obtain _ | ⟨_ | result, t'⟩ := answer
      · exact ih hrest level
      · exact ih hrest level
      · have hlater := ih hrest (level ++ [c])
        rwa [List.append_assoc] at hlater
    | now | uuid => exact ih hrest level
    | _ => cases hx

/-- Within a savepoint commands are gathered on a level of their own. -/
theorem afterAll_marked {t t' : Transaction} {body : List (Exchange sqlInterface)}
    (hinner : ∀ x ∈ body, Call.isInner x.call) (lasting : List Command) (levels : List (List Command))
    (rest : List (Exchange sqlInterface)) :
    afterAll ⟨lasting, levels⟩ (⟨.mark t, some (.ok (), t')⟩ :: body ++ rest) =
      afterAll ⟨lasting, acknowledged body :: levels⟩ rest := by
  rw [afterAll_append]
  exact congrArg (afterAll · rest) (afterAll_inner hinner lasting [] levels)

end Standing

namespace PolicyStore

open PolicyTable
open Standing (afterAll)
open Program (Always)

variable {tenant : TenantId} {actor : String} {draft : PolicyDraft} {drafts : List PolicyDraft}
  {trace : List (Exchange sqlInterface)}

/-! ### What the history says -/

/-- The command that makes a change of a policy. -/
def writing (kind : ChangeKind) (p : Policy) : Command :=
  match kind with
  | .create => insertion p
  | .delete => removal p.tenant p.id
  | _ => saving p

theorem writing_ofTransition (before after : Bool) (p : Policy) :
    writing (.ofTransition before after) p = saving p := by
  cases before <;> cases after <;> rfl

/-- A row of the history shows a change that lasts. -/
def Shows (s : Standing) (row : Row) : Prop :=
  ∃ r : Revision, row = RevisionTable.rowOf r ∧ writing r.change r.snapshot ∈ s.lasting

/-- Every row that is added to the history shows a change that lasts by then. -/
def Accounted (trace : List (Exchange sqlInterface)) : Prop :=
  ∀ before x after, trace = before ++ x :: after →
    ∀ row, Call.revisionRow? x.call = some row → Shows (.of before) row

/-- A row that is added for a change shows it. -/
theorem Change.ShownBy.shows {c : Change} {row : Row} {s : Standing} (h : c.ShownBy actor row)
    (hlasts : writing c.kind c.policy ∈ s.lasting) : Shows s row := by
  obtain ⟨id, now, rfl⟩ := h
  exact ⟨_, rfl, hlasts⟩

/-- Rows that are added after all that they show lasts. -/
theorem accounted_append {before recording : List (Exchange sqlInterface)}
    (hbefore : revisionRows before = [])
    (hshown : ∀ row ∈ revisionRows recording, Shows (.of before) row) :
    Accounted (before ++ recording) := by
  intro first x rest hsplit row hrow
  have hnew : x ∉ before := by
    intro hx
    rw [revisionRows_eq_nil.1 hbefore x hx] at hrow
    cases hrow
  -- The row is added by one of the later exchanges, and what lasted before them still does.
  obtain ⟨between, rfl, hrecording⟩ : ∃ between, first = before ++ between ∧
      recording = between ++ x :: rest := by
    rcases List.append_eq_append_iff.1 hsplit with h | ⟨between, rfl, hrest⟩
    · exact h
    · cases between with
      | nil => exact ⟨[], by simp, hrest.symm⟩
      | cons y between =>
        obtain ⟨rfl, -⟩ := List.cons.inj hrest
        exact absurd (by simp) hnew
  obtain ⟨r, hr, hlasts⟩ := hshown row (List.mem_filterMap.2 ⟨x, by simp [hrecording], hrow⟩)
  refine ⟨r, hr, ?_⟩
  rw [Standing.of, Standing.afterAll_append]
  exact Standing.lasting_subset_afterAll _ _ hlasts

theorem accounted_of_nil (hnone : revisionRows trace = []) : Accounted trace := by
  have h : Accounted (trace ++ []) := accounted_append hnone nofun
  rwa [List.append_nil] at h

/-- Nothing is added to the history but what lasts, and nothing at all by a call that says that it has
changed nothing. -/
def Follows (c : StoreCall) (trace : List (Exchange sqlInterface)) (outcome : c.Answer) : Prop :=
  Accounted trace ∧ (c.tellsNoChange outcome → revisionRows trace = [])

theorem follows_of_nil {c : StoreCall} {outcome : c.Answer} (hnone : revisionRows trace = []) :
    Follows c trace outcome :=
  ⟨accounted_of_nil hnone, fun _ => hnone⟩

/-- A change that lasts when it is recorded. -/
theorem follows_recorded {c : StoreCall} {outcome : c.Answer} {change : Change}
    {before recording : List (Exchange sqlInterface)} (hbefore : revisionRows before = [])
    (hlasts : writing change.kind change.policy ∈ (Standing.of before).lasting)
    (hrecorded : Recorded actor change recording) (hchange : c.tellsNoChange outcome = false) :
    Follows c (before ++ recording) outcome := by
  obtain ⟨row, hrow, hrows⟩ := hrecorded.revisionRows_eq
  refine ⟨accounted_append hbefore ?_, fun h => ?_⟩
  · rw [hrows, List.forall_mem_singleton]
    exact hrow.shows hlasts
  · rw [hchange] at h
    cases h

/-! ### Creating -/

theorem always_create (tenant : TenantId) (draft : PolicyDraft) (actor : String) :
    (create tenant draft actor).run.Always (Follows (.create tenant draft actor)) := by
  refine Always.lift_bind (Always.perform_bind fun u => Always.pure ?_)
  refine Always.lift_perform_bind fun now => ?_
  split
  · exact follows_of_nil rfl
  · rename_i p hp
    refine always_reading_bind fun connected => ?_
    obtain e | ⟨⟩ := connected
    · exact follows_of_nil rfl
    refine always_reading_bind fun written => ?_
    obtain e | result := written
    · exact follows_of_nil rfl
    refine Always.lift_perform_bind fun reported => ?_
    refine Always.lift_bind ((always_record actor _).mono fun recording _ hrecorded => ?_)
    change Follows (.create tenant draft actor) ([_, _, _, _, _] ++ (recording ++ [])) (.ok p)
    rw [List.append_nil]
    exact follows_recorded rfl (List.mem_singleton_self _) hrecorded rfl

/-! ### Changing -/

theorem lasting_committed {t t' : Transaction} {body : List (Exchange sqlInterface)}
    {level : List Command} (hbody : afterAll ⟨[], [[]]⟩ body = ⟨[], [level]⟩) :
    (Standing.of (⟨.start, some (.ok t)⟩ :: body ++
      [⟨.finish .commit t', some (.ok ())⟩])).lasting = level := by
  rw [Standing.of, Standing.afterAll_append]
  change (afterAll (afterAll ⟨[], [[]]⟩ body) [⟨.finish .commit t', some (.ok ())⟩]).lasting = level
  rw [hbody]
  exact List.append_nil level

/-- A policy is written and the transaction is committed, or there is an error. -/
theorem always_save (t : Transaction) (p : Policy) :
    (save t p).run.Always fun trace result => match result with
      | .ok () => ∃ t₁ t₂ written, trace = [⟨.within t (saving p), some (.ok written, t₁)⟩,
          ⟨.finish .commit t₂, some (.ok ())⟩]
      | .error _ => revisionRows trace = [] := by
  refine Always.lift_perform_bind fun answered => ?_
  obtain ⟨e | written, t₁⟩ := answered
  · exact fun _ => rfl
  · intro committed
    obtain e | ⟨⟩ := committed
    · exact rfl
    · exact ⟨t₁, _, written, rfl⟩

/-- What an update has written lasts by the time that it is reported. -/
theorem lasting_updated {id : PolicyId} {t t₁ t₂ t₃ : Transaction} {found : Except SqlError Result}
    {now : Instant} {written : Result} {told : Exchange sqlInterface} (p : Policy) :
    saving p ∈ (Standing.of (⟨.start, some (.ok t)⟩ ::
      [⟨.within t (withId tenant id true), some (found, t₁)⟩, ⟨.now, some now⟩,
        ⟨.within t₁ (saving p), some (.ok written, t₂)⟩] ++
      [⟨.finish .commit t₃, some (.ok ())⟩] ++ [told])).lasting := by
  have hinner : ∀ x ∈ ([⟨.within t (withId tenant id true), some (found, t₁)⟩, ⟨.now, some now⟩,
      ⟨.within t₁ (saving p), some (.ok written, t₂)⟩] : List (Exchange sqlInterface)),
      Call.isInner x.call := by
    simp [Call.isInner, Call.revisionRow?, withId, saving]
  rw [Standing.of, Standing.afterAll_append]
  refine Standing.lasting_subset_afterAll _ _ ?_
  rw [← Standing.of, lasting_committed (Standing.afterAll_inner hinner [] [] []), List.nil_append]
  exact List.mem_filterMap.2 ⟨⟨.within t₁ (saving p), some (.ok written, t₂)⟩, by simp, rfl⟩

theorem always_update (tenant : TenantId) (id : PolicyId) (patch : PolicyPatch) (actor : String) :
    (update tenant id patch actor).run.Always (Follows (.update tenant id patch actor)) := by
  refine always_reading_bind fun started => ?_
  obtain e | t := started
  · exact follows_of_nil rfl
  refine Always.lift_perform_bind fun answered => ?_
  obtain ⟨found, t₁⟩ := answered
  dsimp only
  split
  · exact fun _ => follows_of_nil rfl
  · exact fun _ => follows_of_nil rfl
  · rename_i p hp
    split
    · exact fun _ => follows_of_nil rfl
    · rename_i hpatch
      refine Always.lift_perform_bind fun now => ?_
      refine Always.bind_except ((always_save t₁ _).mono fun trace result hsaved => ?_)
      cases result with
      | error e =>
        refine follows_of_nil ?_
        change revisionRows ([_, _, _] ++ trace) = []
        rw [revisionRows_append, hsaved]
        rfl
      | ok =>
        obtain ⟨t₂, t₃, written, rfl⟩ := hsaved
        refine Always.lift_perform_bind fun reported => ?_
        refine Always.lift_bind ((always_record actor _).mono fun recording _ hrecorded => ?_)
        change Follows (.update tenant id patch actor)
          (⟨.start, some (.ok t)⟩ :: [_, _, _] ++ [_] ++ [_] ++ (recording ++ []))
          (.ok (some (p.applyPatch patch actor now)))
        rw [List.append_nil]
        refine follows_recorded rfl ?_ hrecorded (by simpa [StoreCall.tellsNoChange] using hpatch)
        change writing (.ofTransition p.enabled (p.applyPatch patch actor now).enabled)
          (p.applyPatch patch actor now) ∈ _
        rw [writing_ofTransition]
        exact lasting_updated _

/-! ### Importing -/

theorem Makes.writes {made : Imported} (h : Makes tenant actor draft trace made) :
    ∀ c ∈ made.2, writing c.kind c.policy ∈ acknowledged trace := by
  intro c hc
  cases h with
  | created hp hwritten =>
    obtain rfl := Option.some.inj hc
    exact hwritten
  | updated hp hwritten =>
    obtain rfl := Option.some.inj hc
    exact hwritten
  | skipped => exact absurd hc (Option.not_mem_none c)
  | failed message => exact absurd hc (Option.not_mem_none c)

theorem Makes.change_of_failed {made : Imported} (h : Makes tenant actor draft trace made)
    (hfailed : made.1.isFailed ≠ false) : made.2 = none := by
  cases h with
  | created | updated => exact absurd rfl hfailed
  | skipped | failed => rfl

/-- After a draft the levels around its savepoint are what they were, and the innermost of these has what
was written for the change of the draft. -/
theorem Bracketed.afterAll {imported : Imported} (h : Bracketed tenant actor draft trace imported)
    (lasting level : List Command) (outer : List (List Command)) :
    ∃ written, afterAll ⟨lasting, level :: outer⟩ trace = ⟨lasting, (level ++ written) :: outer⟩ ∧
      ∀ c ∈ imported.2, writing c.kind c.policy ∈ written := by
  have hnothing (c : Change) (e : SqlError) : c ∉ (spoiled draft e).2 := Option.not_mem_none c
  cases h with
  | unset e =>
    refine ⟨[], ?_, fun c hc => absurd hc (hnothing c e)⟩
    rw [List.append_nil]
    rfl
  | @ended t t₁ t₂ t₃ body ending made hinner hmade hending =>
    rw [Standing.afterAll_marked hinner]
    cases ending with
    | commit => exact ⟨acknowledged body, rfl, hmade.writes⟩
    | rollback =>
      have hnone : imported.2 = none := hmade.change_of_failed fun h => nomatch hending.2 h
      refine ⟨[], ?_, fun c hc => absurd (hnone ▸ hc) (Option.not_mem_none c)⟩
      rw [List.append_nil]
      rfl
  | @unended t t₁ t₂ t₃ body ending made e warning hinner hmade hending =>
    refine ⟨[], ?_, fun c hc => absurd hc (hnothing c e)⟩
    rw [Standing.afterAll_marked hinner, List.append_nil]
    cases ending <;> rfl

theorem EachBracketed.afterAll {imported : List Imported}
    (h : EachBracketed tenant actor drafts trace imported) (lasting level : List Command)
    (outer : List (List Command)) :
    ∃ written, afterAll ⟨lasting, level :: outer⟩ trace = ⟨lasting, (level ++ written) :: outer⟩ ∧
      ∀ c ∈ imported.filterMap (·.2), writing c.kind c.policy ∈ written := by
  induction h generalizing level with
  | nil => exact ⟨[], by rw [List.append_nil]; rfl, List.forall_mem_nil _⟩
  | @cons draft rest first others imported more hfirst _ ih =>
    obtain ⟨early, hearly, hchange⟩ := hfirst.afterAll lasting level outer
    obtain ⟨later, hlater, hchanges⟩ := ih (level ++ early)
    refine ⟨early ++ later, ?_, fun c hc => ?_⟩
    · rw [Standing.afterAll_append, hearly, hlater, List.append_assoc]
    · obtain ⟨made, hmade, hmakes⟩ := List.mem_filterMap.1 hc
      rcases List.mem_cons.1 hmade with rfl | hmade
      · exact List.mem_append_left _ (hchange c hmakes)
      · exact List.mem_append_right _ (hchanges c (List.mem_filterMap.2 ⟨made, hmade, hmakes⟩))

/-- Nothing was changed where nothing is counted as created or updated. -/
theorem EachBracketed.changes_eq_nil {imported : List Imported}
    (h : EachBracketed tenant actor drafts trace imported)
    (hcreated : (ImportReport.ofOutcomes (imported.map (·.1))).created = 0)
    (hupdated : (ImportReport.ofOutcomes (imported.map (·.1))).updated = 0) :
    imported.filterMap (·.2) = [] := by
  refine List.eq_nil_iff_forall_not_mem.2 fun c hc => ?_
  have hcount : changeCount c.kind imported = 0 := by
    rw [← h.counted c.kind]
    cases c.kind with
    | create => exact hcreated
    | update => exact hupdated
    | enable | disable | delete => rfl
  exact List.countP_eq_zero.1 hcount c hc (decide_eq_true rfl)

theorem ImportCourse.follows {mode : ImportMode} {outcome : Except StoreError ImportReport}
    (h : ImportCourse tenant actor drafts trace outcome) :
    Follows (.importAll tenant drafts mode actor) trace outcome := by
  cases h with
  | unopened e => exact follows_of_nil rfl
  | uncommitted e heach => exact follows_of_nil (heach.revisionRows_enclosed _ _ _)
  | @committed t t' trace recording imported heach hplain hrecorded =>
    have hbefore := heach.revisionRows_enclosed t t' (.ok ())
    obtain ⟨written, hwritten, hchanges⟩ := heach.afterAll [] [] []
    rw [List.append_cons]
    refine ⟨accounted_append hbefore fun row hrow => ?_, fun htold => ?_⟩
    · obtain ⟨c, hc, hshown⟩ := exists_of_shown hrecorded hrow
      refine hshown.shows ?_
      rw [lasting_committed hwritten]
      exact hchanges c hc
    · have hnone : imported.filterMap (·.2) = [] := by
        simp only [StoreCall.tellsNoChange, Bool.and_eq_true, beq_iff_eq] at htold
        exact heach.changes_eq_nil htold.1 htold.2
      rw [hnone] at hrecorded
      rw [revisionRows_append, hbefore, List.forall₂_nil_left_iff.1 hrecorded]
      rfl

/-! ### Removing -/

/-- What is exchanged over a removal, and what is made of it: the policy that is found is recorded, and
then removed. -/
inductive RemovalCourse (tenant : TenantId) (id : PolicyId) (actor : String) :
    List (Exchange sqlInterface) → Except StoreError Bool → Prop
  | unconnected (e : SqlError) :
      RemovalCourse tenant id actor [⟨.connect, some (.error e)⟩]
        (.error (databaseError "acquire connection" e))
  | unread {found : Except SqlError Result} {e : StoreError} (hfound : fetchedById found = .error e) :
      RemovalCourse tenant id actor
        [⟨.connect, some (.ok ())⟩, ⟨.execute (withId tenant id false), some found⟩] (.error e)
  | unfound {found : Except SqlError Result} (hfound : fetchedById found = .ok none) :
      RemovalCourse tenant id actor
        [⟨.connect, some (.ok ())⟩, ⟨.execute (withId tenant id false), some found⟩] (.ok false)
  | recorded {found removed : Except SqlError Result} {p : Policy}
      {recording told : List (Exchange sqlInterface)} (hfound : fetchedById found = .ok (some p))
      (hrecorded : Recorded actor (.ofKind p .delete) recording) (htold : OnlyReports told) :
      RemovalCourse tenant id actor
        ([⟨.connect, some (.ok ())⟩, ⟨.execute (withId tenant id false), some found⟩] ++ recording ++
          ⟨.execute (removal tenant id), some removed⟩ :: told)
        ((removed.mapError (databaseError "delete policy")).map fun result => 0 < result.affected)

theorem always_delete (tenant : TenantId) (id : PolicyId) (actor : String) :
    (delete tenant id actor).run.Always (RemovalCourse tenant id actor) := by
  refine Always.bind_except ?_
  refine always_reading_bind fun connected => ?_
  obtain e | ⟨⟩ := connected
  · exact .unconnected e
  refine always_reading fun found => ?_
  cases hfound : fetchedById found with
  | error e => exact .unread hfound
  | ok policy =>
    cases policy with
    | none => exact .unfound hfound
    | some p =>
      refine Always.lift_bind ((always_record actor _).mono fun recording _ hrecorded => ?_)
      refine always_reading_bind fun removed => ?_
      obtain e | result := removed
      · exact @RemovalCourse.recorded tenant id actor found (.error e) p recording [] hfound
          hrecorded (List.forall_mem_nil _)
      · refine Always.lift_perform_bind fun reported => ?_
        exact @RemovalCourse.recorded tenant id actor found (.ok result) p recording [_] hfound
          hrecorded (List.forall_mem_singleton.2 ⟨_, rfl⟩)

/-! ### All calls -/

theorem always_list (tenant : TenantId) (l : Listing) :
    (list tenant l).run.Always fun trace _ => revisionRows trace = [] := by
  refine always_reading_bind fun total => ?_
  split
  · refine always_reading_bind fun items => ?_
    split
    · exact rfl
    · exact rfl
  · exact rfl

theorem always_follows (c : StoreCall) (hc : ∀ tenant id actor, c ≠ .delete tenant id actor) :
    (answer c).Always (Follows c) := by
  cases c with
  | create tenant draft actor => exact always_create tenant draft actor
  | update tenant id patch actor => exact always_update tenant id patch actor
  | importAll tenant drafts mode actor =>
    exact (always_importAll tenant drafts mode actor).mono fun _ _ h => h.follows
  | delete tenant id actor => exact absurd rfl (hc tenant id actor)
  | get tenant id =>
    refine always_reading_bind fun connected => ?_
    split
    · exact fun _ => follows_of_nil rfl
    · exact follows_of_nil rfl
  | findByName tenant name =>
    refine always_reading_bind fun connected => ?_
    split
    · exact fun _ => follows_of_nil rfl
    · exact follows_of_nil rfl
  | list tenant l => exact (always_list tenant l).mono fun _ _ => follows_of_nil
  | exportAll tenant =>
    refine Always.bind ((always_list tenant .everything).mono fun trace _ hnone => ?_)
    exact follows_of_nil (by rw [List.append_nil]; exact hnone)
  | countTenantTier | revisions | enabledPolicies => exact fun _ => follows_of_nil rfl

/-- What is added to the history when policies are created, changed or imported shows changes that last by
then, and calls that say that nothing was changed add nothing. A removal adds one row for the policy that
it finds, before that is removed, and no other. -/
theorem history_follows_writes :
    (∀ (c : StoreCall) (trace : List (Exchange sqlInterface)) (outcome : c.Answer),
      (∀ tenant id actor, c ≠ .delete tenant id actor) →
      Program.Runs (fun _ => False) (answer c) trace (some outcome) →
      Accounted trace ∧ (c.tellsNoChange outcome → revisionRows trace = [])) ∧
    (∀ (tenant : TenantId) (id : PolicyId) (actor : String) (trace : List (Exchange sqlInterface))
      (outcome : Except StoreError Bool),
      Program.Runs (fun _ => False) (answer (.delete tenant id actor)) trace (some outcome) →
      RemovalCourse tenant id actor trace outcome) :=
  ⟨fun c _ _ hc hrun => (always_follows c hc).of_runs hrun,
    fun tenant id actor _ _ hrun => (always_delete tenant id actor).of_runs hrun⟩

/-- A policy is found wherever one is looked for, and whatever is written concerns so many rows. -/
def holding (p : Policy) (affected : Nat) : Command → Except SqlError Result
  | .select _ => .ok ⟨[rowOf p], 1⟩
  | _ => .ok ⟨[], affected⟩

/-- A patch that enables a policy. -/
def enabling : PolicyPatch :=
  { name := none, description := none, kind := none, conditions := none, actions := none,
    priority := none, enabled := some true, category := none, tags := none }

theorem draftedRule_history :
    let patched := (answer (.update ⟨"acme"⟩ ⟨"p1"⟩ enabling "bob")).replay
      (obliging (holding draftedRule 1))
    let removed := (answer (.delete ⟨"acme"⟩ ⟨"p1"⟩ "bob")).replay (obliging (holding draftedRule 1))
    Accounted patched.1 ∧ (revisionRows patched.1).length = 1 ∧
      RemovalCourse ⟨"acme"⟩ ⟨"p1"⟩ "bob" removed.1 removed.2 ∧ removed.2 = .ok true := by
  intro patched removed
  obtain ⟨hfollows, hcourse⟩ := history_follows_writes
  have hpatched := hfollows (.update ⟨"acme"⟩ ⟨"p1"⟩ enabling "bob") patched.1 patched.2 nofun
    (Program.runs_replay _ _)
  have hremoved := hcourse ⟨"acme"⟩ ⟨"p1"⟩ "bob" removed.1 removed.2 (Program.runs_replay _ _)
  exact ⟨hpatched.1, rfl, hremoved, rfl⟩

/-- A removal that finds no row any more tells so and is recorded; so is a replacement that concerns no
row. -/
theorem vain_writes_recorded :
    let removed := (answer (.delete ⟨"acme"⟩ ⟨"p1"⟩ "bob")).replay (obliging (holding draftedRule 0))
    let imported := (answer (.importAll ⟨"acme"⟩ [revisedDraft] .overwrite "bob")).replay
      (obliging (holding draftedRule 0))
    (Program.Runs (fun _ => False) (answer (.delete ⟨"acme"⟩ ⟨"p1"⟩ "bob")) removed.1
        (some removed.2) ∧
      removed.2 = .ok false ∧ (revisionRows removed.1).length = 1 ∧ ¬ Accounted removed.1) ∧
    (Program.Runs (fun _ => False) (answer (.importAll ⟨"acme"⟩ [revisedDraft] .overwrite "bob"))
        imported.1 (some imported.2) ∧
      imported.2 = .ok ⟨0, 1, 0, []⟩ ∧ (revisionRows imported.1).length = 1 ∧
      ∀ t p, (obliging (holding draftedRule 0) (.within t (saving p))).1 = .ok ⟨[], 0⟩) := by
  intro removed imported
  refine ⟨⟨Program.runs_replay _ _, rfl, rfl, fun haccounted => ?_⟩,
    Program.runs_replay _ _, rfl, rfl, fun _ _ => rfl⟩
  obtain ⟨r, -, hlasts⟩ := haccounted (removed.1.take 4) _ (removed.1.drop 5) rfl _ rfl
  have honly : (Standing.of (removed.1.take 4)).lasting = [withId ⟨"acme"⟩ ⟨"p1"⟩ false] := rfl
  rw [honly, List.mem_singleton] at hlasts
  cases hkind : r.change <;> rw [hkind] at hlasts <;> cases hlasts

end PolicyStore

end Sql

end Governance
