import Mathlib.Data.List.Forall2
import Governance.Proofs.Program.Runs
import Governance.Proofs.Store.Imports
import Governance.Sql.PolicyStore

/-!
# Imports are bracketed

An import writes policies between savepoints, and adds a row to the history for every draft that it counts.
-/

namespace Governance.Sql

/-!
## What is added to the history

Rows come into the table of revisions one at a time, for changes that a call has made. Adding them has
nothing to do with transactions, and whether it succeeds makes no difference to what is added next.
-/

/-- The row that a call adds to the table of revisions. -/
def Call.revisionRow? : Call → Option Row
  | .execute (.insert table row) | .within _ (.insert table row) =>
    if table.name = revisionTable.name then some row else none
  | _ => none

/-- Whether a call opens or ends a transaction or a savepoint. -/
def Call.isTransactional : Call → Bool
  | .start | .finish .. | .abandon _ | .mark _ | .settle .. | .leave _ => true
  | _ => false

/-- The rows that were sent to the table of revisions, whatever became of them. -/
def revisionRows (trace : List (Exchange sqlInterface)) : List Row :=
  trace.filterMap fun x => Call.revisionRow? x.call

/-- Nothing is done but reporting events. -/
def OnlyReports (trace : List (Exchange sqlInterface)) : Prop :=
  ∀ x ∈ trace, ∃ event, x.call = .report event

section Rows

variable {trace : List (Exchange sqlInterface)}

theorem revisionRows_append (before after : List (Exchange sqlInterface)) :
    revisionRows (before ++ after) = revisionRows before ++ revisionRows after :=
  List.filterMap_append

theorem revisionRows_eq_nil :
    revisionRows trace = [] ↔ ∀ x ∈ trace, Call.revisionRow? x.call = none :=
  List.filterMap_eq_nil_iff

theorem OnlyReports.revisionRows_eq_nil (h : OnlyReports trace) : revisionRows trace = [] := by
  refine Sql.revisionRows_eq_nil.2 fun x hx => ?_
  obtain ⟨event, hevent⟩ := h x hx
  rw [hevent]
  rfl

theorem OnlyReports.plain (h : OnlyReports trace) :
    ∀ x ∈ trace, Call.isTransactional x.call = false := by
  intro x hx
  obtain ⟨event, hevent⟩ := h x hx
  rw [hevent]
  rfl

end Rows

namespace PolicyStore

open Program (Always)

variable {α β : Type} {actor : String} {c : Change} {trace : List (Exchange sqlInterface)}

theorem always_reading {c : Call} {read : c.Answer → Except StoreError α}
    {post : List (Exchange sqlInterface) → Except StoreError α → Prop}
    (hpost : ∀ answer : c.Answer, post [⟨c, some answer⟩] (read answer)) :
    (reading c read).run.Always post :=
  hpost

theorem always_reading_bind {c : Call} {read : c.Answer → Except StoreError α}
    {f : α → Stored β} {post : List (Exchange sqlInterface) → Except StoreError β → Prop}
    (hf : ∀ answer : c.Answer, match read answer with
      | .ok a => (f a).run.Always fun trace b => post (⟨c, some answer⟩ :: trace) b
      | .error e => post [⟨c, some answer⟩] (.error e)) :
    (reading c read >>= f).run.Always post := by
  refine Always.bind_except (always_reading fun answer => ?_)
  have hanswer := hf answer
  cases hread : read answer with
  | ok a =>
    rw [hread] at hanswer
    exact hanswer
  | error e =>
    rw [hread] at hanswer
    exact hanswer

/-! ### One change -/

/-- A row shows a change, as somebody made it. -/
def Change.ShownBy (actor : String) (c : Change) (row : Row) : Prop :=
  ∃ id now, row = RevisionTable.rowOf (.capture id now c.policy c.kind c.summary actor)

/-- What is exchanged while a change is added to the history: one row is sent for it. -/
inductive Recorded (actor : String) (c : Change) : List (Exchange sqlInterface) → Prop
  | intro {id : Uuid} {now : Instant} {recorded : Except SqlError Result}
      {lost : List (Exchange sqlInterface)} (hlost : OnlyReports lost) :
      Recorded actor c ([⟨.uuid, some id⟩, ⟨.now, some now⟩,
        ⟨.execute (RevisionTable.insertion (.capture id now c.policy c.kind c.summary actor)),
          some recorded⟩] ++ lost)

theorem always_record (actor : String) (c : Change) :
    (record actor c).Always fun trace _ => Recorded actor c trace := by
  refine Always.perform_bind fun id => Always.perform_bind fun now => ?_
  refine Always.perform_bind fun recorded => ?_
  cases recorded with
  | ok result => exact .intro (List.forall_mem_nil _)
  | error e => exact fun _ => .intro (List.forall_mem_singleton.2 ⟨_, rfl⟩)

namespace Recorded

theorem revisionRows_eq (h : Recorded actor c trace) :
    ∃ row, c.ShownBy actor row ∧ revisionRows trace = [row] := by
  cases h with
  | @intro id now _ _ hlost =>
    refine ⟨_, ⟨id, now, rfl⟩, ?_⟩
    rw [revisionRows_append, hlost.revisionRows_eq_nil]
    rfl

theorem plain (h : Recorded actor c trace) : ∀ x ∈ trace, Call.isTransactional x.call = false := by
  cases h with
  | intro hlost => exact List.forall_mem_append.2 ⟨by simp [Call.isTransactional], hlost.plain⟩

end Recorded

/-! ### All changes -/

theorem always_recordAll (actor : String) (changes : List Change) :
    (recordAll actor changes).Always fun trace _ =>
      (∀ x ∈ trace, Call.isTransactional x.call = false) ∧
        List.Forall₂ (Change.ShownBy actor) changes (revisionRows trace) := by
  induction changes with
  | nil => exact ⟨List.forall_mem_nil _, .nil⟩
  | cons c rest ih =>
    refine Always.bind ((always_record actor c).mono fun trace _ hfirst => ?_)
    refine ih.mono fun trace' _ hrest => ?_
    obtain ⟨row, hrow, hrows⟩ := hfirst.revisionRows_eq
    refine ⟨List.forall_mem_append.2 ⟨hfirst.plain, hrest.1⟩, ?_⟩
    rw [revisionRows_append, hrows]
    exact .cons hrow hrest.2

theorem exists_of_shown {changes : List Change} {rows : List Row}
    (h : List.Forall₂ (Change.ShownBy actor) changes rows) {row : Row} (hrow : row ∈ rows) :
    ∃ c ∈ changes, c.ShownBy actor row := by
  induction h with
  | nil => cases hrow
  | cons hfirst _ ih =>
    rcases List.mem_cons.1 hrow with rfl | hlater
    · exact ⟨_, List.mem_cons_self, hfirst⟩
    · obtain ⟨c, hc, hshown⟩ := ih hlater
      exact ⟨c, List.mem_cons_of_mem _ hc, hshown⟩

theorem countP_of_shown {changes : List Change} {rows : List Row}
    (h : List.Forall₂ (Change.ShownBy actor) changes rows) (kind : ChangeKind) :
    rows.countP (fun row => row.value "change_type" == .text kind.word) =
      changes.countP fun c => c.kind = kind := by
  induction h with
  | nil => rfl
  | @cons c row changes rows hshown _ ih =>
    obtain ⟨id, now, rfl⟩ := hshown
    have hword : ((RevisionTable.rowOf (.capture id now c.policy c.kind c.summary actor)).value
        "change_type" == .text kind.word) = decide (c.kind = kind) := by
      change (c.kind.word == kind.word) = decide (c.kind = kind)
      cases c.kind <;> cases kind <;> rfl
    rw [List.countP_cons, List.countP_cons, ih, hword]

/-! ### Databases that oblige -/

/-- A database that answers every command as it is said, and lets nothing else fail. -/
def obliging (answer : Command → Except SqlError Result) : (c : Call) → c.Answer
  | .connect => .ok ()
  | .execute c => answer c
  | .start => .ok ⟨1, []⟩
  | .finish .. => .ok ()
  | .abandon _ => ()
  | .within t c => (answer c, t)
  | .prepare t _ => (.ok (), t)
  | .mark t => (.ok (), t)
  | .settle _ t => (.ok (), t)
  | .leave t => t
  | .now => ⟨0, 0⟩
  | .uuid => ⟨0⟩
  | .report _ => ()

end PolicyStore

end Governance.Sql

namespace Governance

/-!
## Savepoints around drafts

An import is one transaction. For every draft a savepoint is tried, and one that was set is ended before
the next draft: released if the draft was not refused, undone if it was. The report and the history are
gathered beside each other, and go together: a change is recorded for every draft that is counted as
created or updated and for no other, with the policy whose writing was acknowledged.
-/

/-- How many changes of a kind a report counts. -/
def ImportReport.countOf (r : ImportReport) : ChangeKind → Nat
  | .create => r.created
  | .update => r.updated
  | _ => 0

namespace Sql

/-- The command that was acknowledged in an exchange. -/
def acknowledged? : Exchange sqlInterface → Option Command
  | ⟨.execute c, some (.ok _)⟩ => some c
  | ⟨.within _ c, some (.ok _, _)⟩ => some c
  | _ => none

def acknowledged (trace : List (Exchange sqlInterface)) : List Command :=
  trace.filterMap acknowledged?

/-- Whether a call stays within the innermost level of a transaction, and adds nothing to the history. -/
def Call.isInner : Call → Bool
  | .within t c => (Call.within t c).revisionRow?.isNone
  | .now | .uuid => true
  | _ => false

theorem revisionRows_of_isInner {body : List (Exchange sqlInterface)}
    (hinner : ∀ x ∈ body, Call.isInner x.call) : revisionRows body = [] := by
  refine revisionRows_eq_nil.2 fun x hx => ?_
  have hcall := hinner x hx
  cases h : x.call with
  | within t c =>
    rw [h] at hcall
    exact Option.isNone_iff_eq_none.1 hcall
  | execute c =>
    rw [h] at hcall
    cases hcall
  | _ => rfl

namespace PolicyStore

open PolicyTable
open Program (Always)

variable {tenant : TenantId} {mode : ImportMode} {actor : String} {draft : PolicyDraft}
  {drafts : List PolicyDraft} {trace : List (Exchange sqlInterface)} {imported : Imported}

/-! ### One draft -/

/-- What became of a draft, and the change that it made: the policy that it brought in or that replaced
another, and whose writing was acknowledged. -/
inductive Makes (tenant : TenantId) (actor : String) (draft : PolicyDraft)
    (trace : List (Exchange sqlInterface)) : Imported → Prop
  | created {u : Uuid} {now : Instant} {p : Policy}
      (hp : draft.toPolicy ⟨u.render⟩ tenant actor now = .ok p)
      (hwritten : insertion p ∈ acknowledged trace) :
      Makes tenant actor draft trace (.created draft.name, some ⟨p, .create, importSummary⟩)
  | updated {old p : Policy} {now : Instant} (hp : old.overwrite draft actor now = p)
      (hwritten : saving p ∈ acknowledged trace) :
      Makes tenant actor draft trace (.updated draft.name, some (.ofKind p .update))
  | skipped : Makes tenant actor draft trace (.skipped draft.name, none)
  | failed (message : String) : Makes tenant actor draft trace (.failed draft.name message, none)

/-- What becomes of a draft whose savepoint could not be set or ended. -/
def spoiled (draft : PolicyDraft) (e : SqlError) : Imported :=
  (.failed draft.name (creationMessage draft.name e.message), none)

/-- What is exchanged over a draft: an attempt to set a savepoint, and if it was set what was done within
it and one attempt to end it. -/
inductive Bracketed (tenant : TenantId) (actor : String) (draft : PolicyDraft) :
    List (Exchange sqlInterface) → Imported → Prop
  | unset {t t' : Transaction} (e : SqlError) :
      Bracketed tenant actor draft [⟨.mark t, some (.error e, t')⟩] (spoiled draft e)
  | ended {t t₁ t₂ t₃ : Transaction} {body : List (Exchange sqlInterface)} {ending : Ending}
      {made : Imported} (hinner : ∀ x ∈ body, Call.isInner x.call)
      (hmade : Makes tenant actor draft body made)
      (hending : ending = .commit ↔ made.1.isFailed = false) :
      Bracketed tenant actor draft
        (⟨.mark t, some (.ok (), t₁)⟩ :: body ++ [⟨.settle ending t₂, some (.ok (), t₃)⟩]) made
  | unended {t t₁ t₂ t₃ : Transaction} {body : List (Exchange sqlInterface)} {ending : Ending}
      {made : Imported} (e : SqlError) (warning : Event)
      (hinner : ∀ x ∈ body, Call.isInner x.call) (hmade : Makes tenant actor draft body made)
      (hending : ending = .commit ↔ made.1.isFailed = false) :
      Bracketed tenant actor draft
        (⟨.mark t, some (.ok (), t₁)⟩ :: body ++
          [⟨.settle ending t₂, some (.error e, t₃)⟩, ⟨.report warning, some ()⟩])
        (spoiled draft e)

theorem endingOf_eq_commit_iff (outcome : ImportOutcome) :
    endingOf outcome = .commit ↔ outcome.isFailed = false := by
  cases outcome <;> simp [endingOf, ImportOutcome.isFailed]

theorem always_replace (t : Transaction) (p : Policy) (draft : PolicyDraft) (actor : String) :
    (replace t p draft actor).Always fun trace made =>
      (∀ x ∈ trace, Call.isInner x.call) ∧ Makes tenant actor draft trace made.1 := by
  unfold replace
  split
  · exact Always.pure ⟨List.forall_mem_nil _, .failed _⟩
  · refine Always.perform_bind fun now => Always.perform_bind fun answered => ?_
    obtain ⟨outcome, t'⟩ := answered
    cases outcome with
    | ok result =>
      exact ⟨by simp [Call.isInner, Call.revisionRow?, saving], .updated rfl (by
        simp [acknowledged, acknowledged?])⟩
    | error e => exact ⟨by simp [Call.isInner, Call.revisionRow?, saving], .failed _⟩

theorem always_add (t : Transaction) (tenant : TenantId) (draft : PolicyDraft) (actor : String) :
    (add t tenant draft actor).Always fun trace made =>
      (∀ x ∈ trace, Call.isInner x.call) ∧ Makes tenant actor draft trace made.1 := by
  refine Always.perform_bind fun u => Always.perform_bind fun now => ?_
  split
  · exact Always.pure ⟨by simp [Call.isInner], .failed _⟩
  · rename_i p hp
    refine Always.perform_bind fun answered => ?_
    obtain ⟨outcome, t'⟩ := answered
    have hplain : (Call.within t (insertion p)).revisionRow? = none := rfl
    cases outcome with
    | ok result =>
      exact ⟨by simp [Call.isInner, hplain], .created hp (by simp [acknowledged, acknowledged?])⟩
    | error e => exact ⟨by simp [Call.isInner, hplain], .failed _⟩

theorem Makes.append_left (before : List (Exchange sqlInterface))
    (hmade : Makes tenant actor draft trace imported) :
    Makes tenant actor draft (before ++ trace) imported := by
  have happend : acknowledged (before ++ trace) = acknowledged before ++ acknowledged trace :=
    List.filterMap_append
  cases hmade with
  | created hp hwritten =>
    exact .created hp (happend ▸ List.mem_append_right _ hwritten)
  | updated hp hwritten =>
    exact .updated hp (happend ▸ List.mem_append_right _ hwritten)
  | skipped => exact .skipped
  | failed message => exact .failed message

theorem always_importWithin (t : Transaction) (tenant : TenantId) (mode : ImportMode)
    (actor : String) (draft : PolicyDraft) :
    (importWithin t tenant mode actor draft).Always fun trace made =>
      (∀ x ∈ trace, Call.isInner x.call) ∧ Makes tenant actor draft trace made.1 := by
  refine Always.perform_bind fun answered => ?_
  obtain ⟨outcome, t'⟩ := answered
  have hinner : (Call.within t (withName tenant draft.name)).isInner := rfl
  have hlater {trace : List (Exchange sqlInterface)} {made : Imported}
      (h : (∀ x ∈ trace, Call.isInner x.call) ∧ Makes tenant actor draft trace made) :
      (∀ x ∈ ⟨.within t (withName tenant draft.name), some (outcome, t')⟩ :: trace,
        Call.isInner x.call) ∧
      Makes tenant actor draft
        (⟨.within t (withName tenant draft.name), some (outcome, t')⟩ :: trace) made :=
    ⟨List.forall_mem_cons.2 ⟨hinner, h.1⟩, h.2.append_left [_]⟩
  dsimp only
  split
  · exact hlater ⟨List.forall_mem_nil _, .failed _⟩
  · exact hlater ⟨List.forall_mem_nil _, .skipped⟩
  · exact hlater ⟨List.forall_mem_nil _, .failed _⟩
  · exact (always_replace t' _ draft actor).mono fun _ _ => hlater
  · exact (always_add t' tenant draft actor).mono fun _ _ => hlater

theorem always_importOne (t : Transaction) (tenant : TenantId) (mode : ImportMode) (actor : String)
    (draft : PolicyDraft) :
    (importOne t tenant mode actor draft).Always fun trace imported =>
      Bracketed tenant actor draft trace imported.1 := by
  refine Always.perform_bind fun marked => ?_
  obtain ⟨_ | ⟨⟩, t₁⟩ := marked
  · exact .unset _
  · refine Always.bind ((always_importWithin t₁ tenant mode actor draft).mono ?_)
    rintro body ⟨made, t₂⟩ ⟨hinner, hmade⟩
    refine Always.perform_bind fun settled => ?_
    have hending := endingOf_eq_commit_iff made.1
    obtain ⟨e | ⟨⟩, t₃⟩ := settled
    · refine Always.perform_bind fun reported => ?_
      exact .unended e _ hinner hmade hending
    · exact .ended hinner hmade hending

/-! ### All drafts -/

/-- What is exchanged over drafts one after the other. -/
inductive EachBracketed (tenant : TenantId) (actor : String) :
    List PolicyDraft → List (Exchange sqlInterface) → List Imported → Prop
  | nil : EachBracketed tenant actor [] [] []
  | cons {draft : PolicyDraft} {rest : List PolicyDraft} {first others : List (Exchange sqlInterface)}
      {imported : Imported} {more : List Imported}
      (hfirst : Bracketed tenant actor draft first imported)
      (hothers : EachBracketed tenant actor rest others more) :
      EachBracketed tenant actor (draft :: rest) (first ++ others) (imported :: more)

theorem always_importEach (t : Transaction) (tenant : TenantId) (mode : ImportMode) (actor : String)
    (drafts : List PolicyDraft) :
    (importEach t tenant mode actor drafts).Always fun trace imported =>
      EachBracketed tenant actor drafts trace imported.1 := by
  induction drafts generalizing t with
  | nil => exact .nil
  | cons draft rest ih =>
    refine Always.bind ((always_importOne t tenant mode actor draft).mono ?_)
    rintro first ⟨imported, t'⟩ hfirst
    refine Always.bind ((ih t').mono ?_)
    rintro others ⟨more, t''⟩ hothers
    change EachBracketed tenant actor (draft :: rest) (first ++ (others ++ [])) (imported :: more)
    rw [List.append_nil]
    exact .cons hfirst hothers

section EachBracketed

variable {more : List Imported}

theorem Bracketed.revisionRows_eq_nil (h : Bracketed tenant actor draft trace imported) :
    revisionRows trace = [] := by
  cases h with
  | unset e => rfl
  | @ended _ _ _ _ body _ _ hinner =>
    change revisionRows (body ++ _) = []
    rw [revisionRows_append, revisionRows_of_isInner hinner]
    rfl
  | @unended _ _ _ _ body _ _ e warning hinner =>
    change revisionRows (body ++ _) = []
    rw [revisionRows_append, revisionRows_of_isInner hinner]
    rfl

theorem EachBracketed.revisionRows_eq_nil (h : EachBracketed tenant actor drafts trace more) :
    revisionRows trace = [] := by
  induction h with
  | nil => rfl
  | cons hfirst _ ih => rw [revisionRows_append, hfirst.revisionRows_eq_nil, ih, List.append_nil]

/-- Nothing is added to the history while a transaction is open. -/
theorem EachBracketed.revisionRows_enclosed (h : EachBracketed tenant actor drafts trace more)
    (t t' : Transaction) (ended : Except SqlError Unit) :
    revisionRows (⟨.start, some (.ok t)⟩ :: trace ++ [⟨.finish .commit t', some ended⟩]) = [] := by
  rw [revisionRows_append]
  exact congrArg (· ++ []) h.revisionRows_eq_nil

theorem EachBracketed.length_eq (h : EachBracketed tenant actor drafts trace more) :
    more.length = drafts.length := by
  induction h with
  | nil => rfl
  | cons _ _ ih => rw [List.length_cons, List.length_cons, ih]

def changeCount (kind : ChangeKind) (more : List Imported) : Nat :=
  (more.filterMap (·.2)).countP fun c => c.kind = kind

/-- A draft is counted as created or updated where it made such a change, and not otherwise. -/
theorem Makes.counted (h : Makes tenant actor draft trace imported) (r : ImportReport)
    (more : List Imported) (kind : ChangeKind) :
    (r.record imported.1).countOf kind + changeCount kind more =
      r.countOf kind + changeCount kind (imported :: more) := by
  cases h <;> cases kind <;>
    simp [changeCount, ImportReport.countOf, ImportReport.record, Change.ofKind] <;> omega

theorem Bracketed.counted (h : Bracketed tenant actor draft trace imported) (r : ImportReport)
    (more : List Imported) (kind : ChangeKind) :
    (r.record imported.1).countOf kind + changeCount kind more =
      r.countOf kind + changeCount kind (imported :: more) := by
  cases h with
  | ended _ hmade => exact hmade.counted r more kind
  | unset e | unended e => cases kind <;> rfl

theorem EachBracketed.counted (h : EachBracketed tenant actor drafts trace more)
    (kind : ChangeKind) :
    (ImportReport.ofOutcomes (more.map (·.1))).countOf kind = changeCount kind more := by
  suffices hfold : ∀ r : ImportReport,
      ((more.map (·.1)).foldl ImportReport.record r).countOf kind =
        r.countOf kind + changeCount kind more by
    have hempty : ImportReport.empty.countOf kind = 0 := by cases kind <;> rfl
    rw [ImportReport.ofOutcomes, hfold, hempty, Nat.zero_add]
  induction h with
  | nil => exact fun _ => rfl
  | cons hfirst _ ih => exact fun r => (ih (r.record _)).trans (hfirst.counted r _ kind)

end EachBracketed

/-- What is exchanged over an import, and what is made of it. -/
inductive ImportCourse (tenant : TenantId) (actor : String) (drafts : List PolicyDraft) :
    List (Exchange sqlInterface) → Except StoreError ImportReport → Prop
  | unopened (e : SqlError) :
      ImportCourse tenant actor drafts [⟨.start, some (.error e)⟩]
        (.error (transactionError "begin transaction" e))
  | uncommitted {t t' : Transaction} {trace : List (Exchange sqlInterface)}
      {imported : List Imported} (e : SqlError)
      (heach : EachBracketed tenant actor drafts trace imported) :
      ImportCourse tenant actor drafts
        (⟨.start, some (.ok t)⟩ :: trace ++ [⟨.finish .commit t', some (.error e)⟩])
        (.error (transactionError "commit import" e))
  | committed {t t' : Transaction} {trace recording : List (Exchange sqlInterface)}
      {imported : List Imported} (heach : EachBracketed tenant actor drafts trace imported)
      (hplain : ∀ x ∈ recording, Call.isTransactional x.call = false)
      (hrecorded : List.Forall₂ (Change.ShownBy actor) (imported.filterMap (·.2))
        (revisionRows recording)) :
      ImportCourse tenant actor drafts
        (⟨.start, some (.ok t)⟩ :: trace ++ ⟨.finish .commit t', some (.ok ())⟩ :: recording)
        (.ok (.ofOutcomes (imported.map (·.1))))

theorem always_importAll (tenant : TenantId) (drafts : List PolicyDraft) (mode : ImportMode)
    (actor : String) :
    (importAll tenant drafts mode actor).run.Always (ImportCourse tenant actor drafts) := by
  refine always_reading_bind fun started => ?_
  cases started with
  | error e => exact .unopened e
  | ok t =>
    refine Always.lift_bind ((always_importEach t tenant mode actor drafts).mono ?_)
    rintro trace ⟨imported, t'⟩ heach
    refine always_reading_bind fun committed => ?_
    obtain e | ⟨⟩ := committed
    · exact .uncommitted e heach
    · refine Always.lift_bind ((always_recordAll actor _).mono fun recording _ hrecording => ?_)
      change ImportCourse tenant actor drafts (⟨.start, some (.ok t)⟩ ::
        (trace ++ ⟨.finish .commit t', some (.ok ())⟩ :: (recording ++ []))) _
      rw [List.append_nil]
      exact .committed heach hrecording.1 hrecording.2

/-- An import opens one transaction; for every draft it tries to set one savepoint, and ends one that was
set once, before the next is tried; then it commits. Nothing is added to the history unless the commit
was acknowledged. Then every draft is counted once in the report, and what is added to the history are
the changes of the drafts, in their order: as many creations as were counted as created, and as many
updates as were counted as updated. -/
theorem imports_bracketed {outcome : Except StoreError ImportReport}
    (hrun : Program.Runs (fun _ => False) (answer (.importAll tenant drafts mode actor)) trace
      (some outcome)) :
    ImportCourse tenant actor drafts trace outcome ∧
      (∀ e, outcome = .error e → revisionRows trace = []) ∧
      ∀ report, outcome = .ok report →
        report.created + report.updated + report.skipped + report.errors.length = drafts.length ∧
        (revisionRows trace).countP (fun row =>
          row.value "change_type" == .text ChangeKind.create.word) = report.created ∧
        (revisionRows trace).countP (fun row =>
          row.value "change_type" == .text ChangeKind.update.word) = report.updated := by
  have hcourse := (always_importAll tenant drafts mode actor).of_runs hrun
  refine ⟨hcourse, ?_⟩
  cases hcourse with
  | unopened e => exact ⟨fun _ _ => rfl, nofun⟩
  | uncommitted e heach => exact ⟨fun _ _ => heach.revisionRows_enclosed _ _ _, nofun⟩
  | @committed t t' trace recording imported heach hplain hrecorded =>
    refine ⟨nofun, fun report hreport => ?_⟩
    obtain rfl := Except.ok.inj hreport
    rw [List.append_cons, revisionRows_append, heach.revisionRows_enclosed, List.nil_append]
    refine ⟨?_, ?_, ?_⟩
    · have htotal := ImportReport.total_ofOutcomes (imported.map (·.1))
      rwa [List.length_map, heach.length_eq] at htotal
    · rw [countP_of_shown hrecorded]
      exact (heach.counted .create).symm
    · rw [countP_of_shown hrecorded]
      exact (heach.counted .update).symm

/-- No policy is found, and nothing is refused but the insertion of a policy with that name. -/
def refusing (name : String) : Command → Except SqlError Result
  | .insert _ row =>
    if Row.value row "name" == .text name then .error (.refused "no space left") else .ok ⟨[], 1⟩
  | _ => .ok ⟨[], 0⟩

/-- A draft of which only the name matters. -/
def draftNamed (name : String) : PolicyDraft where
  id := none
  name := name
  description := ""
  kind := "content"
  tier := none
  priority := 0
  enabled := true
  conditions := []
  actions := []
  category := none
  tags := []

/-- Of two drafts one is refused; the other is imported, and recorded. -/
theorem refusingRun_bracketed :
    let drafts := [draftNamed "cards", draftNamed "names"]
    let run := (answer (.importAll ⟨"acme"⟩ drafts .skip "alice")).replay (obliging (refusing "names"))
    ImportCourse ⟨"acme"⟩ "alice" drafts run.1 run.2 ∧
      run.2 = .ok ⟨1, 0, 0, ["Error creating policy names: policy database error: " ++
        "Failed to insert policy: error returned from database: no space left"]⟩ ∧
      (revisionRows run.1).countP (fun row =>
        row.value "change_type" == .text ChangeKind.create.word) = 1 := by
  intro drafts run
  have hrun : Program.Runs (fun _ => False) (answer (.importAll ⟨"acme"⟩ drafts .skip "alice"))
      run.1 (some run.2) := Program.runs_replay _ _
  have houtcome : run.2 = .ok ⟨1, 0, 0, ["Error creating policy names: policy database error: " ++
      "Failed to insert policy: error returned from database: no space left"]⟩ := rfl
  obtain ⟨hcourse, -, hreport⟩ := imports_bracketed hrun
  exact ⟨hcourse, houtcome, (hreport _ houtcome).2.1⟩

end PolicyStore

end Sql

end Governance
