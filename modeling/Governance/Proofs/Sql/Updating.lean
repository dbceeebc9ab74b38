import Governance.Proofs.Program.Acting
import Governance.Proofs.Sql.History
import Governance.Sql.Script

/-!
# Updates are all or nothing

An update locks the row of a policy, writes the policy that a patch makes of it and commits, all in one
transaction. Whatever the database answers, it says that the policy was changed exactly if all of this was
acknowledged in this order; after anything that fails nothing more is sent than what undoes the
transaction.
-/

namespace Governance.Program

variable {I : Interface} {σ α : Type} {answer : (c : I.Call) → Acting σ (I.Answer c)}

/-- A component answers the calls in exchanges, one after the other. -/
inductive Served (answer : (c : I.Call) → Acting σ (I.Answer c)) :
    σ → Ambient → List (Exchange I) → σ → Prop where
  | nil (s : σ) (a : Ambient) : Served answer s a [] s
  | cons {c : I.Call} {reply : I.Answer c} {s s' s'' : σ} {a a' : Ambient}
      {rest : List (Exchange I)} (hreply : (answer c).run s a = ((reply, s'), a'))
      (hrest : Served answer s' a' rest s'') : Served answer s a (⟨c, some reply⟩ :: rest) s''

theorem Served.of_nil {s s' : σ} {a : Ambient} (h : Served answer s a [] s') : s' = s := by
  cases h
  rfl

theorem Served.of_cons {c : I.Call} {reply : I.Answer c} {s s'' : σ} {a : Ambient}
    {rest : List (Exchange I)} (h : Served answer s a (⟨c, some reply⟩ :: rest) s'') :
    ∃ s' a', (answer c).run s a = ((reply, s'), a') ∧ Served answer s' a' rest s'' := by
  cases h with
  | cons hreply hrest => exact ⟨_, _, hreply, hrest⟩

/-- What always holds of a program holds where a component answers its calls. -/
theorem Always.served {post : List (Exchange I) → α → Prop} {p : Program I α} (hp : p.Always post)
    (answer : (c : I.Call) → Acting σ (I.Answer c)) (s : σ) (a : Ambient) :
    ∃ trace, Served answer s a trace ((p.run answer).run s a).1.2 ∧
      post trace ((p.run answer).run s a).1.1 := by
  induction p generalizing s a post with
  | done value => exact ⟨[], .nil s a, hp⟩
  | call c next ih =>
    obtain ⟨trace, hserved, hpost⟩ :=
      ih _ (hp ((answer c).run s a).1.1) ((answer c).run s a).1.2 ((answer c).run s a).2
    exact ⟨_, .cons rfl hserved, hpost⟩

end Governance.Program

namespace Governance.Sql

/-! ### What a command carries -/

namespace PolicyTable

def savedColumns : List String :=
  ["id", "tenant_id", "name", "description", "policy_type", "priority", "enabled", "conditions",
    "actions", "category", "tags", "version", "updated_at", "updated_by"]

/-- The values of an update are the fields of a policy, each in the place of its column. -/
structure CarriesFields (p : Policy) (c : Command) : Prop where
  text : c.text = updateText policyTable c.assigned c.compared
  places : c.compared ++ c.assigned = savedColumns.zipIdx 1
  values : c.values = savedColumns.map (rowOf p).value

theorem carriesFields_saving (p : Policy) : CarriesFields p (saving p) :=
  ⟨Command.text_update .., rfl, rfl⟩

end PolicyTable

namespace PolicyStore

open PolicyTable
open Program (Always)

variable {tenant : TenantId} {id : PolicyId} {patch : PolicyPatch} {actor : String}
  {trace : List (Exchange sqlInterface)} {outcome : Except StoreError (Option Policy)}

/-! ### The course of an update -/

/-- A policy is read off the first row that was found. -/
def Shown (found : Result) (p : Policy) : Prop :=
  ∃ row rest, found.rows = row :: rest ∧ ofRow row = .ok (.ok p)

theorem fetchedById_eq_some_iff {outcome : Except SqlError Result} {p : Policy} :
    fetchedById outcome = .ok (some p) ↔ ∃ found, outcome = .ok found ∧ Shown found p := by
  unfold fetchedById fetched Shown
  cases outcome with
  | error e => simp [Except.bind]
  | ok found =>
    obtain ⟨rows, affected⟩ := found
    cases rows with
    | nil => simp [Except.bind, Result.readFirst?]
    | cons row rest =>
      cases hread : ofRow row with
      | error e => simp [Except.bind, Result.readFirst?, hread, Except.map]
      | ok read => cases read <;> simp [Except.bind, Result.readFirst?, hread, Except.map]

/-- A transaction is opened, and the row of a policy is asked for and locked in it. -/
def locking (tenant : TenantId) (id : PolicyId) (t t₁ : Transaction) (found : Except SqlError Result) :
    List (Exchange sqlInterface) :=
  [⟨.start, some (.ok t)⟩, ⟨.within t (withId tenant id true), some (found, t₁)⟩]

/-- What is exchanged over an update, and what is made of it. -/
inductive UpdateCourse (tenant : TenantId) (id : PolicyId) (patch : PolicyPatch) (actor : String) :
    List (Exchange sqlInterface) → Except StoreError (Option Policy) → Prop
  | unopened (e : SqlError) :
      UpdateCourse tenant id patch actor [⟨.start, some (.error e)⟩]
        (.error (transactionError "begin transaction" e))
  | unread {t t₁ : Transaction} {found : Except SqlError Result} {e : StoreError}
      (hfound : fetchedById found = .error e) :
      UpdateCourse tenant id patch actor (locking tenant id t t₁ found ++ [⟨.abandon t₁, some ()⟩])
        (.error e)
  | absent {t t₁ : Transaction} {found : Except SqlError Result}
      (hfound : fetchedById found = .ok none) :
      UpdateCourse tenant id patch actor (locking tenant id t t₁ found ++ [⟨.abandon t₁, some ()⟩])
        (.ok none)
  | kept {t t₁ : Transaction} {found : Except SqlError Result} {q : Policy}
      (hfound : fetchedById found = .ok (some q)) (hpatch : patch.isEmpty) :
      UpdateCourse tenant id patch actor (locking tenant id t t₁ found ++ [⟨.abandon t₁, some ()⟩])
        (.ok (some q))
  | unwritten {t t₁ t₂ : Transaction} {found : Except SqlError Result} {q : Policy} {now : Instant}
      (e : SqlError) (hfound : fetchedById found = .ok (some q)) (hpatch : patch.isEmpty = false) :
      UpdateCourse tenant id patch actor (locking tenant id t t₁ found ++ [⟨.now, some now⟩,
        ⟨.within t₁ (saving (q.applyPatch patch actor now)), some (.error e, t₂)⟩,
        ⟨.abandon t₂, some ()⟩]) (.error (databaseError "update policy" e))
  | uncommitted {t t₁ t₂ : Transaction} {found : Except SqlError Result} {q : Policy} {now : Instant}
      {written : Result} (e : SqlError) (hfound : fetchedById found = .ok (some q))
      (hpatch : patch.isEmpty = false) :
      UpdateCourse tenant id patch actor (locking tenant id t t₁ found ++ [⟨.now, some now⟩,
        ⟨.within t₁ (saving (q.applyPatch patch actor now)), some (.ok written, t₂)⟩,
        ⟨.finish .commit t₂, some (.error e)⟩]) (.error (transactionError "commit transaction" e))
  | committed {t t₁ t₂ : Transaction} {found : Except SqlError Result} {q p : Policy} {now : Instant}
      {written : Result} {told : Event} {recording : List (Exchange sqlInterface)}
      (hfound : fetchedById found = .ok (some q)) (hpatch : patch.isEmpty = false)
      (hp : p = q.applyPatch patch actor now)
      (hrecorded : Recorded actor (.ofKind p (.ofTransition q.enabled p.enabled)) recording) :
      UpdateCourse tenant id patch actor (locking tenant id t t₁ found ++ [⟨.now, some now⟩,
        ⟨.within t₁ (saving p), some (.ok written, t₂)⟩, ⟨.finish .commit t₂, some (.ok ())⟩] ++
        ⟨.report told, some ()⟩ :: recording) (.ok (some p))

/-- What is exchanged while a policy is written and its transaction ended. -/
inductive SaveCourse (t : Transaction) (p : Policy) :
    List (Exchange sqlInterface) → Except StoreError Unit → Prop
  | unwritten {t' : Transaction} (e : SqlError) :
      SaveCourse t p [⟨.within t (saving p), some (.error e, t')⟩, ⟨.abandon t', some ()⟩]
        (.error (databaseError "update policy" e))
  | uncommitted {t' : Transaction} {written : Result} (e : SqlError) :
      SaveCourse t p [⟨.within t (saving p), some (.ok written, t')⟩,
        ⟨.finish .commit t', some (.error e)⟩] (.error (transactionError "commit transaction" e))
  | committed {t' : Transaction} {written : Result} :
      SaveCourse t p [⟨.within t (saving p), some (.ok written, t')⟩,
        ⟨.finish .commit t', some (.ok ())⟩] (.ok ())

theorem always_saveCourse (t : Transaction) (p : Policy) :
    (save t p).run.Always (SaveCourse t p) := by
  refine Always.lift_perform_bind fun answered => ?_
  obtain ⟨e | written, t'⟩ := answered
  · exact fun _ => .unwritten e
  · intro committed
    obtain e | ⟨⟩ := committed
    · exact .uncommitted e
    · exact .committed

theorem always_updateCourse (tenant : TenantId) (id : PolicyId) (patch : PolicyPatch)
    (actor : String) :
    (update tenant id patch actor).run.Always (UpdateCourse tenant id patch actor) := by
  refine always_reading_bind fun started => ?_
  obtain e | t := started
  · exact .unopened e
  refine Always.lift_perform_bind fun answered => ?_
  obtain ⟨found, t₁⟩ := answered
  dsimp only
  cases hfound : fetchedById found with
  | error e => exact fun _ => .unread hfound
  | ok selected =>
    cases selected with
    | none => exact fun _ => .absent hfound
    | some q =>
      dsimp only
      split
      · rename_i hpatch
        exact fun _ => .kept hfound hpatch
      · rename_i hpatch
        rw [Bool.not_eq_true] at hpatch
        refine Always.lift_perform_bind fun now => ?_
        refine Always.bind_except ((always_saveCourse t₁ _).mono fun trace result hsaved => ?_)
        cases hsaved with
        | unwritten e => exact .unwritten e hfound hpatch
        | uncommitted e => exact .uncommitted e hfound hpatch
        | committed =>
          refine Always.lift_perform_bind fun reported => ?_
          refine Always.lift_bind ((always_record actor _).mono fun recording _ hrecorded => ?_)
          refine Always.pure ?_
          rw [List.append_nil]
          exact .committed hfound hpatch rfl hrecorded

/-! ### All or nothing -/

/-- Whether something fails in the transaction of an update. A row that is no policy is a failure. -/
def Fails : Exchange sqlInterface → Prop
  | ⟨.start, some (.error _)⟩ => True
  | ⟨.within _ (.select _), some (found, _)⟩ => ∃ e, fetchedById found = .error e
  | ⟨.within _ _, some (.error _, _)⟩ => True
  | ⟨.finish _ _, some (.error _)⟩ => True
  | _ => False

/-- Whether a row was asked for and there is none. -/
def FindsNone : Exchange sqlInterface → Prop
  | ⟨.within _ (.select _), some (found, _)⟩ => fetchedById found = .ok none
  | _ => False

/-- Whether a policy is written, or what was written made to last. -/
def Writes : Exchange sqlInterface → Prop
  | ⟨.within _ (.update ..), _⟩ => True
  | ⟨.finish .commit _, _⟩ => True
  | _ => False

/-- A transaction was opened, the row of a policy was found and locked in it, the policy that the patch
makes of this one was written, and the transaction was committed; what follows is left open. -/
def Replaces (tenant : TenantId) (id : PolicyId) (patch : PolicyPatch) (actor : String)
    (q p : Policy) (trace : List (Exchange sqlInterface)) : Prop :=
  ∃ t t₁ t₂ found now written later, Shown found q ∧ p = q.applyPatch patch actor now ∧
    trace = locking tenant id t t₁ (.ok found) ++ [⟨.now, some now⟩,
      ⟨.within t₁ (saving p), some (.ok written, t₂)⟩, ⟨.finish .commit t₂, some (.ok ())⟩] ++ later

/-- What the exchanges over an update have to do with its outcome. -/
structure IsAtomic (tenant : TenantId) (id : PolicyId) (patch : PolicyPatch) (actor : String)
    (trace : List (Exchange sqlInterface)) (outcome : Except StoreError (Option Policy)) : Prop where
  succeeds : patch.isEmpty = false → ∀ p, outcome = .ok (some p) ↔
    ∃ q, Replaces tenant id patch actor q p trace
  fails : (∃ e, outcome = .error e) ↔ ∃ x ∈ trace, Fails x
  undone : trace.Pairwise fun x y => Fails x → ∃ t, y.call = .abandon t
  absent : outcome = .ok none ↔ ∃ x ∈ trace, FindsNone x
  idle : patch.isEmpty ∨ outcome = .ok none → ∀ x ∈ trace, ¬ Writes x

/-- Adding to the history is no part of the transaction. -/
theorem Recorded.apart {c : Change} (h : Recorded actor c trace) :
    ∀ x ∈ trace, ¬ Fails x ∧ ¬ FindsNone x := by
  cases h with
  | intro hlost =>
    refine List.forall_mem_append.2 ⟨by simp [Fails, FindsNone], fun x hx => ?_⟩
    obtain ⟨event, hevent⟩ := hlost x hx
    obtain ⟨call, answer⟩ := x
    subst hevent
    exact ⟨not_false, not_false⟩

theorem UpdateCourse.succeeds (h : UpdateCourse tenant id patch actor trace outcome)
    (hpatch : patch.isEmpty = false) (p : Policy) :
    outcome = .ok (some p) ↔ ∃ q, Replaces tenant id patch actor q p trace := by
  constructor
  · rintro rfl
    cases h with
    | kept hfound hempty =>
      rw [hpatch] at hempty
      cases hempty
    | committed hfound _ hp _ =>
      obtain ⟨found, rfl, hshown⟩ := fetchedById_eq_some_iff.1 hfound
      exact ⟨_, _, _, _, _, _, _, _, hshown, hp, rfl⟩
  · rintro ⟨q, t, t₁, t₂, found, now, written, later, hshown, rfl, htrace⟩
    -- The exchanges tell the courses apart at the first that is not as it should be.
    cases h with
    | unopened e => cases (List.cons.inj htrace).1
    | unread | absent | kept => cases congrArg (fun l => l[2]?.map Exchange.call) htrace
    | unwritten e => cases congrArg (fun l => l[4]?.map Exchange.call) htrace
    | uncommitted e => cases congrArg (fun l => l[4]?) htrace
    | committed hfound _ hp _ =>
      have hselected := congrArg (fun l => l[1]?) htrace
      have hread := congrArg (fun l => l[2]?) htrace
      cases hread
      cases hselected
      rw [fetchedById_eq_some_iff.2 ⟨found, rfl, hshown⟩] at hfound
      cases hfound
      rw [hp]

theorem UpdateCourse.fails_iff (h : UpdateCourse tenant id patch actor trace outcome) :
    (∃ e, outcome = .error e) ↔ ∃ x ∈ trace, Fails x := by
  cases h with
  | committed hfound hpatch hp hrecorded =>
    have hapart := fun x hx => (hrecorded.apart x hx).1
    simpa [locking, Fails, withId, saving, hfound] using hapart
  | _ => simp_all [locking, Fails, withId, saving]

theorem UpdateCourse.undone (h : UpdateCourse tenant id patch actor trace outcome) :
    trace.Pairwise fun x y => Fails x → ∃ t, y.call = .abandon t := by
  cases h with
  | @committed _ _ _ _ _ _ _ _ _ recording hfound hpatch hp hrecorded =>
    have hapart : recording.Pairwise fun x y => Fails x → ∃ t, y.call = .abandon t :=
      List.pairwise_of_forall_mem_list fun x hx _ _ hfails =>
        absurd hfails (hrecorded.apart x hx).1
    simpa [locking, Fails, withId, saving, hfound] using hapart
  | _ => simp_all [locking, Fails, withId, saving]

theorem UpdateCourse.absent_iff (h : UpdateCourse tenant id patch actor trace outcome) :
    outcome = .ok none ↔ ∃ x ∈ trace, FindsNone x := by
  cases h with
  | committed hfound hpatch hp hrecorded =>
    have hapart := fun x hx => (hrecorded.apart x hx).2
    simpa [locking, FindsNone, withId, saving, hfound] using hapart
  | _ => simp_all [locking, FindsNone, withId, saving]

theorem UpdateCourse.idle (h : UpdateCourse tenant id patch actor trace outcome)
    (hidle : patch.isEmpty ∨ outcome = .ok none) : ∀ x ∈ trace, ¬ Writes x := by
  cases h with
  | committed _ hpatch _ _ => simp [hpatch] at hidle
  | _ => simp_all [locking, Writes, withId]

theorem UpdateCourse.isAtomic (h : UpdateCourse tenant id patch actor trace outcome) :
    IsAtomic tenant id patch actor trace outcome :=
  ⟨h.succeeds, h.fails_iff, h.undone, h.absent_iff, h.idle⟩

end PolicyStore

/-! ### What is sent -/

namespace Script

variable {s s' : Script} {a a' : Ambient}

/-- The connection of a transaction that has nothing to make up for. -/
def settled : Transaction := ⟨1, []⟩

theorem sent_send (c : Control) (s : Script) (a : Ambient) :
    ((send c).run s a).1.2.sent = .control c :: s.sent := by
  unfold send
  rw [Acting.run_bind_eq, Acting.run_bind_eq]
  split <;> rfl

theorem sent_run (c : Command) (s : Script) (a : Ambient) :
    ((run c).run s a).1.2.sent = .command c :: s.sent := by
  unfold run
  rw [Acting.run_bind_eq, Acting.run_bind_eq, Acting.run_bind_eq]
  split <;> rfl

theorem run_whenOpen {α : Type} (act : Acting Script (Except SqlError α)) (s : Script)
    (a : Ambient) :
    (whenOpen act).run s a = if s.isClosed then ((.error .closed, s), a) else act.run s a := by
  unfold whenOpen
  rw [Acting.run_bind_eq, Acting.run_get]
  cases s.isClosed <;> rfl

theorem sent_execute {c : Command} {reply : Except SqlError Result}
    (h : (answer (.execute c)).run s a = ((reply, s'), a')) :
    s'.sent = s.sent ∨ s'.sent = .command c :: s.sent := by
  rw [answer, run_whenOpen] at h
  split at h
  · cases h
    exact .inl rfl
  · have hsent := sent_run c s a
    rw [h] at hsent
    exact .inr hsent

theorem sent_start {reply : Except SqlError Transaction}
    (h : (answer .start).run s a = ((reply, s'), a')) :
    (∀ t, reply = .ok t → t = settled ∧ s'.sent = .control .begin :: s.sent) ∧
      (s'.sent = s.sent ∨ s'.sent = .control .begin :: s.sent) := by
  rw [answer, run_whenOpen] at h
  split at h
  · cases h
    exact ⟨nofun, .inl rfl⟩
  · have hsent := sent_send .begin s a
    rw [Acting.run_bind_eq] at h
    cases h
    refine ⟨fun t ht => ⟨?_, hsent⟩, .inr hsent⟩
    cases hreply : ((send .begin).run s a).1.1 with
    | ok => rw [hreply] at ht; exact (Except.ok.inj ht).symm
    | error e => rw [hreply] at ht; cases ht

theorem sent_now {now : Instant} (h : (answer .now).run s a = ((now, s'), a')) : s'.sent = s.sent := by
  cases h
  rfl

theorem sent_uuid {u : Uuid} (h : (answer .uuid).run s a = ((u, s'), a')) : s'.sent = s.sent := by
  cases h
  rfl

theorem sent_report {event : Event} (h : (answer (.report event)).run s a = (((), s'), a')) :
    s'.sent = s.sent := by
  cases h
  rfl

theorem run_afterPaying {α : Type} (act : Acting Script (Except SqlError α)) (s : Script)
    (a : Ambient) : (afterPaying settled act).run s a =
      ((((act.run s a).1.1, settled), (act.run s a).1.2), (act.run s a).2) := rfl

theorem sent_within {c : Command} {reply : Except SqlError Result × Transaction}
    (h : (answer (.within settled c)).run s a = ((reply, s'), a')) :
    reply.2 = settled ∧ s'.sent = .command c :: s.sent := by
  have hsent := sent_run c s a
  rw [answer, run_afterPaying] at h
  cases h
  exact ⟨rfl, hsent⟩

theorem sent_abandon (h : (answer (.abandon settled)).run s a = (((), s'), a')) :
    s'.sent = .control .rollback :: s.sent := by
  have hsent := sent_send .rollback s a
  have hgiven : (answer (.abandon settled)).run s a =
    (((), ((send .rollback).run s a).1.2), ((send .rollback).run s a).2) := rfl
  rw [hgiven] at h
  cases h
  exact hsent

/-- A commit that fails leaves the transaction to be undone, which is done at once. -/
theorem sent_finish {reply : Except SqlError Unit}
    (h : (answer (.finish .commit settled)).run s a = ((reply, s'), a')) :
    match reply with
    | .ok () => s'.sent = .control .commit :: s.sent
    | .error _ => s'.sent = .control .rollback :: .control .commit :: s.sent := by
  have hcommit := sent_send .commit s a
  have hpaid := run_afterPaying (send (closing settled .commit)) s a
  change _ = (((((send .commit).run s a).1.1, settled), ((send .commit).run s a).1.2),
    ((send .commit).run s a).2) at hpaid
  obtain ⟨outcome, s₁, a₁, hrun⟩ : ∃ outcome s₁ a₁, (send .commit).run s a = ((outcome, s₁), a₁) :=
    ⟨_, _, _, rfl⟩
  rw [hrun] at hcommit hpaid
  cases outcome with
  | ok =>
    have hsettled : (settle .commit settled).run s a = (((.ok (), ⟨0, []⟩), s₁), a₁) :=
      Acting.run_bind hpaid
    have hfinished : (answer (.finish .commit settled)).run s a = ((.ok (), s₁), a₁) :=
      Acting.run_bind hsettled
    rw [hfinished] at h
    cases h
    exact hcommit
  | error e =>
    have hsettled : (settle .commit settled).run s a = (((.error e, ⟨0, [.rollback]⟩), s₁), a₁) :=
      Acting.run_bind hpaid
    have hfinished : (answer (.finish .commit settled)).run s a =
        ((.error e, ((send .rollback).run s₁ a₁).1.2), ((send .rollback).run s₁ a₁).2) :=
      Acting.run_bind hsettled
    have hsent := sent_send .rollback s₁ a₁
    rw [hcommit] at hsent
    rw [hfinished] at h
    cases h
    exact hsent

end Script

namespace PolicyStore

open PolicyTable Program

variable {tenant : TenantId} {id : PolicyId} {patch : PolicyPatch} {actor : String}
  {trace : List (Exchange sqlInterface)} {outcome : Except StoreError (Option Policy)}

/-- What is sent over an update with each outcome. -/
inductive UpdateSends (tenant : TenantId) (id : PolicyId) (patch : PolicyPatch) :
    Except StoreError (Option Policy) → List Statement → Prop
  | unopened {e : StoreError} {said : List Statement} (hsaid : said <+: [.control .begin]) :
      UpdateSends tenant id patch (.error e) said
  | unchanged {outcome : Except StoreError (Option Policy)}
      (hunchanged : ∀ p, outcome = .ok (some p) → patch.isEmpty) :
      UpdateSends tenant id patch outcome
        [.control .begin, .command (withId tenant id true), .control .rollback]
  | unwritten {e : StoreError} (p : Policy) (hpatch : patch.isEmpty = false) :
      UpdateSends tenant id patch (.error e) [.control .begin, .command (withId tenant id true),
        .command (saving p), .control .rollback]
  | uncommitted {e : StoreError} (p : Policy) (hpatch : patch.isEmpty = false) :
      UpdateSends tenant id patch (.error e) [.control .begin, .command (withId tenant id true),
        .command (saving p), .control .commit, .control .rollback]
  | committed {p : Policy} {r : Revision} {said : List Statement} (hpatch : patch.isEmpty = false)
      (hsaid : said <+: [.command (RevisionTable.insertion r)]) :
      UpdateSends tenant id patch (.ok (some p)) ([.control .begin,
        .command (withId tenant id true), .command (saving p), .control .commit] ++ said)

theorem sends_reports {s s' : Script} {a : Ambient} (h : OnlyReports trace)
    (hserved : Served Script.answer s a trace s') : s'.sent = s.sent := by
  induction hserved with
  | nil => rfl
  | @cons c reply s s' s'' a a' rest hreply _ ih =>
    obtain ⟨⟨event, hevent⟩, hrest⟩ := List.forall_mem_cons.1 h
    subst hevent
    exact (ih hrest).trans (Script.sent_report hreply)

/-- Nothing but a row of the history is sent over a change that is added to it. -/
theorem Recorded.sends {c : Change} {s s' : Script} {a : Ambient} (h : Recorded actor c trace)
    (hserved : Served Script.answer s a trace s') :
    ∃ r said, said <+: [.command (RevisionTable.insertion r)] ∧
      s'.sent = said.reverse ++ s.sent := by
  cases h with
  | @intro id now _ _ hlost =>
    refine ⟨.capture id now c.policy c.kind c.summary actor, ?_⟩
    obtain ⟨s₁, a₁, huuid, hserved⟩ := hserved.of_cons
    obtain ⟨s₂, a₂, hnow, hserved⟩ := hserved.of_cons
    obtain ⟨s₃, a₃, hinsert, hserved⟩ := hserved.of_cons
    have hsame : s₂.sent = s.sent := (Script.sent_now hnow).trans (Script.sent_uuid huuid)
    rw [sends_reports hlost hserved, ← hsame]
    rcases Script.sent_execute hinsert with h | h
    · exact ⟨[], List.nil_prefix, h⟩
    · exact ⟨_, List.prefix_refl _, h⟩

theorem sends_locking {s s' : Script} {a : Ambient} {t t₁ : Transaction}
    {found : Except SqlError Result} {rest : List (Exchange sqlInterface)}
    (hserved : Served Script.answer s a (locking tenant id t t₁ found ++ rest) s') :
    t₁ = Script.settled ∧ ∃ s₂ a₂, Served Script.answer s₂ a₂ rest s' ∧
      s₂.sent = .command (withId tenant id true) :: .control .begin :: s.sent := by
  obtain ⟨s₁, a₁, hstart, hopened⟩ := hserved.of_cons
  change Served Script.answer s₁ _ (_ :: rest) s' at hopened
  obtain ⟨s₂, a₂, hselect, hrest⟩ := hopened.of_cons
  obtain ⟨rfl, hbegun⟩ := (Script.sent_start hstart).1 t rfl
  obtain ⟨ht₁, hselected⟩ := Script.sent_within hselect
  rw [hbegun] at hselected
  exact ⟨ht₁, s₂, a₂, hrest, hselected⟩

theorem sends_saving {s s' : Script} {a : Ambient} {t t₁ t₂ : Transaction} {now : Instant} {p : Policy}
    {found written : Except SqlError Result} {rest : List (Exchange sqlInterface)}
    (hserved : Served Script.answer s a (locking tenant id t t₁ found ++ ⟨.now, some now⟩ ::
      ⟨.within t₁ (saving p), some (written, t₂)⟩ :: rest) s') :
    t₂ = Script.settled ∧ ∃ s₄ a₄, Served Script.answer s₄ a₄ rest s' ∧ s₄.sent =
      .command (saving p) :: .command (withId tenant id true) :: .control .begin :: s.sent := by
  obtain ⟨rfl, s₂, a₂, hserved, hlocked⟩ := sends_locking hserved
  obtain ⟨s₃, a₃, hnow, hserved⟩ := hserved.of_cons
  obtain ⟨s₄, a₄, hwrite, hrest⟩ := hserved.of_cons
  obtain ⟨ht₂, hwritten⟩ := Script.sent_within hwrite
  rw [Script.sent_now hnow, hlocked] at hwritten
  exact ⟨ht₂, s₄, a₄, hrest, hwritten⟩

theorem UpdateCourse.sends {s s' : Script} {a : Ambient}
    (h : UpdateCourse tenant id patch actor trace outcome)
    (hserved : Served Script.answer s a trace s') :
    ∃ said, s'.sent = said.reverse ++ s.sent ∧ UpdateSends tenant id patch outcome said := by
  -- A row that is absent, is no policy, or is to be kept: each time the transaction is undone at once.
  have hundone {t t₁ : Transaction} {found : Except SqlError Result}
      {outcome : Except StoreError (Option Policy)}
      (hserved : Served Script.answer s a (locking tenant id t t₁ found ++
        [⟨.abandon t₁, some ()⟩]) s')
      (hunchanged : ∀ p, outcome = .ok (some p) → patch.isEmpty) :
      ∃ said, s'.sent = said.reverse ++ s.sent ∧ UpdateSends tenant id patch outcome said := by
    obtain ⟨rfl, s₂, a₂, hserved, hlocked⟩ := sends_locking hserved
    obtain ⟨s₃, a₃, habandoned, hserved⟩ := hserved.of_cons
    obtain rfl := hserved.of_nil
    refine ⟨_, ?_, .unchanged hunchanged⟩
    rw [Script.sent_abandon habandoned, hlocked]
    rfl
  cases h with
  | unopened e =>
    obtain ⟨s₁, a₁, hstart, hserved⟩ := hserved.of_cons
    obtain rfl := hserved.of_nil
    rcases (Script.sent_start hstart).2 with h | h
    · exact ⟨[], h, .unopened List.nil_prefix⟩
    · exact ⟨[.control .begin], h, .unopened (List.prefix_refl _)⟩
  | unread | absent =>
    apply hundone hserved
    intro p hp
    cases hp
  | kept _ hpatch => exact hundone hserved fun _ _ => hpatch
  | @unwritten _ _ _ _ q now e hfound hpatch =>
    obtain ⟨rfl, s₄, a₄, hserved, hwritten⟩ := sends_saving hserved
    obtain ⟨s₅, a₅, habandoned, hserved⟩ := hserved.of_cons
    obtain rfl := hserved.of_nil
    refine ⟨_, ?_, .unwritten (q.applyPatch patch actor now) hpatch⟩
    rw [Script.sent_abandon habandoned, hwritten]
    rfl
  | @uncommitted _ _ _ _ q now _ e hfound hpatch =>
    obtain ⟨rfl, s₄, a₄, hserved, hwritten⟩ := sends_saving hserved
    obtain ⟨s₅, a₅, hcommit, hserved⟩ := hserved.of_cons
    obtain rfl := hserved.of_nil
    have hended := Script.sent_finish hcommit
    refine ⟨_, ?_, .uncommitted (q.applyPatch patch actor now) hpatch⟩
    rw [hended, hwritten]
    rfl
  | committed hfound hpatch hp hrecorded =>
    rw [List.append_assoc] at hserved
    obtain ⟨rfl, s₄, a₄, hserved, hwritten⟩ := sends_saving hserved
    obtain ⟨s₅, a₅, hcommit, hserved⟩ := hserved.of_cons
    obtain ⟨s₆, a₆, htold, hrest⟩ := hserved.of_cons
    have hdone : s₅.sent = _ := Script.sent_finish hcommit
    obtain ⟨r, said, hsaid, hsent⟩ := hrecorded.sends hrest
    refine ⟨_, ?_, .committed hpatch hsaid⟩
    rw [hsent, Script.sent_report htold, hdone, hwritten]
    simp

/-- Whoever answers the calls of an update: it says that a policy was changed exactly if the row was found
and locked, the patched policy written and the transaction committed, each step acknowledged, and after a
failure the transaction is only left. The policy is then a version further, and what is written are its
fields. Of a database that follows a script, nothing is asked beyond this, and what is added to the
history follows the commit and does not matter to the outcome. -/
theorem update_all_or_nothing (tenant : TenantId) (id : PolicyId) (patch : PolicyPatch)
    (actor : String) :
    (update tenant id patch actor).run.Always (IsAtomic tenant id patch actor) ∧
    (∀ (q : Policy) (now : Instant), (q.applyPatch patch actor now).version = q.version + 1) ∧
    (∀ p, CarriesFields p (saving p)) ∧
    ∀ (s : Script) (a : Ambient),
      let done := ((update tenant id patch actor).run.run Script.answer).run s a
      ∃ trace said, Served Script.answer s a trace done.1.2 ∧
        IsAtomic tenant id patch actor trace done.1.1 ∧
        done.1.2.sent = said.reverse ++ s.sent ∧ UpdateSends tenant id patch done.1.1 said := by
  have hcourse := always_updateCourse tenant id patch actor
  refine ⟨hcourse.mono fun _ _ h => h.isAtomic, fun _ _ => rfl, carriesFields_saving, ?_⟩
  intro s a done
  obtain ⟨trace, hserved, h⟩ := hcourse.served Script.answer s a
  obtain ⟨said, hsent, hsends⟩ := h.sends hserved
  exact ⟨trace, said, hserved, h.isAtomic, hsent, hsends⟩

/-- Where there is no row, the transaction is undone. -/
example : (((update ⟨"acme"⟩ ⟨"p1"⟩ ⟨none, none, none, none, none, none, none, none, none⟩
    "alice").run.run Script.answer).run .blank .initial).1.2.sent =
      [.control .rollback, .command (withId ⟨"acme"⟩ ⟨"p1"⟩ true), .control .begin] := rfl

end PolicyStore

end Governance.Sql
