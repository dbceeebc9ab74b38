import Governance.Proofs.Service.Limit
import Governance.Proofs.Store.Imports

/-!
# Calls that fail

A call to the service looks at the store first, and then makes at most one call that writes. A failure
comes either from the looking, which changes nothing, or from that one call; and a store that fails, or
does not find the policy it was to change, has left its contents alone. An import that is not committed
has made its changes to a copy.
-/

namespace Governance

/-! ### Calls of the store that change nothing -/

namespace StoreCall

def isIdle : StoreCall → Bool
  | .update _ _ patch _ => patch.isEmpty
  | c => c.isRead

theorem isIdle_of_isRead {c : StoreCall} (hread : c.isRead) : c.isIdle := by
  cases c with
  | update => cases hread
  | _ => exact hread

/-- By these answers a store tells that it has done nothing. -/
def Declines : (c : StoreCall) → c.Answer → Prop
  | _, .error _ => True
  | .update .., .ok found => found = none
  | .delete .., .ok deleted => deleted = false
  | _, .ok _ => False

end StoreCall

namespace MemoryStore

open Acting (Ensures)

variable {s : MemoryStore}

theorem ensures_update_declined (tenant : TenantId) (id : PolicyId) (patch : PolicyPatch)
    (actor : String) : Ensures (update tenant id patch actor) s fun found s' =>
      patch.isEmpty ∨ found = none → s' = s := by
  refine .get_bind ?_
  split
  · exact .pure fun _ => rfl
  · rename_i p _
    split
    · exact .pure fun _ => rfl
    · rename_i hpatch
      have hwritten (next : Policy) (t : MemoryStore) :
          patch.isEmpty ∨ some next = none → t = s := by
        rintro (hempty | hnone)
        · exact absurd hempty hpatch
        · cases hnone
      exact .lift_bind fun _ => .bind fun _ => .bind fun _ => .bind fun _ => .pure (hwritten _ _)

theorem ensures_delete_declined (tenant : TenantId) (id : PolicyId) (actor : String) :
    Ensures (delete tenant id actor) s fun deleted s' => deleted = false → s' = s := by
  refine .get_bind ?_
  split
  · exact .pure fun _ => rfl
  · exact .bind fun _ => .bind fun _ => .bind fun _ => .pure nofun

theorem ensures_importAll_declined (tenant : TenantId) (drafts : List PolicyDraft)
    (mode : ImportMode) (actor : String) : Ensures (importAll tenant drafts mode actor) s
      fun answer s' => ∀ e, answer = .error e → s' = s := by
  intro a e
  rw [importAll_run]
  split
  · exact fun _ => rfl
  · exact nofun

/-- A call that is idle or declined leaves the store exactly as it was. -/
theorem ensures_answer_declined (c : StoreCall) :
    Ensures (answer c) s fun answer s' => c.isIdle ∨ c.Declines answer → s' = s := by
  cases c with
  | create tenant draft actor =>
    refine ensures_create.mono ?_
    rintro (e | p) s' hmade (hidle | hdeclined)
    · cases hidle
    · exact hmade
    · cases hidle
    · exact hdeclined.elim
  | update tenant id patch actor =>
    refine .bind ((ensures_update_declined tenant id patch actor).mono ?_)
    exact fun _ _ hsame => .pure hsame
  | delete tenant id actor =>
    refine .bind ((ensures_delete_declined tenant id actor).mono fun _ _ hsame => .pure ?_)
    rintro (hidle | hdeclined)
    · cases hidle
    · exact hsame hdeclined
  | importAll tenant drafts mode actor =>
    refine (ensures_importAll_declined tenant drafts mode actor).mono ?_
    rintro (e | report) s' hsame (hidle | hdeclined)
    · cases hidle
    · exact hsame e rfl
    · cases hidle
    · exact hdeclined.elim
  | _ => exact fun _ _ => rfl

end MemoryStore

/-! ### Computations that fail without a trace -/

namespace Service

open ServiceProgram

variable {α β : Type} {tenant : TenantId} {p : ServiceProgram α} {f : α → ServiceProgram β}

/-- A computation that asks only for what changes nothing, whatever comes of it. -/
def OnlyLooks (p : ServiceProgram α) : Prop :=
  Meets (fun _ _ => True) (fun c => c.isIdle) (fun _ => True) (fun _ => True) p

theorem expects_anything : ServiceError.Expected (fun _ _ => True) fun _ => True :=
  ⟨fun _ _ _ => trivial, fun _ => trivial, fun _ => trivial, fun _ => trivial⟩

namespace OnlyLooks

/-- The checks of the service only look. -/
theorem of_check {post : α → Prop}
    (hp : Meets (fun _ _ => True) (StoreCall.LooksFor tenant) (fun _ => True) post p) :
    OnlyLooks p :=
  (hp.of_may fun _ hc => StoreCall.isIdle_of_isRead hc.2).mono fun _ _ => trivial

theorem pure (value : α) : OnlyLooks (pure value : ServiceProgram α) := Meets.pure trivial

theorem throw (e : ServiceError) : OnlyLooks (throw e : ServiceProgram α) := Meets.throw trivial

theorem ask {c : StoreCall} (hc : c.isIdle) : OnlyLooks (ask c) :=
  Meets.ask hc (fun _ _ => trivial) fun _ _ => trivial

theorem bind (hp : OnlyLooks p) (hf : ∀ value, OnlyLooks (f value)) : OnlyLooks (p >>= f) :=
  Meets.bind (Meets.mono hp fun value _ => hf value)

theorem report (level : Level) (message : String) (fields : List (String × Json)) :
    OnlyLooks (report level message fields) :=
  Meets.report trivial

theorem reportAll (events : List Event) : OnlyLooks (reportAll events) := Meets.reportAll trivial

theorem now : OnlyLooks now := Meets.now fun _ => trivial

theorem unlessFaulty (faults : List FieldFault) : OnlyLooks (unlessFaulty faults) :=
  Meets.unlessFaulty trivial fun _ => trivial

theorem orNotFound (id : PolicyId) (found : Option α) : OnlyLooks (orNotFound id found) :=
  Meets.orNotFound trivial fun _ => trivial

theorem authorizeCreate (gate : Gate) (tenant : TenantId) (tier : PolicyTier) :
    OnlyLooks (gate.authorizeCreate tenant tier) :=
  of_check (meets_authorizeCreate expects_anything tier)

theorem authorizeModify (tenant : TenantId) (id : PolicyId) :
    OnlyLooks (Gate.authorizeModify tenant id) := by
  have hnone : ∀ p ∈ ([] : List Policy), p.isSystem := fun _ hp => absurd hp List.not_mem_nil
  exact of_check (meets_authorizeModify expects_anything (fun c answer _ => c.shows_nil answer)
    hnone)

theorem authorizeImport (gate : Gate) (tenant : TenantId) (drafts : List PolicyDraft) :
    OnlyLooks (Service.authorizeImport gate tenant drafts) :=
  of_check (meets_authorizeImport expects_anything drafts)

theorem ensures (hp : OnlyLooks p) (s : MemoryStore) :
    (run p).Ensures s fun _ s' => s' = s := by
  refine ensures_run (P := fun t => t = s) ?_ hp rfl
  rintro c t hidle rfl
  exact (MemoryStore.ensures_answer_declined c).mono fun _ _ hsame => ⟨trivial, hsame (.inl hidle)⟩

end OnlyLooks

/-- A computation that leaves the store as it is if it fails. -/
def FailsWithoutTrace (p : ServiceProgram α) : Prop :=
  ∀ s, (run p).Ensures s fun result s' => ∀ e, result = .error e → s' = s

namespace FailsWithoutTrace

theorem of_onlyLooks (hp : OnlyLooks p) : FailsWithoutTrace p :=
  fun s => (hp.ensures s).mono fun _ _ hsame _ _ => hsame

theorem look_bind (hp : OnlyLooks p) (hf : ∀ value, FailsWithoutTrace (f value)) :
    FailsWithoutTrace (p >>= f) := by
  intro s
  refine ensures_bind ((hp.ensures s).mono ?_)
  rintro (e | value) s' rfl
  · exact fun _ _ => rfl
  · exact hf value s'

/-- After a write nothing fails but for its answer, by which the store has told that it did nothing. -/
theorem write_bind {c : StoreCall} {f : c.Result → ServiceProgram β}
    {g : c.Result → Except ServiceError β} (hf : ∀ result t, Finds (f result) t (g result))
    (hg : ∀ result e, g result = .error e → c.Declines (.ok result)) :
    FailsWithoutTrace (ServiceProgram.ask c >>= f) := by
  intro s a e hfailed
  have hdeclined := MemoryStore.ensures_answer_declined (s := s) c a
  rw [run_ask_bind hf] at hfailed ⊢
  cases hanswer : ((MemoryStore.answer c).run s a).1.1 with
  | error e' =>
    rw [hanswer] at hdeclined
    exact hdeclined (.inr trivial)
  | ok result =>
    rw [hanswer] at hdeclined hfailed
    exact hdeclined (.inr (hg result e hfailed))

end FailsWithoutTrace

/-! ### The calls to the service -/

end Service

/-- A call to the service that reads, or has nothing to change. -/
def PolicyCall.isIdle : PolicyCall → Bool
  | .create _ | .delete _ | .importAll _ => false
  | .update _ patch => patch.isEmpty
  | _ => true

namespace Service

open ServiceProgram

variable {call : PolicyCall}

theorem onlyLooks_perform (gate : Gate) (caller : Caller) (hidle : call.isIdle) :
    OnlyLooks (call.perform gate caller) := by
  cases call with
  | create | delete | importAll => cases hidle
  | list query => exact .bind (.ask rfl) fun page => .pure _
  | fetch id => exact .bind (.ask rfl) fun found => .orNotFound id found
  | update id patch =>
    refine .bind (.unlessFaulty patch.faults) fun _ => ?_
    refine .bind (.authorizeModify caller.tenant id) fun _ => ?_
    refine .bind (.ask hidle) fun found => .bind (.orNotFound id found) fun p => ?_
    exact .bind (.report _ _ _) fun _ => .pure p
  | tryOut id trial =>
    rw [PolicyCall.perform, tryOut]
    have htrial : OnlyLooks (do
        let p ← fetch caller.tenant id
        reportAll (conditionEvents (trial.toRequest caller.tenant) 0 p.conditions)
        return p.tryOn (trial.toRequest caller.tenant)) := by
      refine .bind (.bind (.ask rfl) fun found => .orNotFound id found) fun p => ?_
      exact .bind (.reportAll _) fun _ => .pure _
    split
    · exact .bind (.throw _) fun _ => htrial
    · exact htrial
  | history id =>
    refine .bind (.ask rfl) fun found => ?_
    dsimp only
    split
    · refine .bind (.ask rfl) fun p => ?_
      exact .bind (.orNotFound id p) fun _ => .pure found
    · exact .pure found
  | exportAll => exact .bind (.ask rfl) fun policies => .bind .now fun _ => .pure _

theorem failsWithoutTrace_perform (gate : Gate) (caller : Caller) (call : PolicyCall) :
    FailsWithoutTrace (call.perform gate caller) := by
  cases call with
  | create draft =>
    refine .look_bind (.unlessFaulty draft.faults) fun _ => ?_
    refine .look_bind (.authorizeCreate gate caller.tenant draft.effectiveTier) fun _ => ?_
    refine .write_bind (g := .ok) (fun p t => ?_) fun _ _ hfailed => ?_
    · exact finds_bind (finds_report _ _ _ t) (finds_pure p t)
    · cases hfailed
  | update id patch =>
    refine .look_bind (.unlessFaulty patch.faults) fun _ => ?_
    refine .look_bind (.authorizeModify caller.tenant id) fun _ => ?_
    refine .write_bind (g := fun found => found.elim (.error (.notFound id)) .ok) (fun found t => ?_)
      fun found e hfailed => ?_
    · cases found with
      | none => exact finds_bind_error (finds_throw _ t)
      | some p =>
        exact finds_bind (finds_pure p t) (finds_bind (finds_report _ _ _ t) (finds_pure p t))
    · cases found with
      | none => rfl
      | some p => cases hfailed
  | delete id =>
    refine .look_bind (.authorizeModify caller.tenant id) fun _ => ?_
    refine .write_bind (g := fun deleted => if deleted then .ok () else .error (.notFound id))
      (fun deleted t => ?_) fun deleted e hfailed => ?_
    · cases deleted with
      | true => exact finds_report _ _ _ t
      | false => exact finds_throw _ t
    · cases deleted with
      | true => cases hfailed
      | false => rfl
  | importAll request =>
    rw [PolicyCall.perform, importAll]
    split
    · exact .of_onlyLooks (.throw _)
    · refine .look_bind (.authorizeImport gate caller.tenant request.policies) fun _ => ?_
      refine .write_bind (g := .ok) (fun report t => ?_) fun _ _ hfailed => ?_
      · exact finds_bind (finds_report _ _ _ t) (finds_pure report t)
      · cases hfailed
  | _ => exact .of_onlyLooks (onlyLooks_perform gate caller rfl)

end Service

theorem PolicyCall.ensures_serve_idle (gate : Gate) (caller : Caller) (call : PolicyCall)
    (s : MemoryStore) : (call.serve gate caller).Ensures s fun result s' =>
      call.isIdle ∨ (∃ e, result = .error e) → s' = s := by
  rintro a (hidle | ⟨e, hfailed⟩)
  · exact (Service.onlyLooks_perform gate caller hidle).ensures s a
  · exact Service.failsWithoutTrace_perform gate caller call s a e hfailed

/-- A call that fails, in whatever way, leaves the store exactly as it was, its policies and all
histories, and so does a call that only reads or has nothing to change. -/
theorem failing_or_idle_call_changes_nothing (gate : Gate) (caller : Caller) (call : PolicyCall)
    {s s' : MemoryStore} {a a' : Ambient} {result : Except ServiceError call.Result}
    (hrun : (call.serve gate caller).run s a = ((result, s'), a'))
    (hnothing : call.isIdle ∨ ∃ e, result = .error e) : s' = s := by
  have hsame := call.ensures_serve_idle gate caller s a
  rw [hrun] at hsame
  exact hsame hnothing

def emptyPatch : PolicyPatch := ⟨none, none, none, none, none, none, none, none, none⟩

/-- An import that is rejected after it has brought in and overwritten policies, a policy whose
identifier is taken, one that is not there, and a patch that says nothing. -/
theorem failures_leave_acme_as_it_was :
    let s : MemoryStore := { acmeStore with rejectsCommits := true }
    let importing := ((PolicyCall.importAll mixedImport).serve ⟨true, 0⟩ alice).run s .initial
    let creating := ((PolicyCall.create { secondDraft with id := some ⟨"p1"⟩ }).serve
      ⟨true, 0⟩ alice).run s .initial
    let deleting := ((PolicyCall.delete ⟨"p9"⟩).serve ⟨true, 0⟩ alice).run s .initial
    let updating := ((PolicyCall.update ⟨"p1"⟩ emptyPatch).serve ⟨true, 0⟩ alice).run s .initial
    importing.1 = (.error (.storage (.transaction "commit rejected")), s) ∧
    creating.1 = (.error (.storage (.database "policy id p1 already exists")), s) ∧
    deleting.1 = (.error (.notFound ⟨"p9"⟩), s) ∧ updating.1 = (.ok acmeRule, s) := by
  intro s importing creating deleting updating
  have himport : importing.1.1 = .error (.storage (.transaction "commit rejected")) := by rfl
  have hcreate : creating.1.1 =
      .error (.storage (.database "policy id p1 already exists")) := by rfl
  have hdelete : deleting.1.1 = .error (.notFound ⟨"p9"⟩) := by rfl
  have hupdate : updating.1.1 = .ok acmeRule := by rfl
  refine ⟨Prod.ext himport ?_, Prod.ext hcreate ?_, Prod.ext hdelete ?_, Prod.ext hupdate ?_⟩
  · exact failing_or_idle_call_changes_nothing _ _ _ rfl (.inr ⟨_, himport⟩)
  · exact failing_or_idle_call_changes_nothing _ _ _ rfl (.inr ⟨_, hcreate⟩)
  · exact failing_or_idle_call_changes_nothing _ _ _ rfl (.inr ⟨_, hdelete⟩)
  · exact failing_or_idle_call_changes_nothing _ _ _ rfl (.inl rfl)

/-! ### Runs with failures -/

/-- The calls of a run that change anything: those that are not idle and do not fail. -/
def effectiveCalls (gate : Gate) : MemoryStore → List (Caller × PolicyCall × Ambient) →
    List (Caller × PolicyCall × Ambient)
  | _, [] => []
  | s, (caller, call, a) :: rest =>
    let served := ((call.serve gate caller).run s a).1
    if call.isIdle || !served.1.isOk then effectiveCalls gate served.2 rest
    else (caller, call, a) :: effectiveCalls gate served.2 rest

/-- A run comes to the same store without its calls that fail or only look. -/
theorem serveAll_effectiveCalls (gate : Gate) (s : MemoryStore)
    (calls : List (Caller × PolicyCall × Ambient)) :
    serveAll gate s (effectiveCalls gate s calls) = serveAll gate s calls := by
  induction calls generalizing s with
  | nil => rfl
  | cons first rest ih =>
    obtain ⟨caller, call, a⟩ := first
    have hsame := call.ensures_serve_idle gate caller s a
    rw [effectiveCalls]
    split
    · rename_i hnothing
      have hleft : ((call.serve gate caller).run s a).1.2 = s := by
        rw [Bool.or_eq_true] at hnothing
        refine hsame (hnothing.imp_right fun hfailed => ?_)
        cases hresult : ((call.serve gate caller).run s a).1.1 with
        | error e => exact ⟨e, rfl⟩
        | ok value =>
          rw [hresult] at hfailed
          cases hfailed
      change _ = serveAll gate ((call.serve gate caller).run s a).1.2 rest
      rw [hleft]
      exact ih s
    · exact ih _

end Governance
