import Governance.Proofs.Program.Runs
import Governance.Proofs.Service.Calls

/-!
# Two runs of the service in step

Two runs of a computation may differ in the words of failures that the store answers with, and in the
reports of imports as far as these repeat such words. Nothing of the service looks at either, so the runs
go on in step: they make the same calls but for the events that they report, and what they end with
differs only where an import was asked for. `Service.inStep_perform` says so for all calls to the service.
-/

namespace Governance

variable {α β : Type}

/-- The same but for the words of a failure of the store. -/
def ServiceError.Alike (e e' : ServiceError) : Prop :=
  e = e' ∨ ∃ reason reason', e = .storage reason ∧ e' = .storage reason'

/-- The same but for the report of an import. -/
def StoreCall.ResultsAlike (R : ImportReport → ImportReport → Prop) :
    (c : StoreCall) → c.Result → c.Result → Prop
  | .importAll .., done, done' => R done done'
  | _, result, result' => result = result'

/-- The same but for the report of an import and for the words of failures. -/
def StoreCall.Alike (R : ImportReport → ImportReport → Prop) (c : StoreCall) :
    c.Answer → c.Answer → Prop
  | .ok result, .ok result' => c.ResultsAlike R result result'
  | .error _, .error _ => True
  | _, _ => False

def PolicyCall.ResultsAlike (R : ImportReport → ImportReport → Prop) :
    (call : PolicyCall) → call.Result → call.Result → Prop
  | .importAll _, done, done' => R done done'
  | _, result, result' => result = result'

/-- What was answered is the same but for the report of an import and the words of failures. -/
inductive Exchange.Alike (R : ImportReport → ImportReport → Prop) :
    Exchange serviceInterface → Exchange serviceInterface → Prop where
  | store {c : StoreCall} {answer answer' : c.Answer} (halike : c.Alike R answer answer') :
      Alike R ⟨.store c, some answer⟩ ⟨.store c, some answer'⟩
  | now (t : Instant) : Alike R ⟨.now, some t⟩ ⟨.now, some t⟩

/-- Nothing is learnt by reporting an event. -/
def Exchange.isReport (x : Exchange serviceInterface) : Bool :=
  match x.call with
  | .report _ => true
  | _ => false

/-- All that was answered in two runs is the same but for reports of imports and the words of failures.
Which events were reported does not matter. -/
def AnsweredAlike (R : ImportReport → ImportReport → Prop)
    (trace trace' : List (Exchange serviceInterface)) : Prop :=
  List.Forall₂ (Exchange.Alike R) (trace.filter fun x => !x.isReport)
    (trace'.filter fun x => !x.isReport)

namespace Program

/-- As long as they are answered alike, two programs make the same calls but for the events that they
report, and end with values that are related. -/
inductive InStep (R : ImportReport → ImportReport → Prop) (post : α → α → Prop) :
    Program serviceInterface α → Program serviceInterface α → Prop where
  | done {value value' : α} (hpost : post value value') :
      InStep R post (.done value) (.done value')
  | store {c : StoreCall} {next next' : c.Answer → Program serviceInterface α}
      (hnext : ∀ answer answer', c.Alike R answer answer' →
        InStep R post (next answer) (next' answer')) :
      InStep R post (.call (.store c) next) (.call (.store c) next')
  | now {next next' : Instant → Program serviceInterface α}
      (hnext : ∀ t, InStep R post (next t) (next' t)) :
      InStep R post (.call .now next) (.call .now next')
  | report {e e' : Event} {next next' : Unit → Program serviceInterface α}
      (hnext : InStep R post (next ()) (next' ())) :
      InStep R post (.call (.report e) next) (.call (.report e') next')

namespace InStep

variable {R : ImportReport → ImportReport → Prop} {post : α → α → Prop}
  {p p' : Program serviceInterface α}

theorem bind {post : β → β → Prop} {pre : α → α → Prop} {f f' : α → Program serviceInterface β}
    (hp : InStep R pre p p') (hf : ∀ value value', pre value value' →
      InStep R post (f value) (f' value')) : InStep R post (p >>= f) (p' >>= f') := by
  induction hp with
  | done hpost => exact hf _ _ hpost
  | store _ ih => exact .store ih
  | now _ ih => exact .now ih
  | report _ ih => exact .report ih

theorem of_runs (hp : InStep R post p p') {trace trace' : List (Exchange serviceInterface)}
    {value value' : α} (hrun : Runs (fun _ => False) p trace (some value))
    (hrun' : Runs (fun _ => False) p' trace' (some value')) (halike : AnsweredAlike R trace trace') :
    post value value' := by
  induction hp generalizing trace trace' with
  | done hpost =>
    obtain ⟨_, hvalue⟩ := hrun.of_done
    obtain ⟨_, hvalue'⟩ := hrun'.of_done
    cases hvalue
    cases hvalue'
    exact hpost
  | store hnext ih =>
    obtain ⟨answer, rest, rfl, hrest⟩ := hrun.of_call id
    obtain ⟨answer', rest', rfl, hrest'⟩ := hrun'.of_call id
    obtain ⟨hhead, htail⟩ := List.forall₂_cons.1 halike
    cases hhead with
    | store hanswer => exact ih answer answer' hanswer hrest hrest' htail
  | now hnext ih =>
    obtain ⟨t, rest, rfl, hrest⟩ := hrun.of_call id
    obtain ⟨t', rest', rfl, hrest'⟩ := hrun'.of_call id
    obtain ⟨hhead, htail⟩ := List.forall₂_cons.1 halike
    cases hhead with
    | now => exact ih t hrest hrest' htail
  | report hnext ih =>
    obtain ⟨_, rest, rfl, hrest⟩ := hrun.of_call id
    obtain ⟨_, rest', rfl, hrest'⟩ := hrun'.of_call id
    exact ih hrest hrest' halike

end InStep

end Program

namespace ServiceProgram

variable {R : ImportReport → ImportReport → Prop}

/-- Computations of the service that go on in step, and that fail alike. -/
def InStep (R : ImportReport → ImportReport → Prop) (post : α → α → Prop)
    (p p' : ServiceProgram α) : Prop :=
  Program.InStep R (fun
    | .ok value, .ok value' => post value value'
    | .error e, .error e' => e.Alike e'
    | _, _ => False) p.run p'.run

namespace InStep

variable {post : α → α → Prop} {p p' : ServiceProgram α}

theorem pure {value value' : α} (hpost : post value value') :
    InStep R post (pure value) (pure value') :=
  .done hpost

theorem throw (e : ServiceError) : InStep R post (throw e) (throw e) :=
  .done (.inl rfl)

theorem bind {post : β → β → Prop} {pre : α → α → Prop} {f f' : α → ServiceProgram β}
    (hp : InStep R pre p p') (hf : ∀ value value', pre value value' →
      InStep R post (f value) (f' value')) : InStep R post (p >>= f) (p' >>= f') := by
  rw [InStep, ExceptT.run_bind, ExceptT.run_bind]
  refine Program.InStep.bind hp ?_
  rintro (e | value) (e' | value') hvalue
  · exact .done hvalue
  · cases hvalue
  · cases hvalue
  · exact hf value value' hvalue

/-- What follows computations that give nothing away starts from one value. -/
theorem bind_eq {post : β → β → Prop} {f f' : α → ServiceProgram β} (hp : InStep R Eq p p')
    (hf : ∀ value, InStep R post (f value) (f' value)) :
    InStep R post (p >>= f) (p' >>= f') := by
  refine bind hp ?_
  rintro value _ rfl
  exact hf value

theorem ask {c : StoreCall} {post : c.Result → c.Result → Prop}
    (hpost : ∀ result result', c.ResultsAlike R result result' → post result result') :
    InStep R post (ask c) (ask c) := by
  refine .store ?_
  rintro (e | result) (e' | result') halike
  · exact .done (.inr ⟨e, e', rfl, rfl⟩)
  · cases halike
  · cases halike
  · exact .done (hpost result result' halike)

theorem report (level level' : Level) (message message' : String)
    (fields fields' : List (String × Json)) :
    InStep R Eq (report level message fields) (report level' message' fields') :=
  Program.InStep.report (.done rfl)

theorem now : InStep R Eq now now := Program.InStep.now fun _ => .done rfl

theorem unlessFaulty (faults : List FieldFault) :
    InStep R Eq (Service.unlessFaulty faults) (Service.unlessFaulty faults) := by
  cases faults with
  | nil => exact .pure rfl
  | cons fault rest => exact .throw _

theorem orNotFound (id : PolicyId) (found : Option α) :
    InStep R Eq (Service.orNotFound id found) (Service.orNotFound id found) := by
  cases found with
  | none => exact .throw _
  | some value => exact .pure rfl

theorem reportAll (events : List Event) :
    InStep R Eq (Service.reportAll events) (Service.reportAll events) := by
  induction events with
  | nil => exact .pure rfl
  | cons e rest ih => exact .bind_eq (.report ..) fun _ => ih

end InStep

end ServiceProgram

namespace Service

open ServiceProgram (InStep)

variable {R : ImportReport → ImportReport → Prop} {gate : Gate} {tenant : TenantId}

/-! ### Checks give nothing away -/

theorem inStep_authorizeCreate (tier : PolicyTier) :
    InStep R Eq (gate.authorizeCreate tenant tier) (gate.authorizeCreate tenant tier) := by
  cases tier with
  | system => exact .throw _
  | organization =>
    rw [Gate.authorizeCreate]
    split
    · exact .pure rfl
    · exact .throw _
  | tenant =>
    rw [Gate.authorizeCreate]
    split
    · exact .pure rfl
    · refine .bind_eq (.ask fun _ _ h => h) fun count => .bind_eq (.report ..) fun _ => ?_
      split
      · exact .throw _
      · exact .pure rfl

theorem inStep_authorizeModify (id : PolicyId) :
    InStep R Eq (Gate.authorizeModify tenant id) (Gate.authorizeModify tenant id) := by
  refine .bind_eq (.ask fun _ _ h => h) fun found => ?_
  split
  · split
    · exact .throw _
    · exact .pure rfl
  · exact .pure rfl

theorem inStep_newNames (names : List String) (drafts : List PolicyDraft) :
    InStep R Eq (newNames gate tenant names drafts) (newNames gate tenant names drafts) := by
  induction drafts generalizing names with
  | nil => exact .pure rfl
  | cons draft rest ih =>
    rw [newNames]
    split
    · refine .bind_eq (.ask fun _ _ h => h) fun existing => ?_
      split
      · exact ih _
      · exact ih names
    · exact .bind_eq (inStep_authorizeCreate _) fun _ => ih names

theorem inStep_authorizeImport (drafts : List PolicyDraft) :
    InStep R Eq (authorizeImport gate tenant drafts) (authorizeImport gate tenant drafts) := by
  refine .bind_eq (inStep_newNames [] drafts) fun names => ?_
  dsimp only
  split
  · refine .bind_eq (.ask fun _ _ h => h) fun held => ?_
    split
    · exact .throw _
    · exact .pure rfl
  · exact .pure rfl

theorem inStep_fetch (id : PolicyId) : InStep R Eq (fetch tenant id) (fetch tenant id) :=
  .bind_eq (.ask fun _ _ h => h) fun found => .orNotFound id found

/-- Two runs of a call that are answered alike have the same result, but for the report of an import, or
fail alike. -/
theorem inStep_perform (gate : Gate) (caller : Caller) (call : PolicyCall) :
    InStep R (call.ResultsAlike R) (call.perform gate caller) (call.perform gate caller) := by
  cases call with
  | list query => exact .bind_eq (.ask fun _ _ h => h) fun page => .pure rfl
  | fetch id => exact inStep_fetch id
  | exportAll =>
    exact .bind_eq (.ask fun _ _ h => h) fun policies => .bind_eq .now fun _ => .pure rfl
  | create draft =>
    refine .bind_eq (.unlessFaulty _) fun _ => .bind_eq (inStep_authorizeCreate _) fun _ => ?_
    exact .bind_eq (.ask fun _ _ h => h) fun p => .bind_eq (.report ..) fun _ => .pure rfl
  | update id patch =>
    refine .bind_eq (.unlessFaulty _) fun _ => .bind_eq (inStep_authorizeModify id) fun _ => ?_
    refine .bind_eq (.ask fun _ _ h => h) fun found => .bind_eq (.orNotFound id found) fun p => ?_
    exact .bind_eq (.report ..) fun _ => .pure rfl
  | delete id =>
    refine .bind_eq (inStep_authorizeModify id) fun _ => ?_
    refine .bind_eq (.ask fun _ _ h => h) fun deleted => ?_
    split
    · exact .report ..
    · exact .throw _
  | tryOut id trial =>
    rw [PolicyCall.perform, tryOut]
    split
    · exact .bind_eq (.throw _) fun _ => .bind_eq (inStep_fetch id) fun p =>
        .bind_eq (.reportAll _) fun _ => .pure rfl
    · exact .bind_eq (inStep_fetch id) fun p => .bind_eq (.reportAll _) fun _ => .pure rfl
  | history id =>
    refine .bind_eq (.ask fun _ _ h => h) fun found => ?_
    split
    · refine .bind_eq (.ask fun _ _ h => h) fun p => ?_
      exact .bind_eq (.orNotFound id p) fun _ => .pure rfl
    · exact .pure rfl
  | importAll request =>
    rw [PolicyCall.perform, importAll]
    split
    · exact .throw _
    · refine .bind_eq (inStep_authorizeImport _) fun _ => ?_
      refine .bind (.ask fun _ _ h => h) fun done done' hdone => ?_
      exact .bind_eq (.report ..) fun _ => .pure hdone

end Service

end Governance
