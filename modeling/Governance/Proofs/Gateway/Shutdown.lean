import Governance.Gateway.Basic
import Governance.Proofs.Audit.Faultless
import Governance.Proofs.Pipeline.Accounting
import Governance.Proofs.Pipeline.Scheduler

/-!
# What a shutdown leaves in the audit store

The tasks of a gateway govern one request each. They and the audit worker take turns call by call,
in any order, and at some point the gateway is shut down. What a task offers is answered by the
audit queue; all its other calls get any answer at all, so that nothing hangs on the store, the
clock or the collaborators. A task remembers what it has exchanged and what it has offered.

A task that runs while its gateway is shut down goes on to its end. Whether its entry is kept hangs
on when it is offered: until the audit worker closes its queue it is accepted, and then it is
written before the worker stops; after that it is refused and counted as dropped.
-/

namespace Governance

/-! ## A gateway whose requests take turns -/

/-- A request that is being governed. -/
structure RequestTask where
  request : Request
  trace : List (Exchange gatewayInterface)
  rest : Program gatewayInterface (Except PipelineError PipelineOutcome)
  offers : List Offer

/-- The tasks of a gateway, in the order in which they were accepted, and its audit queue. -/
structure LiveGateway (σ : Type) where
  scheduler : Scheduler
  tasks : List RequestTask
  audit : Watched σ

/-- What can happen next: a request is accepted as a task, a task gets a permit, makes its next
call, ends with a result or without one, the audit worker does something, or the gateway is shut
down. -/
inductive Turn where
  | spawn (r : Request)
  | grant (task : Nat)
  | proceed (task : Nat) (answers : (c : GatewayCall) → c.Answer)
  | complete (task : Nat)
  | abort (task : Nat)
  | work (action : LineAction)
  | shutdown

/-- Whether an action is one of those that the audit worker does by itself. -/
def LineAction.isOfWorker : LineAction → Bool
  | .start _ | .receive | .tick _ | .notice | .drain | .finish | .runDry => true
  | _ => false

namespace RequestTask

variable {σ : Type}

def ofRequest (pipeline : Pipeline) (r : Request) : RequestTask :=
  ⟨r, [], (pipeline.process r).run, []⟩

def answered (t : RequestTask) (c : GatewayCall) (answer : c.Answer)
    (next : c.Answer → Program gatewayInterface (Except PipelineError PipelineOutcome)) :
    RequestTask :=
  { t with trace := t.trace ++ [⟨c, some answer⟩], rest := next answer }

def proceed (answers : (c : GatewayCall) → c.Answer) (t : RequestTask) (w : Watched σ) :
    RequestTask × Watched σ :=
  match t.rest with
  | .done _ => (t, w)
  | .call (.offer e) next =>
    ({ t.answered (.offer e) (w.answerTo e).outcome next with
      offers := t.offers ++ [w.answerTo e] }, w.offer e)
  | .call c next => (t.answered c (answers c) next, w)

end RequestTask

namespace LiveGateway

variable {σ : Type}

def ofConfig (c : AuditConfig) (limit : Nat) (store : σ) (a : Ambient) : LiveGateway σ :=
  ⟨.ofLimit limit, [], .ofConfig c store a⟩

def proceed (g : LiveGateway σ) (i : Nat) (answers : (c : GatewayCall) → c.Answer) :
    LiveGateway σ :=
  match g.scheduler.tasks[i]?, g.tasks[i]? with
  | some .running, some task =>
    { g with
      tasks := g.tasks.set i (task.proceed answers g.audit).1
      audit := (task.proceed answers g.audit).2 }
  | _, _ => g

/-- A task is completed if it has come to its end. -/
def complete (g : LiveGateway σ) (i : Nat) : LiveGateway σ :=
  match g.tasks[i]? with
  | some ⟨_, _, .done _, _⟩ => { g with scheduler := g.scheduler.act (.complete i) }
  | _ => g

def take (pipeline : Pipeline) (write : BatchAction σ) (g : LiveGateway σ) : Turn → LiveGateway σ
  | .spawn r =>
    if g.scheduler.closed then g
    else { g with
      scheduler := g.scheduler.act .spawn
      tasks := g.tasks ++ [.ofRequest pipeline r] }
  | .grant i => { g with scheduler := g.scheduler.act (.grant i) }
  | .proceed i answers => g.proceed i answers
  | .complete i => g.complete i
  | .abort i => { g with scheduler := g.scheduler.act (.abort i) }
  | .work action => if action.isOfWorker then { g with audit := g.audit.act write action } else g
  | .shutdown =>
    { g with scheduler := g.scheduler.act .close, audit := g.audit.act write .askToStop }

def run (pipeline : Pipeline) (write : BatchAction σ) (g : LiveGateway σ) (turns : List Turn) :
    LiveGateway σ :=
  turns.foldl (take pipeline write) g

theorem run_append (pipeline : Pipeline) (write : BatchAction σ) (g : LiveGateway σ)
    (early late : List Turn) :
    g.run pipeline write (early ++ late) = (g.run pipeline write early).run pipeline write late :=
  List.foldl_append

end LiveGateway

/-! ### What a turn does to the audit queue -/

theorem Watched.prefix_offer {σ : Type} {offers : List Offer} (e : AuditEntry) (w : Watched σ)
    (hgrown : offers <+: w.offers) : offers <+: (w.offer e).offers := by
  rw [offer_offers]
  exact hgrown.trans (List.prefix_append _ _)

section Keeping

variable {σ : Type} {P : Watched σ → Prop}

/-- A call either offers an entry, or leaves the queue and the offers alone. -/
theorem RequestTask.proceed_cases (answers : (c : GatewayCall) → c.Answer) (t : RequestTask)
    (w : Watched σ) :
    (∃ e next, t.rest = .call (.offer e) next ∧ t.proceed answers w =
      ({ t.answered (.offer e) (w.answerTo e).outcome next with
        offers := t.offers ++ [w.answerTo e] }, w.offer e)) ∨
    (∃ c next, t.rest = .call c next ∧ (∀ e, c ≠ .offer e) ∧
      t.proceed answers w = (t.answered c (answers c) next, w)) ∨
    t.proceed answers w = (t, w) := by
  unfold proceed
  split
  · exact .inr (.inr rfl)
  · rename_i e next hrest
    exact .inl ⟨e, next, hrest, rfl⟩
  · rename_i c next hother hrest
    refine .inr (.inl ⟨c, next, hrest, ?_, rfl⟩)
    rintro e rfl
    exact hother e next rfl HEq.rfl

theorem RequestTask.proceed_keeps (hoffer : ∀ e w, P w → P (w.offer e))
    (answers : (c : GatewayCall) → c.Answer) (t : RequestTask) {w : Watched σ} (hw : P w) :
    P (t.proceed answers w).2 := by
  rcases t.proceed_cases answers w with ⟨e, next, _, hproceed⟩ | ⟨c, next, _, _, hproceed⟩ |
    hproceed
  · rw [hproceed]
    exact hoffer e w hw
  · rw [hproceed]
    exact hw
  · rw [hproceed]
    exact hw

/-- Only tasks and the worker have to do with the queue until the gateway is shut down. -/
theorem LiveGateway.take_keeps {pipeline : Pipeline} {write : BatchAction σ} {g : LiveGateway σ}
    (hoffer : ∀ e w, P w → P (w.offer e))
    (hact : ∀ action w, action.isOfWorker = true → P w → P (w.act write action))
    {turn : Turn} (hturn : turn ≠ .shutdown) (hw : P g.audit) :
    P (g.take pipeline write turn).audit := by
  cases turn with
  | spawn r =>
    rw [take]
    split
    · exact hw
    · exact hw
  | grant i => exact hw
  | proceed i answers =>
    rw [take, proceed]
    split
    · exact RequestTask.proceed_keeps hoffer answers _ hw
    · exact hw
  | complete i =>
    rw [take, complete]
    split
    · exact hw
    · exact hw
  | abort i => exact hw
  | work action =>
    rw [take]
    split
    · rename_i hworker
      exact hact action g.audit hworker hw
    · exact hw
  | shutdown => exact absurd rfl hturn

end Keeping

theorem LiveGateway.offers_run {σ : Type} (pipeline : Pipeline) (write : BatchAction σ)
    (turns : List Turn) (g : LiveGateway σ) :
    g.audit.offers <+: (g.run pipeline write turns).audit.offers := by
  induction turns generalizing g with
  | nil => exact List.prefix_rfl
  | cons turn rest ih =>
    refine List.IsPrefix.trans ?_ (ih (g.take pipeline write turn))
    by_cases hturn : turn = .shutdown
    · subst hturn
      exact List.prefix_rfl
    · exact take_keeps (P := fun w => g.audit.offers <+: w.offers) Watched.prefix_offer
        (fun _ _ _ hgrown => hgrown) hturn List.prefix_rfl

/-- Shutting a gateway down closes its scheduler and asks its audit worker to stop, and no more. -/
theorem Gateway.run_shutdown {σ τ : Type} (b : Option (AuditBackend σ τ)) (g : Gateway σ)
    (a : Ambient) : (shutdown b).run g a = (((), { g with
      scheduler := g.scheduler.act .close
      line := ((AuditLine.act (BatchWriter.write b) .askToStop).run g.line a).1.2 }), a) := rfl

/-! ## Gateways that are shut down -/

namespace Watched

variable {σ : Type}

/-- Nobody has asked the worker to stop, and no offer was too late. -/
structure Undisturbed (w : Watched σ) : Prop where
  held : w.line.held = true
  unasked : w.line.askedToStop = false
  working : ¬ AuditLine.IsClosing w.line.phase
  offers : ∀ o ∈ w.offers, ¬ AuditLine.IsClosing o.phase

theorem undisturbed_ofConfig (c : AuditConfig) (store : σ) (a : Ambient) :
    Undisturbed (ofConfig c store a) := by
  refine ⟨rfl, rfl, ?_, ?_⟩
  · simp [ofConfig, AuditLine.ofConfig, AuditLine.IsClosing]
  · simp [ofConfig]

theorem Undisturbed.offer {w : Watched σ} (hw : Undisturbed w) (e : AuditEntry) :
    Undisturbed (w.offer e) := by
  refine ⟨hw.held, hw.unasked, hw.working, ?_⟩
  rw [forall_mem_offer]
  exact ⟨hw.offers, hw.working⟩

theorem Undisturbed.act {w : Watched σ} (hw : Undisturbed w) {write : BatchAction σ}
    {action : LineAction} (hworker : action.isOfWorker = true) :
    Undisturbed (w.act write action) := by
  obtain ⟨hheld, hunasked, hworking, hoffers⟩ := hw
  suffices hline : (w.act write action).line.held = true ∧
      (w.act write action).line.askedToStop = false ∧
      ¬ AuditLine.IsClosing (w.act write action).line.phase from
    ⟨hline.1, hline.2.1, hline.2.2, hoffers⟩
  have hmoves := w.moves_act write action
  generalize (w.act write action).line = line at hmoves
  cases hmoves with
  | started => exact ⟨hheld, hunasked, by simp [AuditLine.IsClosing]⟩
  | asked => cases hworker
  | noticed hphase hasked =>
    rw [hunasked] at hasked
    cases hasked
  | stopped hphase =>
    -- The worker stops when it has been asked to, or when nobody holds the queue any more.
    rcases hphase with hdraining | ⟨_, hgone⟩
    · exact absurd (.inl hdraining) hworking
    · rw [hheld] at hgone
      cases hgone
  | released => cases hworker
  | discarded => cases hworker
  | _ => exact ⟨hheld, hunasked, hworking⟩

end Watched

namespace RequestTask

variable {σ : Type} {pipeline : Pipeline} {t : RequestTask} {w : Watched σ}

/-- A task has come to where its exchanges lead, and its offers are those of its exchanges. -/
structure Sound (pipeline : Pipeline) (offers : List Offer) (t : RequestTask) : Prop where
  reaches : (pipeline.process t.request).run.Reaches t.trace t.rest
  offered : t.offers.map (·.entry) = (footprint t.trace).offers
  kept : ∀ o ∈ t.offers, o ∈ offers

theorem Sound.mono {offers more : List Offer} (hsound : t.Sound pipeline offers)
    (hmore : offers <+: more) : t.Sound pipeline more :=
  ⟨hsound.reaches, hsound.offered, fun o ho => hmore.subset (hsound.kept o ho)⟩

/-- Making a call, a task stays sound and the queue grows at most by what the task has offered. -/
theorem Sound.proceed (hsound : t.Sound pipeline w.offers)
    (answers : (c : GatewayCall) → c.Answer) :
    (t.proceed answers w).1.Sound pipeline (t.proceed answers w).2.offers := by
  rcases t.proceed_cases answers w with ⟨e, next, hrest, hproceed⟩ |
    ⟨c, next, hrest, hother, hproceed⟩ | hproceed
  · rw [hproceed]
    refine ⟨(hrest ▸ hsound.reaches).answered _, ?_, ?_⟩
    · simp only [answered, List.map_append, hsound.offered, footprint_concat_offers]
      rfl
    · intro o ho
      rw [Watched.offer_offers]
      rcases List.mem_append.1 ho with hold | hnew
      · exact List.mem_append_left _ (hsound.kept o hold)
      · exact List.mem_append_right _ hnew
  · rw [hproceed]
    refine ⟨(hrest ▸ hsound.reaches).answered _, ?_, hsound.kept⟩
    simp only [answered, hsound.offered, footprint_concat_offers,
      GatewayCall.footprint_offers hother, List.append_nil]
  · rw [hproceed]
    exact hsound

/-- A task at its end has offered one entry, which tells what it returns. -/
theorem Sound.offered_once
    {evaluate : Request → Program serviceInterface (Except EvaluationError Decision)}
    {deadline : Duration} {offers : List Offer} {result : Except PipelineError PipelineOutcome}
    (hsound : t.Sound ⟨.ofService evaluate, deadline⟩ offers) (hdone : t.rest = .done result) :
    ∃ o, t.offers = [o] ∧ o ∈ offers ∧ o.entry.Tells result := by
  have hreaches := hsound.reaches
  rw [hdone] at hreaches
  obtain ⟨entry, hoffers, htells⟩ := Pipeline.offers_of_service (hreaches.runs (.done result))
  rw [List.append_nil, ← hsound.offered, List.map_eq_singleton_iff] at hoffers
  obtain ⟨o, honce, rfl⟩ := hoffers
  exact ⟨o, honce, hsound.kept o (by simp [honce]), htells⟩

end RequestTask

namespace LiveGateway

variable {σ τ : Type} {b : AuditBackend σ τ} {contents : σ → List AuditEntry} {ready : σ → Prop}
  {before : List AuditEntry} {c : AuditConfig} {pipeline : Pipeline} {g : LiveGateway σ}

/-- The audit queue is reliable, and every task is sound and has come to its end if it is finished.
-/
structure Sound (pipeline : Pipeline) (c : AuditConfig) (contents : σ → List AuditEntry)
    (ready : σ → Prop) (before : List AuditEntry) (g : LiveGateway σ) : Prop where
  audit : g.audit.Reliable c contents ready before
  tasks : ∀ t ∈ g.tasks, t.Sound pipeline g.audit.offers
  length : g.tasks.length = g.scheduler.tasks.length
  ended : ∀ i : Nat, g.scheduler.tasks[i]? = some .finished →
    ∃ t result, g.tasks[i]? = some t ∧ t.rest = .done result

theorem Sound.schedule (hsound : g.Sound pipeline c contents ready before)
    {action : SchedulerAction} (hold : action ≠ .spawn)
    (hended : ∀ i, action = .complete i →
      ∃ t result, g.tasks[i]? = some t ∧ t.rest = .done result) :
    Sound pipeline c contents ready before { g with scheduler := g.scheduler.act action } := by
  refine ⟨hsound.audit, hsound.tasks, ?_, ?_⟩
  · rw [Scheduler.length_act hold]
    exact hsound.length
  · intro i hi
    rcases Scheduler.finished_of_act hi with hfinished | ⟨hcomplete, _⟩
    · exact hsound.ended i hfinished
    · exact hended i hcomplete

theorem Sound.proceed (hsound : g.Sound pipeline c contents ready before) (i : Nat)
    (answers : (c : GatewayCall) → c.Answer) :
    (g.proceed i answers).Sound pipeline c contents ready before := by
  unfold LiveGateway.proceed
  split
  · rename_i task hrunning htask
    have hmore : g.audit.offers <+: (task.proceed answers g.audit).2.offers :=
      task.proceed_keeps (P := fun w => g.audit.offers <+: w.offers) Watched.prefix_offer answers
        List.prefix_rfl
    refine ⟨task.proceed_keeps (fun e _ h => h.offer e) answers hsound.audit, ?_, ?_, ?_⟩
    · intro t ht
      rcases List.mem_or_eq_of_mem_set ht with hold | rfl
      · exact (hsound.tasks t hold).mono hmore
      · exact (hsound.tasks task (List.mem_of_getElem? htask)).proceed answers
    · rw [List.length_set]
      exact hsound.length
    · -- A task that makes a call is running, so none of the finished ones has changed.
      intro j hj
      have hne : i ≠ j := by
        rintro rfl
        rw [hrunning] at hj
        cases hj
      rw [List.getElem?_set_ne hne]
      exact hsound.ended j hj
  · exact hsound

theorem Sound.act (hfaultless : b.Faultless contents ready) (hpositive : 0 < c.batchSize)
    (hsound : g.Sound pipeline c contents ready before) {action : LineAction}
    (hoffer : ∀ e, action ≠ .offer e) (hworked : action ≠ .discardWorker) :
    Sound pipeline c contents ready before
      { g with audit := g.audit.act (BatchWriter.write (some b)) action } :=
  ⟨hsound.audit.act hfaultless hpositive hoffer hworked, hsound.tasks, hsound.length, hsound.ended⟩

theorem Sound.spawn (hsound : g.Sound pipeline c contents ready before) (r : Request)
    (hopen : g.scheduler.closed = false) :
    Sound pipeline c contents ready before { g with
      scheduler := g.scheduler.act .spawn
      tasks := g.tasks ++ [.ofRequest pipeline r] } := by
  refine ⟨hsound.audit, ?_, ?_, ?_⟩
  · intro t ht
    rcases List.mem_append.1 ht with hold | hnew
    · exact hsound.tasks t hold
    · rw [List.mem_singleton.1 hnew]
      exact ⟨.start, rfl, by simp [RequestTask.ofRequest]⟩
  · rw [Scheduler.tasks_spawn hopen, List.length_append, List.length_append, hsound.length]
    rfl
  · intro i hi
    rcases Scheduler.finished_of_act hi with hfinished | ⟨hcomplete, _⟩
    · obtain ⟨t, result, ht, hdone⟩ := hsound.ended i hfinished
      have hi' : i < g.tasks.length := (List.getElem?_eq_some_iff.1 ht).1
      exact ⟨t, result, (List.getElem?_append_left hi').trans ht, hdone⟩
    · cases hcomplete

theorem Sound.take (hfaultless : b.Faultless contents ready) (hpositive : 0 < c.batchSize)
    (hsound : g.Sound pipeline c contents ready before) (turn : Turn) :
    (g.take pipeline (BatchWriter.write (some b)) turn).Sound pipeline c contents ready before := by
  cases turn with
  | spawn r =>
    rw [LiveGateway.take]
    split
    · exact hsound
    · rename_i hopen
      exact hsound.spawn r (Bool.eq_false_iff.2 hopen)
  | grant i => exact hsound.schedule (by simp) (by simp)
  | proceed i answers => exact hsound.proceed i answers
  | complete i =>
    rw [LiveGateway.take, LiveGateway.complete]
    split
    · rename_i htask
      refine hsound.schedule (by simp) ?_
      rintro j ⟨⟩
      exact ⟨_, _, htask, rfl⟩
    · exact hsound
  | abort i => exact hsound.schedule (by simp) (by simp)
  | work action =>
    rw [LiveGateway.take]
    split
    · rename_i hworker
      refine hsound.act hfaultless hpositive ?_ ?_
      · rintro e rfl
        cases hworker
      · rintro rfl
        cases hworker
    · exact hsound
  | shutdown =>
    have hclosed : Sound pipeline c contents ready before
        { g with scheduler := g.scheduler.act .close } :=
      hsound.schedule (by simp) (by simp)
    rw [LiveGateway.take]
    exact hclosed.act hfaultless hpositive (by simp) (by simp)

theorem Sound.run (hfaultless : b.Faultless contents ready) (hpositive : 0 < c.batchSize)
    (turns : List Turn) (hsound : g.Sound pipeline c contents ready before) :
    (g.run pipeline (BatchWriter.write (some b)) turns).Sound pipeline c contents ready before := by
  induction turns generalizing g with
  | nil => exact hsound
  | cons turn rest ih => exact ih (hsound.take hfaultless hpositive turn)

theorem sound_ofConfig (hpositive : 0 < c.batchSize) (limit : Nat) {store : σ}
    (hready : ready store) (a : Ambient) :
    (ofConfig c limit store a).Sound pipeline c contents ready (contents store) := by
  refine ⟨⟨Watched.sound_ofConfig hpositive store a, ⟨hready, ?_⟩, ?_⟩, ?_, rfl, ?_⟩
  · exact (List.append_nil _).symm
  · intro hstopped
    cases hstopped
  · simp [ofConfig]
  · simp [ofConfig, Scheduler.ofLimit]

/-! ### Before and after -/

/-- Until the gateway is shut down its worker takes whatever is offered. -/
theorem undisturbed_run {write : BatchAction σ} {turns : List Turn}
    (hopen : .shutdown ∉ turns) (hg : g.audit.Undisturbed) :
    (g.run pipeline write turns).audit.Undisturbed := by
  induction turns generalizing g with
  | nil => exact hg
  | cons turn rest ih =>
    rw [List.mem_cons, not_or] at hopen
    refine ih hopen.2 (take_keeps ?_ ?_ (Ne.symm hopen.1) hg)
    · exact fun e _ hw => hw.offer e
    · exact fun _ _ hworker hw => hw.act hworker

/-- When a gateway over a store that does not fail has been shut down, nothing was dropped for want
of room and the worker has stopped, then the store holds the entries that were offered before the
worker was closing, and that is the entry of every task that was offered by then. -/
theorem shutdown_keeps_entries (hfaultless : b.Faultless contents ready)
    {capacity batchSize : Nat} {interval : Duration}
    (hmake : AuditConfig.make capacity batchSize interval = .ok c) (limit : Nat) {store : σ}
    (hready : ready store) (a : Ambient)
    (evaluate : Request → Program serviceInterface (Except EvaluationError Decision))
    (deadline : Duration) (turns : List Turn) :
    let g := (ofConfig c limit store a).run ⟨.ofService evaluate, deadline⟩
      (BatchWriter.write (some b)) turns
    (∀ o ∈ g.audit.offers, o.outcome ≠ .dropped) → g.audit.line.phase = .stopped →
    contents g.audit.line.store.store = contents store ++
      (g.audit.offers.filter fun o => ¬ AuditLine.IsClosing o.phase).map (·.entry) ∧
    (∀ i : Nat, g.scheduler.tasks[i]? = some .finished →
      ∃ task result o, g.tasks[i]? = some task ∧ task.rest = .done result ∧ task.offers = [o] ∧
        o.entry.Tells result ∧
        (¬ AuditLine.IsClosing o.phase → o.entry ∈ contents g.audit.line.store.store) ∧
        (AuditLine.IsClosing o.phase → o.outcome = .closed)) ∧
    ∀ early late, turns = early ++ late → .shutdown ∉ early →
      ∀ o ∈ ((ofConfig c limit store a).run ⟨.ofService evaluate, deadline⟩
        (BatchWriter.write (some b)) early).audit.offers,
        o ∈ g.audit.offers ∧ o.entry ∈ contents g.audit.line.store.store := by
  intro g hroom hstopped
  obtain ⟨rfl, hpositive⟩ := AuditConfig.of_make hmake
  have hsound : g.Sound ⟨.ofService evaluate, deadline⟩ ⟨capacity, batchSize, interval⟩ contents
      ready (contents store) :=
    (sound_ofConfig hpositive limit hready a).run hfaultless hpositive turns
  have hcontents : contents g.audit.line.store.store = contents store ++
      (g.audit.offers.filter fun o => ¬ AuditLine.IsClosing o.phase).map (·.entry) := by
    rw [hsound.audit.contents_eq hstopped, Watched.accepted]
    -- No offer found the queue full, so the answers follow from what the worker was doing.
    congr 2
    apply List.filter_congr
    intro o ho
    exact decide_eq_decide.2 (hsound.audit.sound.outcome_of_not_dropped ho (hroom o ho))
  have hstays : ∀ o ∈ g.audit.offers, ¬ AuditLine.IsClosing o.phase →
      o.entry ∈ contents g.audit.line.store.store := by
    intro o ho hopen
    rw [hcontents]
    refine List.mem_append_right _ (List.mem_map_of_mem (List.mem_filter.2 ⟨ho, ?_⟩))
    exact decide_eq_true hopen
  refine ⟨hcontents, ?_, ?_⟩
  · intro i hi
    obtain ⟨task, result, htask, hdone⟩ := hsound.ended i hi
    obtain ⟨o, honce, ho, htells⟩ :=
      (hsound.tasks task (List.mem_of_getElem? htask)).offered_once hdone
    exact ⟨task, result, o, htask, hdone, honce, htells, hstays o ho,
      (hsound.audit.sound.refused o ho).2⟩
  · rintro early late rfl hearly o ho
    have hlater : o ∈ g.audit.offers := by
      unfold g
      rw [run_append]
      exact (offers_run _ _ late _).subset ho
    have hopen := (undisturbed_run hearly (Watched.undisturbed_ofConfig _ store a)).offers o ho
    exact ⟨hlater, hstays o hlater hopen⟩

/-! ### Two requests during a shutdown -/

/-- A call of the first task, whose policies cannot be loaded. -/
def nextCall : Turn := .proceed 0 (answersOf fun _ => .error (.database "down"))

/-- A request makes its first calls before the gateway is shut down, and the others before the audit
worker takes notice. -/
def timelyTurns : List Turn :=
  [.spawn (.plain ⟨"acme"⟩ "hello"), .grant 0, .work (.start ⟨0⟩)] ++ List.replicate 4 nextCall ++
    [.shutdown] ++ List.replicate 8 nextCall ++
    [.complete 0, .work .notice, .work .drain, .work .finish]

/-- The same request makes its other calls after the audit worker has stopped. -/
def lateTurns : List Turn :=
  [.spawn (.plain ⟨"acme"⟩ "hello"), .grant 0, .work (.start ⟨0⟩)] ++ List.replicate 4 nextCall ++
    [.shutdown, .work .notice, .work .finish] ++ List.replicate 9 nextCall ++ [.complete 0]

/-- A gateway over a store that does not fail, after some turns. -/
def gatewayAfter (turns : List Turn) : LiveGateway MemoryAudit :=
  (ofConfig ⟨10, 10, ⟨1⟩⟩ 1 .empty .initial).run
    ⟨.ofService Engine.decideByStore, Pipeline.defaultDeadline⟩
    (BatchWriter.write (some MemoryAudit.backend)) turns

theorem timelyTurns_keep_entry :
    (gatewayAfter timelyTurns).audit.line.phase = .stopped ∧
    (∀ o ∈ (gatewayAfter timelyTurns).audit.offers, o.outcome ≠ .dropped) ∧
    ∃ task o, (gatewayAfter timelyTurns).tasks[0]? = some task ∧ task.offers = [o] ∧
      o.entry ∈ (gatewayAfter timelyTurns).audit.line.store.store.committed := by
  have hstopped : (gatewayAfter timelyTurns).audit.line.phase = .stopped := rfl
  have hroom : ∀ o ∈ (gatewayAfter timelyTurns).audit.offers, o.outcome ≠ .dropped := by decide
  have hmake : AuditConfig.make 10 10 ⟨1⟩ = .ok ⟨10, 10, ⟨1⟩⟩ := rfl
  obtain ⟨_, hfinished, _⟩ := shutdown_keeps_entries MemoryAudit.faultless hmake 1
    MemoryAudit.works_empty .initial Engine.decideByStore Pipeline.defaultDeadline timelyTurns hroom
    hstopped
  obtain ⟨task, result, o, htask, _, honce, _, hkept, _⟩ := hfinished 0 rfl
  have hphase : (gatewayAfter timelyTurns).tasks[0]?.map (·.offers.map (·.phase)) =
      some [.running] := rfl
  rw [show (gatewayAfter timelyTurns).tasks[0]? = some task from htask, Option.map_some, honce]
    at hphase
  refine ⟨hstopped, hroom, task, o, htask, honce, hkept ?_⟩
  rw [show o.phase = .running by simpa using hphase]
  decide

theorem lateTurns_lose_entry :
    (gatewayAfter lateTurns).scheduler.tasks = [.finished] ∧
    (gatewayAfter lateTurns).audit.line.phase = .stopped ∧
    (∀ o ∈ (gatewayAfter lateTurns).audit.offers, o.outcome ≠ .dropped) ∧
    (gatewayAfter lateTurns).audit.line.store.store.Works ∧
    ∃ task o, (gatewayAfter lateTurns).tasks = [task] ∧ task.offers = [o] ∧ o.outcome = .closed ∧
      o.entry ∉ (gatewayAfter lateTurns).audit.line.store.store.committed := by
  refine ⟨by rfl, by rfl, by decide, ⟨by rfl, by rfl, by rfl, by rfl⟩, _, _, rfl, rfl, rfl, ?_⟩
  exact List.not_mem_nil

end LiveGateway

end Governance
