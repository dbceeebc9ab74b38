import Governance.Proofs.Pipeline.Exit

/-!
# Requests are accounted for

A request that comes to an end has been offered to the audit queue as one entry and given to the
metrics as one sample, whatever the engine, the router and the redactor did and whatever the queue
answered. The entry tells what is returned, and so does the sample. A request never fails because of
the order in which its own steps were taken.
-/

namespace Governance

/-- An entry tells what was returned: what was served, why it was refused, or how it failed. Only of
what was served it keeps the usage and a sample of the response. -/
def AuditEntry.Tells (entry : AuditEntry) : Except PipelineError PipelineOutcome → Prop
  | .ok (.served s) =>
    entry.request = s.request ∧
    entry.verdict = (if s.redacted = [] then .allowed else .redacted) ∧
    entry.redacted = s.redacted ∧ entry.errorMessage = none ∧
    entry.usage = some (Pipeline.usageOf s.metadata) ∧ entry.sample = some (sampleOf s.content)
  | .ok (.blocked b) =>
    entry.request = b.request ∧ entry.verdict = .blocked ∧ entry.redacted = [] ∧
    entry.errorMessage = some b.reason ∧ entry.usage = none ∧ entry.sample = none
  | .error e =>
    entry.verdict = .error ∧ entry.redacted = [] ∧ entry.errorMessage = some e.message ∧
    entry.usage = none ∧ entry.sample = none

/-- How the metrics see what was returned. -/
def SampleOutcome.ofResult : Except PipelineError PipelineOutcome → SampleOutcome
  | .ok (.served _) => .success
  | .ok (.blocked _) => .blocked
  | .error _ => .failure

/-- What was returned follows from what was decided. A request without a decision fails for that
reason, one that is refused is blocked for the reason of the decision, and one that may pass is
served or fails at a collaborator. -/
def Follows : Except EvaluationError Decision → Except PipelineError PipelineOutcome → Prop
  | .error e, result => result = .error (.policy e)
  | .ok d, .ok (.served s) => d.allowed = true ∧ s.decision = d
  | .ok d, .ok (.blocked b) => d.allowed = false ∧ b.reason = Pipeline.reasonOf d
  | .ok d, .error e => d.allowed = true ∧ e.IsOfCollaborator

/-- What the entry and the sample of a request have to do with what was decided and returned. -/
structure Accounts (r : Request) (verdict : Except EvaluationError Decision)
    (result : Except PipelineError PipelineOutcome) (entry : AuditEntry) (sample : Sample) :
    Prop where
  follows : Follows verdict result
  tells : entry.Tells result
  tenant : entry.tenant = r.tenant
  details : entry.details = none ↔ ∃ e, verdict = .error e
  security : entry.security = none ↔ ∃ e, verdict = .error e
  outcome : sample.outcome = .ofResult result
  kind : sample.requestKind = entry.requestKind

/-- What follows from a decision, or from its absence, is no failure of the order of steps. -/
theorem Follows.ne_lifecycle {verdict : Except EvaluationError Decision}
    {result : Except PipelineError PipelineOutcome} (hfollows : Follows verdict result)
    (e : InvalidTransition) : result ≠ .error (.lifecycle e) := by
  rintro rfl
  cases verdict with
  | error e' => cases hfollows
  | ok d => exact hfollows.2

namespace Pipeline

/-- A request that has ended with a result leaves one entry and one sample. -/
theorem Exit.accounts {endless : Bool} {r : Request} {request : RequestId}
    {verdict : Except EvaluationError Decision} {f : Footprint}
    {result : Except PipelineError PipelineOutcome}
    (hexit : Exit endless r request verdict f (some result)) :
    ∃ entry sample, f.offers = [entry] ∧ f.samples = [sample] ∧ entry.request = request ∧
      Accounts r verdict result entry sample := by
  cases hexit with
  | undecided e time audit latency =>
    exact ⟨_, _, rfl, rfl, rfl, {
      follows := rfl
      tells := ⟨rfl, rfl, rfl, rfl, rfl⟩
      tenant := rfl
      details := ⟨fun _ => ⟨e, rfl⟩, fun _ => rfl⟩
      security := ⟨fun _ => ⟨e, rfl⟩, fun _ => rfl⟩
      outcome := rfl
      kind := rfl }⟩
  | refused hrefused time audit latency =>
    exact ⟨_, _, rfl, rfl, rfl, {
      follows := ⟨hrefused, rfl⟩
      tells := ⟨rfl, rfl, rfl, rfl, rfl, rfl⟩
      tenant := rfl
      details := ⟨nofun, nofun⟩
      security := ⟨nofun, nofun⟩
      outcome := rfl
      kind := rfl }⟩
  | unrouted hallowed he honce time audit latency =>
    exact ⟨_, _, rfl, rfl, rfl, {
      follows := ⟨hallowed, he⟩
      tells := ⟨rfl, rfl, rfl, rfl, rfl⟩
      tenant := rfl
      details := ⟨nofun, nofun⟩
      security := ⟨nofun, nofun⟩
      outcome := rfl
      kind := rfl }⟩
  | @served d hallowed m redacted time audit latency =>
    have hverdict : (serviceEntry r request time audit d m redacted).verdict =
        if redacted.redacted = [] then .allowed else .redacted := by
      simp only [serviceEntry, AuditRecord.toEntry, withDecision, recordOf, AuditRecord.bare,
        List.isEmpty_iff]
    exact ⟨_, _, rfl, rfl, rfl, {
      follows := ⟨hallowed, rfl⟩
      tells := ⟨rfl, hverdict, rfl, rfl, rfl, rfl⟩
      tenant := rfl
      details := ⟨nofun, nofun⟩
      security := ⟨nofun, nofun⟩
      outcome := rfl
      kind := rfl }⟩

/-- Besides what its engine does, a request that comes to an end offers one entry, which is that of
the request whose number it drew, and gives one sample. -/
theorem accounted_once {pipeline : Pipeline} {r : Request}
    {trace : List (Exchange gatewayInterface)} {result : Except PipelineError PipelineOutcome}
    (hrun : GatewayRuns (pipeline.process r).run trace (some result)) :
    ∃ before evaluation after verdict entry sample,
      trace = before ++ evaluation ++ after ∧
      GatewayRuns (pipeline.engine r) evaluation (some verdict) ∧
      (footprint (before ++ after)).offers = [entry] ∧
      (footprint (before ++ after)).samples = [sample] ∧
      ⟨.requestId, some entry.request⟩ ∈ before ∧
      Accounts r verdict result entry sample ∧
      ∀ e, result ≠ .error (.lifecycle e) := by
  obtain ⟨started, request, evaluation, verdict, rest, rfl, hengine, hexit⟩ := exit_of_process hrun
  cases verdict with
  | none => cases hexit.2
  | some verdict =>
    obtain ⟨entry, sample, hoffers, hsamples, rfl, haccounts⟩ := hexit.accounts
    have hfoot : footprint ([⟨.elapsed, some started⟩, ⟨.requestId, some entry.request⟩] ++ rest) =
        footprint rest := by
      simp [GatewayCall.footprint]
    refine ⟨[⟨.elapsed, some started⟩, ⟨.requestId, some entry.request⟩], evaluation, rest, verdict,
      entry, sample, rfl, hengine, ?_, ?_, by simp, haccounts, haccounts.follows.ne_lifecycle⟩
    · rw [hfoot, hoffers]
    · rw [hfoot, hsamples]

theorem offers_of_service
    {evaluate : Request → Program serviceInterface (Except EvaluationError Decision)}
    {deadline : Duration} {r : Request} {trace : List (Exchange gatewayInterface)}
    {result : Except PipelineError PipelineOutcome}
    (hrun : GatewayRuns (process ⟨.ofService evaluate, deadline⟩ r).run trace (some result)) :
    ∃ entry, (footprint trace).offers = [entry] ∧ entry.Tells result := by
  obtain ⟨started, request, evaluation, verdict, rest, rfl, hengine, hexit⟩ := exit_of_process hrun
  obtain ⟨hnone, verdict, rfl⟩ := runs_translate_service hengine
  obtain ⟨entry, sample, hoffers, _, _, haccounts⟩ := hexit.accounts
  refine ⟨entry, ?_, haccounts.tells⟩
  rw [← hoffers]
  simp [hnone, GatewayCall.footprint]

/-- A run of the pipeline in which no policy is enabled and no provider is ready in time. -/
def lateRun : List (Exchange gatewayInterface) × Except PipelineError PipelineOutcome :=
  (process ⟨.ofStore, defaultDeadline⟩ (.plain ⟨"acme"⟩ "hello")).run.replay
    (answersOf fun _ => .ok [])

theorem lateRun_accounted :
    GatewayRuns (process ⟨.ofStore, defaultDeadline⟩ (.plain ⟨"acme"⟩ "hello")).run lateRun.1
      (some lateRun.2) ∧
    ∃ before evaluation after verdict entry sample,
      lateRun.1 = before ++ evaluation ++ after ∧
      (footprint (before ++ after)).offers = [entry] ∧
      (footprint (before ++ after)).samples = [sample] ∧
      Accounts (.plain ⟨"acme"⟩ "hello") verdict lateRun.2 entry sample := by
  have hrun : GatewayRuns (process ⟨.ofStore, defaultDeadline⟩ (.plain ⟨"acme"⟩ "hello")).run
      lateRun.1 (some lateRun.2) :=
    Program.runs_replay _ _
  obtain ⟨before, evaluation, after, verdict, entry, sample, hparts, _, hoffers, hsamples, _,
    haccounts, _⟩ := accounted_once hrun
  exact ⟨hrun, before, evaluation, after, verdict, entry, sample, hparts, hoffers, hsamples,
    haccounts⟩

end Pipeline

end Governance
