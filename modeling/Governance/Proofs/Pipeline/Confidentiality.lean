import Governance.Proofs.Pipeline.Ending

/-!
# What stays out of the audit trail

An entry shows a query by a digest, by keywords and by how often it joins, and by nothing else. Of
the response of a provider it shows what is known about it, and its content only as it was redacted.
Both are statements about two runs: where two requests differ in their queries, and two responses in
their contents, the entries and the results differ in nothing else.
-/

namespace Governance

/-! ### What an entry shows of a query -/

/-- What an entry shows of a query. -/
structure QueryTraits where
  digest : String
  medical : Bool
  account : Bool
  personal : Bool
  complexity : Complexity
  sensitive : Bool
  deriving DecidableEq, Repr

namespace QueryTraits

def ofQuery (query : String) : QueryTraits where
  digest := Digest.sha256Text query
  medical := mentionsAny medicalKeywords query
  account := mentionsAny accountKeywords query
  personal := mentionsAny personalKeywords query
  complexity := .ofQuery query
  sensitive := mentionsAny sensitiveKeywords query

/-- The flags of a query with such traits of a tenant. -/
def flags (t : QueryTraits) (tenant : TenantId) : List ComplianceFlag :=
  (if t.medical then [.hipaaRelevant] else []) ++
    (if isEuropean tenant then [.gdprApplicable] else []) ++
    (if t.account then [.soxRelevant] else []) ++ (if t.personal then [.piiAccess] else [])

end QueryTraits

namespace AuditEntry

/-- The entry if the query had such traits. -/
def showing (t : QueryTraits) (e : AuditEntry) : AuditEntry :=
  { e with
    queryHash := t.digest
    flags := t.flags e.tenant
    security := e.security.map fun s =>
      { s with complexity := t.complexity, sensitive := t.sensitive } }

/-- The entry under other identifiers and at another time. -/
def stamped (id : AuditId) (request : RequestId) (timestamp : Instant) (e : AuditEntry) :
    AuditEntry :=
  { e with id := id, request := request, timestamp := timestamp }

end AuditEntry

/-- The outcome of the same request under another number. -/
def PipelineOutcome.renumbered (request : RequestId) : PipelineOutcome → PipelineOutcome
  | .served s => .served { s with request := request }
  | .blocked b => .blocked { b with request := request }

namespace Pipeline

namespace Ending

theorem entry_of_query (ending : Ending) (r : Request) (query : String)
    (request request' : RequestId) (time time' : Instant) (audit audit' : AuditId) :
    ending.entry { r with query := query } request' time' audit' =
      ((ending.entry r request time audit).showing (.ofQuery query)).stamped audit' request'
        time' := by
  cases ending <;> rfl

theorem entry_showing (ending : Ending) (r : Request) (request : RequestId) (time : Instant)
    (audit : AuditId) :
    (ending.entry r request time audit).showing (.ofQuery r.query) =
      ending.entry r request time audit := by
  cases ending <;> rfl

theorem result_renumbered (ending : Ending) (request request' : RequestId) :
    ending.result request' = (ending.result request).map (.renumbered request') := by
  cases ending <;> rfl

end Ending

/-! ### Two runs -/

/-- A run of the pipeline, taken apart where its engine has answered or broken down. -/
structure GovernedRun (pipeline : Pipeline) (r : Request) where
  started : Duration
  request : RequestId
  evaluation : List (Exchange gatewayInterface)
  verdict : Option (Except EvaluationError Decision)
  rest : List (Exchange gatewayInterface)
  result : Option (Except PipelineError PipelineOutcome)
  evaluated : GatewayRuns (pipeline.engine r) evaluation verdict
  governed : GatewayRuns (pipeline.process r).run
    (⟨.elapsed, some started⟩ :: ⟨.requestId, some request⟩ :: (evaluation ++ rest)) result

namespace GovernedRun

variable {pipeline : Pipeline} {r : Request}

def trace (run : GovernedRun pipeline r) : List (Exchange gatewayInterface) :=
  ⟨.elapsed, some run.started⟩ :: ⟨.requestId, some run.request⟩ :: (run.evaluation ++ run.rest)

/-- The entries that are offered to the audit queue, besides any that the engine offers itself. -/
def entries (run : GovernedRun pipeline r) : List AuditEntry := (footprint run.rest).offers

/-- Every run can be taken apart. -/
theorem exists_of_runs {trace : List (Exchange gatewayInterface)}
    {result : Option (Except PipelineError PipelineOutcome)}
    (hrun : GatewayRuns (pipeline.process r).run trace result) :
    ∃ run : GovernedRun pipeline r, run.trace = trace ∧ run.result = result := by
  obtain ⟨started, request, evaluation, verdict, rest, rfl, hengine, _⟩ := ending_of_runs hrun
  exact ⟨⟨started, request, evaluation, verdict, rest, result, hengine, hrun⟩, rfl, rfl⟩

/-- The end that a run comes to, if it comes to one. -/
def ending? (run : GovernedRun pipeline r) : Option Ending :=
  run.verdict.bind fun verdict =>
    Ending.of? pipeline.deadline verdict (routingReplies run.rest) (redactionReplies run.rest)

/-- Every run comes to the end that its verdict and its replies lead to. -/
theorem comesTo (run : GovernedRun pipeline r) :
    ComesTo run.ending? r run.request run.rest run.result := by
  obtain ⟨started, request, evaluation, verdict, rest, result, hevaluated, hgoverned⟩ := run
  obtain ⟨started', request', evaluation', verdict', rest', htrace, hengine, hends⟩ :=
    ending_of_runs hgoverned
  obtain ⟨_, htail⟩ := List.cons.inj htrace
  obtain ⟨hrequest, hparts⟩ := List.cons.inj htail
  obtain ⟨rfl, rfl, rfl⟩ := hevaluated.eq_of_append hengine hparts
  cases hrequest
  cases verdict with
  | some verdict => exact hends
  | none =>
    obtain ⟨rfl, rfl⟩ := hends
    exact ⟨rfl, rfl⟩

/-- What of a query and of a response reaches the audit trail and the result. The two requests differ
in nothing but the query. In both runs the engine comes to the same verdict, and the router and the
redactor reply the same, but that responses of the router may differ in their contents. -/
theorem conceals {query : String} (run : GovernedRun pipeline r)
    (other : GovernedRun pipeline { r with query := query })
    (hverdict : other.verdict = run.verdict)
    (hrouting : routingReplies other.rest = routingReplies run.rest)
    (hredaction : redactionReplies other.rest = redactionReplies run.rest) :
    ∃ audit time,
      other.entries = (run.entries.map (.showing (.ofQuery query))).map
        (.stamped audit other.request time) ∧
      (QueryTraits.ofQuery query = .ofQuery r.query →
        other.entries = run.entries.map (.stamped audit other.request time)) ∧
      other.result = run.result.map (Except.map (.renumbered other.request)) := by
  have hending : other.ending? = run.ending? := by
    rw [ending?, ending?, hverdict, hrouting, hredaction]
  have hrun := run.comesTo
  have hother := other.comesTo
  rw [hending] at hother
  cases hends : run.ending? with
  | none =>
    rw [hends] at hrun hother
    obtain ⟨hentries, hresult⟩ := hrun
    obtain ⟨hentries', hresult'⟩ := hother
    refine ⟨⟨""⟩, ⟨0, 0⟩, ?_, ?_, ?_⟩
    · rw [entries, entries, hentries, hentries']
      rfl
    · intro _
      rw [entries, entries, hentries, hentries']
      rfl
    · rw [hresult, hresult']
      rfl
  | some ending =>
    rw [hends] at hrun hother
    obtain ⟨time, audit, hentries, hresult⟩ := hrun
    obtain ⟨time', audit', hentries', hresult'⟩ := hother
    have hshown := ending.entry_of_query r query run.request other.request time time' audit audit'
    refine ⟨audit', time', ?_, ?_, ?_⟩
    · rw [entries, entries, hentries, hentries', hshown]
      rfl
    · intro hsame
      rw [hsame, ending.entry_showing] at hshown
      rw [entries, entries, hentries, hentries', hshown]
      rfl
    · rw [hresult, hresult', ending.result_renumbered run.request]
      rfl

theorem offers_of_service
    {evaluate : Request → Program serviceInterface (Except EvaluationError Decision)}
    {deadline : Duration} (run : GovernedRun ⟨.ofService evaluate, deadline⟩ r) :
    (footprint run.trace).offers = run.entries := by
  have hnone := (runs_translate_service run.evaluated).1
  simp [trace, entries, hnone, GatewayCall.footprint]

/-! ### Runs in given surroundings -/

variable (pipeline : Pipeline) (r : Request) (answers : (c : GatewayCall) → c.Answer)

/-- Where every call is answered, what comes after the engine is what is left of the exchanges. -/
theorem exchanges_of_process :
    ((pipeline.process r).run.replay answers).1 =
      ⟨.elapsed, some (answers .elapsed)⟩ :: ⟨.requestId, some (answers .requestId)⟩ ::
        (((pipeline.engine r).replay answers).1 ++ ((pipeline.process r).run.replay answers).1.drop
          (2 + ((pipeline.engine r).replay answers).1.length)) := by
  obtain ⟨conclude, hparts⟩ : ∃ conclude : Except EvaluationError Decision → GovernedProgram
      PipelineOutcome, ((pipeline.process r).run.replay answers).1 =
      ⟨.elapsed, some (answers .elapsed)⟩ :: ⟨.requestId, some (answers .requestId)⟩ ::
        ((ExceptT.lift (pipeline.engine r) >>= conclude).run.replay answers).1 := ⟨_, rfl⟩
  rw [hparts, ExceptT.run_bind_lift, Program.replay_bind_exchanges, Nat.add_comm]
  simp

/-- The run in surroundings that answer every call. -/
def ofAnswers : GovernedRun pipeline r where
  started := answers .elapsed
  request := answers .requestId
  evaluation := ((pipeline.engine r).replay answers).1
  verdict := some ((pipeline.engine r).replay answers).2
  rest := ((pipeline.process r).run.replay answers).1.drop
    (2 + ((pipeline.engine r).replay answers).1.length)
  result := some ((pipeline.process r).run.replay answers).2
  evaluated := Program.runs_replay answers (pipeline.engine r)
  governed := by
    rw [← exchanges_of_process]
    exact Program.runs_replay answers (pipeline.process r).run

/-- What is known about a response. -/
def someMetadata : ProviderMetadata := ⟨"openai", "gpt-4", 120, 42, 0.002⟩

/-- Surroundings in which a provider responds with the content given and the redactor withholds all
of it. -/
def withholding (content : String) : (c : GatewayCall) → c.Answer
  | .route .. => some (.ok ⟨content, someMetadata⟩)
  | .redact .. => some (.ok ⟨"[REDACTED]", ["ssn"]⟩)
  | c => answersOf (fun _ => .ok []) c

/-- A run in which every query may pass and a provider responds. -/
def asking (query content : String) :
    GovernedRun ⟨.ofService fun _ => .done (.ok .allow), defaultDeadline⟩ (.plain ⟨"acme"⟩ query) :=
  ofAnswers _ _ (withholding content)

theorem routingReplies_asking (query content : String) :
    routingReplies (asking query content).rest = [some (some (.ok someMetadata))] := rfl

theorem redactionReplies_asking (query content : String) :
    redactionReplies (asking query content).rest =
      [some (some (.ok ⟨"[REDACTED]", ["ssn"]⟩))] := rfl

theorem asking_conceals :
    ∃ audit time,
      (asking "join the patients" "ssn 2").entries =
        ((asking "hello" "ssn 1").entries.map (.showing (.ofQuery "join the patients"))).map
          (.stamped audit (asking "join the patients" "ssn 2").request time) ∧
      (asking "join the patients" "ssn 2").result =
        (asking "hello" "ssn 1").result.map
          (Except.map (.renumbered (asking "join the patients" "ssn 2").request)) ∧
      (asking "hello" "ssn 1").entries.length = 1 := by
  obtain ⟨audit, time, hentries, _, hresult⟩ :=
    conceals (asking "hello" "ssn 1") (asking "join the patients" "ssn 2") rfl
      ((routingReplies_asking _ _).trans (routingReplies_asking _ _).symm)
      ((redactionReplies_asking _ _).trans (redactionReplies_asking _ _).symm)
  exact ⟨audit, time, hentries, hresult, rfl⟩

end GovernedRun

end Pipeline

end Governance
