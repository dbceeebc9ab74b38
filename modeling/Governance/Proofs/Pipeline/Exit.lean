import Governance.Proofs.Pipeline.Footprint

/-!
# How a governed request ends

A request ends in one of six ways: there was no decision, it was refused, it could not be routed or
redacted, it was served, a collaborator broke down, or the timers did not reach as far as its
deadline. `Exit` says for each of them what the footprint is and what is returned; `exit_of_process`
says that there are no others. Before that the engine is asked, and what it does has no part in the
footprint of an exit.
-/

namespace Governance

/-- A failure of routing or redaction: a collaborator failed, or was not ready at the deadline. -/
def PipelineError.IsOfCollaborator : PipelineError → Prop
  | .collaborator _ | .timeout .. => True
  | _ => False

namespace Pipeline

open GovernedProgram

def failureEntry (r : Request) (id : RequestId) (time : Instant) (audit : AuditId)
    (e : PipelineError) (complete : AuditRecord → AuditRecord) : AuditEntry :=
  (complete { recordOf r id .error time with errorMessage := some e.message }).toEntry audit

def refusalEntry (r : Request) (id : RequestId) (time : Instant) (audit : AuditId) (d : Decision) :
    AuditEntry :=
  AuditRecord.toEntry
    { withDecision d (recordOf r id .blocked time) with errorMessage := some (reasonOf d) } audit

def serviceEntry (r : Request) (id : RequestId) (time : Instant) (audit : AuditId) (d : Decision)
    (m : ProviderMetadata) (redacted : RedactedResponse) : AuditEntry :=
  AuditRecord.toEntry
    { withDecision d (recordOf r id
        (if redacted.redacted.isEmpty then .allowed else .redacted) time) with
      usage := some (usageOf m)
      response := some redacted.content
      redacted := redacted.redacted } audit

/-- The ways in which a request ends after the engine has answered: what is noticed of the rest, and
what is returned. -/
inductive Exit (endless : Bool) (r : Request) (request : RequestId) :
    Except EvaluationError Decision → Footprint → Option (Except PipelineError PipelineOutcome) →
      Prop where
  | undecided (e : EvaluationError) (time : Instant) (audit : AuditId) (latency : Duration) :
      Exit endless r request (.error e)
        ⟨[failureEntry r request time audit (.policy e) id],
          [.ofRequest (kindOf r) latency .failure], 0, 0⟩
        (some (.error (.policy e)))
  | refused {d : Decision} (hrefused : d.allowed = false) (time : Instant) (audit : AuditId)
      (latency : Duration) :
      Exit endless r request (.ok d)
        ⟨[refusalEntry r request time audit d], [.ofRequest (kindOf r) latency .blocked], 0, 0⟩
        (some (.ok (.blocked ⟨request, reasonOf d, d.applied, d.riskScore⟩)))
  | unrouted {d : Decision} (hallowed : d.allowed = true) {e : PipelineError}
      (he : e.IsOfCollaborator) {redactions : Nat}
      (honce : redactions ≤ 1) (time : Instant) (audit : AuditId) (latency : Duration) :
      Exit endless r request (.ok d)
        ⟨[failureEntry r request time audit e (withDecision d)],
          [.ofRequest (kindOf r) latency .failure], 1, redactions⟩
        (some (.error e))
  | served {d : Decision} (hallowed : d.allowed = true) (m : ProviderMetadata)
      (redacted : RedactedResponse) (time : Instant) (audit : AuditId) (latency : Duration) :
      Exit endless r request (.ok d)
        ⟨[serviceEntry r request time audit d m redacted],
          [{ Sample.ofRequest (kindOf r) latency .success with
            provider := some m.provider, tokens := m.tokens, cost := m.cost }], 1, 1⟩
        (some (.ok (.served ⟨request, redacted.content, m, redacted.redacted, d⟩)))
  | broken {d : Decision} (hallowed : d.allowed = true) {redactions : Nat}
      (honce : redactions ≤ 1) :
      Exit endless r request (.ok d) ⟨[], [], 1, redactions⟩ none
  | untimed {d : Decision} (hallowed : d.allowed = true) (hends : endless = false) :
      Exit endless r request (.ok d) .none none

namespace Exit

variable {endless : Bool} {r : Request} {request : RequestId} {f : Footprint}
  {outcome : Option (Except PipelineError PipelineOutcome)}

theorem of_refusal {d : Decision} (hrefused : d.allowed = false)
    (hexit : Exit endless r request (.ok d) f outcome) :
    (∃ response, outcome = some (.ok (.blocked response))) ∧ f.routings = 0 ∧
      f.redactions = 0 := by
  cases hexit with
  | refused => exact ⟨⟨_, rfl⟩, rfl, rfl⟩
  | unrouted hallowed => exact absurd hallowed (by simp [hrefused])
  | served hallowed => exact absurd hallowed (by simp [hrefused])
  | broken hallowed => exact absurd hallowed (by simp [hrefused])
  | untimed hallowed => exact absurd hallowed (by simp [hrefused])

end Exit

/-! ### The functions of the pipeline -/

section Functions

variable {α : Type} {endless : Bool} {p : Progress} {r : Request} {started : Duration}
  {trace : List (Exchange gatewayInterface)}

theorem runs_advance_bind {event : RequestEvent} {next : RequestState}
    {f : Progress → GovernedProgram α} {outcome : Option (Except PipelineError α)}
    (hnext : p.state.next? event = some next)
    (hrun : TimedRuns endless (advance p event >>= f).run trace outcome) :
    ∃ rest, TimedRuns endless (f { p with state := next }).run rest outcome ∧
      footprint trace = footprint rest := by
  have hadvance : advance p event = (do
      report (transitionEvent p.id p.state next event)
      return { p with state := next }) := by
    simp only [advance, hnext]
  rw [hadvance, bind_assoc] at hrun
  obtain ⟨rest, hrest, hfoot⟩ := runs_report_bind hrun
  rw [pure_bind] at hrest
  exact ⟨rest, hrest, hfoot⟩

theorem runs_advance {event : RequestEvent} {next : RequestState}
    {outcome : Option (Except PipelineError Progress)}
    (hnext : p.state.next? event = some next)
    (hrun : TimedRuns endless (advance p event).run trace outcome) :
    footprint trace = .none ∧ outcome = some (.ok { p with state := next }) := by
  rw [← bind_pure (advance p event)] at hrun
  obtain ⟨rest, hrest, hfoot⟩ := runs_advance_bind hnext hrun
  obtain ⟨rfl, rfl⟩ := runs_pure hrest
  exact ⟨hfoot, rfl⟩

theorem runs_audit {verdict : Verdict} {complete : AuditRecord → AuditRecord}
    {outcome : Option (Except PipelineError Progress)}
    (hnext : p.state.next? .audit = some .audited)
    (hrun : TimedRuns endless (audit p r verdict complete).run trace outcome) :
    ∃ time id, footprint trace =
        ⟨[(complete (recordOf r p.id verdict time)).toEntry id], [], 0, 0⟩ ∧
      outcome = some (.ok { p with state := .audited }) := by
  unfold audit at hrun
  obtain ⟨time, trace₁, hrun, h₁⟩ := runs_ask_bind id hrun
  obtain ⟨id', trace₂, hrun, h₂⟩ := runs_ask_bind id hrun
  obtain ⟨offered, trace₃, hrun, h₃⟩ := runs_ask_bind id hrun
  have hrest : footprint trace₃ = .none ∧
      outcome = some (.ok { p with state := .audited }) := by
    split at hrun
    · obtain ⟨trace₄, hrun, h₄⟩ := runs_report_bind hrun
      obtain ⟨hnone, hout⟩ := runs_advance hnext hrun
      exact ⟨h₄.trans hnone, hout⟩
    · exact runs_advance hnext hrun
  refine ⟨time, id', ?_, hrest.2⟩
  rw [h₁, h₂, h₃, hrest.1]
  rfl

theorem runs_finish {sample : Duration → Sample} {outcome : Option (Except PipelineError Unit)}
    (hnext : p.state.next? .complete = some .completed)
    (hrun : TimedRuns endless (finish p started sample).run trace outcome) :
    ∃ latency, footprint trace = ⟨[], [sample latency], 0, 0⟩ ∧ outcome = some (.ok ()) := by
  unfold finish at hrun
  obtain ⟨now, trace₁, hrun, h₁⟩ := runs_ask_bind id hrun
  obtain ⟨_, trace₂, hrun, h₂⟩ := runs_ask_bind id hrun
  obtain ⟨trace₃, hrun, h₃⟩ := runs_advance_bind hnext hrun
  obtain ⟨rfl, rfl⟩ := runs_pure hrun
  refine ⟨⟨now.nanos - started.nanos⟩, ?_, rfl⟩
  rw [h₁, h₂, h₃]
  rfl

theorem runs_giveUp {e : PipelineError} {complete : AuditRecord → AuditRecord}
    {outcome : Option (Except PipelineError α)}
    (hnext : p.state.next? .audit = some .audited)
    (hrun : TimedRuns endless (giveUp p r started e complete).run trace outcome) :
    ∃ time id latency, footprint trace =
        ⟨[failureEntry r p.id time id e complete],
          [.ofRequest (kindOf r) latency .failure], 0, 0⟩ ∧
      outcome = some (.error e) := by
  unfold giveUp at hrun
  obtain ⟨trace₁, _, haudit, hrest⟩ := hrun.of_bind_except
  obtain ⟨time, id', h₁, rfl⟩ := runs_audit hnext haudit
  obtain ⟨trace₂, rfl, hrun₂⟩ := hrest
  obtain ⟨trace₃, _, hfinish, hrest⟩ := hrun₂.of_bind_except
  obtain ⟨latency, h₃, rfl⟩ := runs_finish rfl hfinish
  obtain ⟨trace₄, rfl, hrun₄⟩ := hrest
  obtain ⟨rfl, rfl⟩ := runs_throw hrun₄
  refine ⟨time, id', latency, ?_, rfl⟩
  rw [footprint_append, footprint_append, h₁, h₃]
  rfl

theorem exit_of_refuse {d : Decision} {outcome : Option (Except PipelineError PipelineOutcome)}
    (hstate : p.state = .policyEvaluated) (hrefused : d.allowed = false)
    (hrun : TimedRuns endless (refuse p r started d).run trace outcome) :
    Exit endless r p.id (.ok d) (footprint trace) outcome := by
  unfold refuse at hrun
  obtain ⟨trace₁, hrun₁, h₁⟩ := runs_advance_bind
    (show p.state.next? .block = some .blocked by rw [hstate]; rfl) hrun
  obtain ⟨trace₂, _, haudit, hrest⟩ := hrun₁.of_bind_except
  obtain ⟨time, id', h₂, rfl⟩ := runs_audit rfl haudit
  obtain ⟨trace₃, rfl, hrun₃⟩ := hrest
  obtain ⟨trace₄, _, hfinish, hrest⟩ := hrun₃.of_bind_except
  obtain ⟨latency, h₄, rfl⟩ := runs_finish rfl hfinish
  obtain ⟨trace₅, rfl, hrun₅⟩ := hrest
  obtain ⟨trace₆, hrun₆, h₆⟩ := runs_report_bind hrun₅
  obtain ⟨rfl, rfl⟩ := runs_pure hrun₆
  have hfoot : footprint trace = ⟨[refusalEntry r p.id time id' d],
      [.ofRequest (kindOf r) latency .blocked], 0, 0⟩ := by
    rw [h₁, footprint_append, footprint_append, h₂, h₄, h₆]
    rfl
  rw [hfoot]
  exact .refused hrefused time id' latency

theorem runs_deliver {d : Decision} {m : ProviderMetadata} {redacted : RedactedResponse}
    {outcome : Option (Except PipelineError PipelineOutcome)}
    (hstate : p.state = .routed)
    (hrun : TimedRuns endless (deliver p r started d m redacted).run trace outcome) :
    ∃ time id latency, footprint trace =
        ⟨[serviceEntry r p.id time id d m redacted],
          [{ Sample.ofRequest (kindOf r) latency .success with
            provider := some m.provider, tokens := m.tokens, cost := m.cost }], 0, 0⟩ ∧
      outcome = some (.ok (.served ⟨p.id, redacted.content, m, redacted.redacted, d⟩)) := by
  unfold deliver at hrun
  obtain ⟨trace₁, _, haudit, hrest⟩ := hrun.of_bind_except
  obtain ⟨time, id', h₁, rfl⟩ := runs_audit (by rw [hstate]; rfl) haudit
  obtain ⟨trace₂, rfl, hrun₂⟩ := hrest
  obtain ⟨_, trace₃, hrun₃, h₂⟩ := runs_ask_bind id hrun₂
  obtain ⟨trace₄, _, hfinish, hrest⟩ := hrun₃.of_bind_except
  obtain ⟨latency, h₄, rfl⟩ := runs_finish rfl hfinish
  obtain ⟨trace₅, rfl, hrun₅⟩ := hrest
  obtain ⟨trace₆, hrun₆, h₅⟩ := runs_report_bind hrun₅
  obtain ⟨rfl, rfl⟩ := runs_pure hrun₆
  refine ⟨time, id', latency, ?_, rfl⟩
  rw [footprint_append, h₁, h₂, footprint_append, h₄, h₅]
  rfl

end Functions

/-! ### Routing -/

section Routing

variable {pipeline : Pipeline} {endless : Bool} {p : Progress} {r : Request} {started : Duration}
  {trace : List (Exchange gatewayInterface)}

/-- What a collaborator does until a deadline fails only as a collaborator does. -/
theorem isOfCollaborator_of_inTime {α : Type} {stage : String} {allowed : Duration}
    {answer : Option (Except CollaboratorError α)} {e : PipelineError}
    (hlate : inTime stage allowed answer = .error e) : e.IsOfCollaborator := by
  unfold inTime at hlate
  split at hlate
  · obtain rfl := Except.error.inj hlate
    trivial
  · obtain rfl := Except.error.inj hlate
    trivial
  · cases hlate

/-- The router is asked once, the redactor at most once, and nothing else is noticed, unless the
deadline cannot be told: then nobody is asked. -/
theorem runs_routeAndRedact
    {outcome : Option (Except PipelineError
      (Except PipelineError (ProviderResponse × RedactedResponse)))}
    (hrun : TimedRuns endless (pipeline.routeAndRedact r).run trace outcome) :
    (endless = false ∧ footprint trace = .none ∧ outcome = none) ∨
    ∃ redactions ≤ 1, footprint trace = ⟨[], [], 1, redactions⟩ ∧
      (outcome = none ∨
        (∃ e, outcome = some (.ok (.error e)) ∧ e.IsOfCollaborator) ∨
        ∃ response, outcome = some (.ok (.ok response)) ∧ redactions = 1) := by
  unfold routeAndRedact at hrun
  rcases (runs_ask_bind_or_broken hrun).symm with ⟨hends, h₁, rfl⟩ | ⟨deadline, trace₁, hrun₁, h₁⟩
  · exact .inl ⟨hends, h₁, rfl⟩
  right
  rcases runs_ask_bind_or_broken hrun₁ with ⟨routed, trace₂, hrun₂, h₂⟩ | ⟨-, h₂, rfl⟩
  · split at hrun₂
    · rename_i e hlate
      obtain ⟨rfl, rfl⟩ := runs_pure hrun₂
      refine ⟨0, Nat.zero_le 1, ?_, .inr (.inl ⟨e, rfl, isOfCollaborator_of_inTime hlate⟩)⟩
      rw [h₁, h₂]
      rfl
    · rcases runs_ask_bind_or_broken hrun₂ with ⟨redacted, trace₃, hrun₃, h₃⟩ | ⟨-, h₃, rfl⟩
      · have hfoot : footprint trace₃ = .none → footprint trace = ⟨[], [], 1, 1⟩ := by
          intro hnone
          rw [h₁, h₂, h₃, hnone]
          rfl
        split at hrun₃
        · rename_i e hlate
          obtain ⟨rfl, rfl⟩ := runs_pure hrun₃
          exact ⟨1, Nat.le_refl 1, hfoot rfl,
            .inr (.inl ⟨e, rfl, isOfCollaborator_of_inTime hlate⟩)⟩
        · obtain ⟨rfl, rfl⟩ := runs_pure hrun₃
          exact ⟨1, Nat.le_refl 1, hfoot rfl, .inr (.inr ⟨_, rfl, rfl⟩)⟩
      · refine ⟨1, Nat.le_refl 1, ?_, .inl rfl⟩
        rw [h₁, h₂, h₃]
        rfl
  · refine ⟨0, Nat.zero_le 1, ?_, .inl rfl⟩
    rw [h₁, h₂]
    rfl

theorem exit_of_serve {d : Decision} {outcome : Option (Except PipelineError PipelineOutcome)}
    (hstate : p.state = .policyEvaluated) (hallowed : d.allowed = true)
    (hrun : TimedRuns endless (pipeline.serve p r started d).run trace outcome) :
    Exit endless r p.id (.ok d) (footprint trace) outcome := by
  unfold serve at hrun
  obtain ⟨trace₁, hrun₁, h₁⟩ := runs_advance_bind
    (show p.state.next? .route = some .routed by rw [hstate]; rfl) hrun
  obtain ⟨begun, trace₂, hrun₂, h₂⟩ := runs_ask_bind id hrun₁
  obtain ⟨trace₃, _, hroute, hrest⟩ := hrun₂.of_bind_except
  rcases runs_routeAndRedact hroute with ⟨hends, h₃, rfl⟩ | ⟨redactions, honce, h₃, hreached⟩
  · obtain ⟨rfl, rfl⟩ := hrest
    have hfoot : footprint trace = .none := by
      rw [h₁, h₂, h₃]
      rfl
    rw [hfoot]
    exact .untimed hallowed hends
  rcases hreached with rfl | ⟨e, rfl, he⟩ | ⟨⟨response, redacted⟩, rfl, rfl⟩
  · obtain ⟨rfl, rfl⟩ := hrest
    have hfoot : footprint trace = ⟨[], [], 1, redactions⟩ := by
      rw [h₁, h₂, h₃]
      exact Footprint.none_append _
    rw [hfoot]
    exact .broken hallowed honce
  · obtain ⟨trace₄, rfl, hrun₄⟩ := hrest
    obtain ⟨done, trace₅, hrun₅, h₄⟩ := runs_ask_bind id hrun₄
    obtain ⟨_, trace₆, hrun₆, h₅⟩ := runs_ask_bind id hrun₅
    obtain ⟨trace₇, hrun₇, h₆⟩ := runs_report_bind hrun₆
    obtain ⟨time, id', latency, h₇, rfl⟩ := runs_giveUp rfl hrun₇
    have hfoot : footprint trace = ⟨[failureEntry r p.id time id' e (withDecision d)],
        [.ofRequest (kindOf r) latency .failure], 1, redactions⟩ := by
      rw [h₁, h₂, footprint_append, h₃, h₄, h₅, h₆, h₇]
      simp [GatewayCall.footprint]
    rw [hfoot]
    exact .unrouted hallowed he honce time id' latency
  · obtain ⟨trace₄, rfl, hrun₄⟩ := hrest
    obtain ⟨done, trace₅, hrun₅, h₄⟩ := runs_ask_bind id hrun₄
    obtain ⟨_, trace₆, hrun₆, h₅⟩ := runs_ask_bind id hrun₅
    obtain ⟨time, id', latency, h₆, rfl⟩ := runs_deliver rfl hrun₆
    have hfoot : footprint trace = ⟨[serviceEntry r p.id time id' d response.metadata redacted],
        [{ Sample.ofRequest (kindOf r) latency .success with
          provider := some response.metadata.provider, tokens := response.metadata.tokens,
          cost := response.metadata.cost }], 1, 1⟩ := by
      rw [h₁, h₂, footprint_append, h₃, h₄, h₅, h₆]
      rfl
    rw [hfoot]
    exact .served hallowed response.metadata redacted time id' latency

/-- A run of the pipeline asks the engine first. When the engine has answered, the rest of the run
is one of the exits. -/
theorem exit_of_process {outcome : Option (Except PipelineError PipelineOutcome)}
    (hrun : TimedRuns endless (pipeline.process r).run trace outcome) :
    ∃ started request evaluation verdict rest,
      trace = ⟨.elapsed, some started⟩ :: ⟨.requestId, some request⟩ :: (evaluation ++ rest) ∧
      TimedRuns endless (pipeline.engine r) evaluation verdict ∧
      match verdict with
      | some verdict => Exit endless r request verdict (footprint rest) outcome
      | none => rest = [] ∧ outcome = none := by
  unfold process at hrun
  obtain ⟨started, trace₁, rfl, hrun₁⟩ := trace_ask_bind id hrun
  obtain ⟨request, trace₂, rfl, hrun₂⟩ := trace_ask_bind id hrun₁
  refine ⟨started, request, ?_⟩
  rw [ExceptT.run_bind_lift] at hrun₂
  rcases hrun₂.of_bind with ⟨evaluation, rest, verdict, rfl, hengine, hrun₃⟩ | ⟨hengine, rfl⟩
  · refine ⟨evaluation, some verdict, rest, rfl, hengine, ?_⟩
    cases verdict with
    | error e =>
      obtain ⟨trace₄, hrun₄, h₄⟩ := runs_report_bind hrun₃
      obtain ⟨time, audit, latency, h₅, rfl⟩ := runs_giveUp rfl hrun₄
      rw [h₄, h₅]
      exact .undecided e time audit latency
    | ok d =>
      obtain ⟨now, trace₄, hrun₄, h₄⟩ := runs_ask_bind id hrun₃
      obtain ⟨_, trace₅, hrun₅, h₅⟩ := runs_ask_bind id hrun₄
      obtain ⟨_, trace₆, hrun₆, h₆⟩ := runs_ask_bind id hrun₅
      obtain ⟨trace₇, hrun₇, h₇⟩ := runs_advance_bind
        (show RequestState.received.next? .evaluate = some .policyEvaluated from rfl) hrun₆
      have hfoot : footprint rest = footprint trace₇ := by
        rw [h₄, h₅, h₆, h₇]
        simp [GatewayCall.footprint]
      rw [hfoot]
      cases hallowed : d.allowed with
      | true =>
        rw [hallowed, if_pos rfl] at hrun₇
        exact exit_of_serve rfl hallowed hrun₇
      | false =>
        rw [hallowed, if_neg Bool.false_ne_true] at hrun₇
        exact exit_of_refuse rfl hallowed hrun₇
  · exact ⟨trace₂, none, [], by rw [List.append_nil], hengine, rfl, rfl⟩

end Routing

end Pipeline

end Governance
