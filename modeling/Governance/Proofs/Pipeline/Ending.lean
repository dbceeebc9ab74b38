import Governance.Proofs.Pipeline.Exit

/-!
# What the end of a request depends on

How a request ends follows from the verdict of the engine and from what the collaborators replied.
Of the response of a provider only what is known about it counts: its content goes to the redactor
and nowhere else. `Ending.of?` computes the end, and `ending_of_runs` says that every run of the
pipeline comes to that end: the entry that it offers and its result are functions of it.
-/

namespace Governance

/-! ### What the collaborators replied -/

/-- A reply of a collaborator: there is none when it broke down, and nothing in it when it was not
ready at its deadline. -/
abbrev CollaboratorReply (α : Type) := Option (Option (Except CollaboratorError α))

/-- A reply of the router as far as anyone but the redactor sees it: of a response only what is known
about it. -/
def Exchange.routingReply? :
    Exchange gatewayInterface → Option (CollaboratorReply ProviderMetadata)
  | ⟨.route .., reply⟩ => some (reply.map (Option.map (Except.map ProviderResponse.metadata)))
  | _ => none

def Exchange.redactionReply? :
    Exchange gatewayInterface → Option (CollaboratorReply RedactedResponse)
  | ⟨.redact .., reply⟩ => some reply
  | _ => none

/-- What the router replied, the content of responses left out. -/
def routingReplies (trace : List (Exchange gatewayInterface)) :
    List (CollaboratorReply ProviderMetadata) :=
  trace.filterMap Exchange.routingReply?

def redactionReplies (trace : List (Exchange gatewayInterface)) :
    List (CollaboratorReply RedactedResponse) :=
  trace.filterMap Exchange.redactionReply?

theorem routingReplies_eq_nil {trace : List (Exchange gatewayInterface)}
    (hnone : (footprint trace).routings = 0) : routingReplies trace = [] := by
  induction trace with
  | nil => rfl
  | cons x rest ih =>
    have hsum : x.call.footprint.routings + (footprint rest).routings = 0 := hnone
    obtain ⟨call, reply⟩ := x
    have hrest : routingReplies rest = [] := ih (by omega)
    cases call with
    | route r deadline => exact absurd hsum (by simp [GatewayCall.footprint])
    | _ => exact hrest

theorem redactionReplies_eq_nil {trace : List (Exchange gatewayInterface)}
    (hnone : (footprint trace).redactions = 0) : redactionReplies trace = [] := by
  induction trace with
  | nil => rfl
  | cons x rest ih =>
    have hsum : x.call.footprint.redactions + (footprint rest).redactions = 0 := hnone
    obtain ⟨call, reply⟩ := x
    have hrest : redactionReplies rest = [] := ih (by omega)
    cases call with
    | redact r response deadline => exact absurd hsum (by simp [GatewayCall.footprint])
    | _ => exact hrest

/-! ### Traces of the steps -/

namespace GovernedProgram

variable {α : Type} {trace : List (Exchange gatewayInterface)}
  {outcome : Option (Except PipelineError α)}

theorem trace_ask_bind_or_broken {c : GatewayCall} {f : c.Answer → GovernedProgram α}
    (hrun : GatewayRuns (ask c >>= f).run trace outcome) :
    (∃ answer rest, trace = ⟨c, some answer⟩ :: rest ∧ GatewayRuns (f answer).run rest outcome) ∨
    (trace = [⟨c, none⟩] ∧ outcome = none) := by
  have hcall : GatewayRuns (.call c fun answer => (f answer).run) trace outcome := hrun
  cases hcall with
  | unanswered => exact .inr ⟨rfl, rfl⟩
  | answered answer rest => exact .inl ⟨answer, _, rfl, rest⟩

end GovernedProgram

theorem Pipeline.trace_advance_bind {α : Type} {p : Progress} {event : RequestEvent}
    {next : RequestState} {f : Progress → GovernedProgram α}
    {trace : List (Exchange gatewayInterface)} {outcome : Option (Except PipelineError α)}
    (hnext : p.state.next? event = some next)
    (hrun : GatewayRuns (Pipeline.advance p event >>= f).run trace outcome) :
    ∃ e rest, trace = ⟨.service (.report e), some ()⟩ :: rest ∧
      GatewayRuns (f { p with state := next }).run rest outcome := by
  have hadvance : Pipeline.advance p event = (do
      GovernedProgram.report (transitionEvent p.id p.state next event)
      return { p with state := next }) := by
    simp only [Pipeline.advance, hnext]
  rw [hadvance, bind_assoc] at hrun
  obtain ⟨_, rest, rfl, hrest⟩ :=
    GovernedProgram.trace_ask_bind (c := .service (.report _)) id hrun
  rw [pure_bind] at hrest
  exact ⟨_, rest, rfl, hrest⟩

namespace Pipeline

open GovernedProgram

/-! ### The end of a request -/

/-- How a request ends that comes to an end. -/
inductive Ending where
  | undecided (e : EvaluationError)
  | refused (d : Decision)
  | failed (d : Decision) (e : PipelineError)
  | served (d : Decision) (m : ProviderMetadata) (redacted : RedactedResponse)

namespace Ending

def entry (r : Request) (request : RequestId) (time : Instant) (audit : AuditId) :
    Ending → AuditEntry
  | .undecided e => failureEntry r request time audit (.policy e) id
  | .refused d => refusalEntry r request time audit d
  | .failed d e => failureEntry r request time audit e (withDecision d)
  | .served d m redacted => serviceEntry r request time audit d m redacted

def result (request : RequestId) : Ending → Except PipelineError PipelineOutcome
  | .undecided e => .error (.policy e)
  | .refused d => .ok (.blocked ⟨request, reasonOf d, d.applied, d.riskScore⟩)
  | .failed _ e => .error e
  | .served d m redacted => .ok (.served ⟨request, redacted.content, m, redacted.redacted, d⟩)

end Ending

/-- What routing and redacting come to: nothing when a collaborator broke down, or was never asked. -/
def routed? (deadline : Duration)
    (routings : List (CollaboratorReply ProviderMetadata))
    (redactions : List (CollaboratorReply RedactedResponse)) :
    Option (Except PipelineError (ProviderMetadata × RedactedResponse)) :=
  match routings with
  | [some reply] =>
    match inTime routingStage deadline reply, redactions with
    | .error e, _ => some (.error e)
    | .ok m, [some reply] =>
      some ((inTime redactionStage deadline reply).map fun redacted => (m, redacted))
    | .ok _, _ => none
  | _ => none

/-- The end of a request that may pass, from what routing and redacting came to. -/
def Ending.ofRouted (d : Decision) :
    Except PipelineError (ProviderMetadata × RedactedResponse) → Ending
  | .error e => .failed d e
  | .ok (m, redacted) => .served d m redacted

/-- The end that a verdict and the replies of the collaborators lead to: none when a collaborator
broke down, or was never asked. -/
def Ending.of? (deadline : Duration) (verdict : Except EvaluationError Decision)
    (routings : List (CollaboratorReply ProviderMetadata))
    (redactions : List (CollaboratorReply RedactedResponse)) :
    Option Ending :=
  match verdict with
  | .error e => some (.undecided e)
  | .ok d =>
    if d.allowed then (routed? deadline routings redactions).map (.ofRouted d)
    else some (.refused d)

/-- A request has come to an end when it has left the entry and the result of that end, and to none
when it has left neither. -/
def ComesTo (ending : Option Ending) (r : Request) (request : RequestId)
    (trace : List (Exchange gatewayInterface))
    (result : Option (Except PipelineError PipelineOutcome)) : Prop :=
  match ending with
  | some ending => ∃ time audit, (footprint trace).offers = [ending.entry r request time audit] ∧
      result = some (ending.result request)
  | none => (footprint trace).offers = [] ∧ result = none

theorem Exit.refusal {endless : Bool} {r : Request} {request : RequestId} {d : Decision}
    {f : Footprint} {outcome : Option (Except PipelineError PipelineOutcome)}
    (hrefused : d.allowed = false) (hexit : Exit endless r request (.ok d) f outcome) :
    ∃ time audit, f.offers = [(Ending.refused d).entry r request time audit] ∧
      outcome = some ((Ending.refused d).result request) := by
  cases hexit with
  | refused _ time audit latency => exact ⟨time, audit, rfl, rfl⟩
  | unrouted hallowed => exact absurd hallowed (by simp [hrefused])
  | served hallowed => exact absurd hallowed (by simp [hrefused])
  | broken hallowed => exact absurd hallowed (by simp [hrefused])
  | untimed hallowed => exact absurd hallowed (by simp [hrefused])

theorem inTime_metadata (stage : String) (allowed : Duration)
    (reply : Option (Except CollaboratorError ProviderResponse)) :
    inTime stage allowed (reply.map (Except.map ProviderResponse.metadata)) =
      (inTime stage allowed reply).map ProviderResponse.metadata := by
  rcases reply with _ | _ | _ <;> rfl

section Routing

variable {pipeline : Pipeline} {p : Progress} {r : Request} {started : Duration}
  {trace : List (Exchange gatewayInterface)}

theorem routed_of_routeAndRedact
    {outcome : Option (Except PipelineError
      (Except PipelineError (ProviderResponse × RedactedResponse)))}
    (hrun : GatewayRuns (pipeline.routeAndRedact r).run trace outcome) :
    (outcome = none ∧
      routed? pipeline.deadline (routingReplies trace) (redactionReplies trace) = none) ∨
    ∃ result, outcome = some (.ok result) ∧
      routed? pipeline.deadline (routingReplies trace) (redactionReplies trace) =
        some (result.map fun answer => (answer.1.metadata, answer.2)) := by
  unfold routeAndRedact at hrun
  rcases (trace_ask_bind_or_broken hrun).symm with ⟨rfl, rfl⟩ | ⟨deadline, trace₁, rfl, hrun₁⟩
  · exact .inl ⟨rfl, rfl⟩
  rcases trace_ask_bind_or_broken hrun₁ with ⟨routing, trace₂, rfl, hrun₂⟩ | ⟨rfl, rfl⟩
  · have hknown := inTime_metadata routingStage pipeline.deadline routing
    split at hrun₂
    · rename_i e hlate
      obtain ⟨rfl, rfl⟩ := runs_pure hrun₂
      rw [hlate] at hknown
      refine .inr ⟨_, rfl, ?_⟩
      change routed? _ [some (routing.map (Except.map ProviderResponse.metadata))] [] = _
      simp only [routed?, hknown, Except.map]
    · rename_i response hroute
      rw [hroute] at hknown
      rcases trace_ask_bind_or_broken hrun₂ with ⟨redaction, trace₃, rfl, hrun₃⟩ | ⟨rfl, rfl⟩
      · split at hrun₃
        · rename_i e hlate
          obtain ⟨rfl, rfl⟩ := runs_pure hrun₃
          refine .inr ⟨_, rfl, ?_⟩
          change routed? _ [some (routing.map (Except.map ProviderResponse.metadata))]
            [some redaction] = _
          simp only [routed?, hknown, hlate, Except.map]
        · rename_i redacted hredact
          obtain ⟨rfl, rfl⟩ := runs_pure hrun₃
          refine .inr ⟨_, rfl, ?_⟩
          change routed? _ [some (routing.map (Except.map ProviderResponse.metadata))]
            [some redaction] = _
          simp only [routed?, hknown, hredact, Except.map]
      · refine .inl ⟨rfl, ?_⟩
        change routed? _ [some (routing.map (Except.map ProviderResponse.metadata))] [none] = _
        simp only [routed?, hknown, Except.map]
  · exact .inl ⟨rfl, rfl⟩

/-- What the collaborators came to is the end of a request that may pass, when nobody asks them
again. -/
theorem of?_eq_of_routed {d : Decision} {deadline : Duration}
    {routing after : List (Exchange gatewayInterface)}
    {result : Except PipelineError (ProviderMetadata × RedactedResponse)}
    (hallowed : d.allowed = true)
    (hrouted : routed? deadline (routingReplies routing) (redactionReplies routing) = some result)
    (hroutings : (footprint after).routings = 0) (hredactions : (footprint after).redactions = 0) :
    Ending.of? deadline (.ok d) (routingReplies (routing ++ after))
        (redactionReplies (routing ++ after)) =
      some (.ofRouted d result) := by
  have hroute : routingReplies (routing ++ after) = routingReplies routing := by
    rw [routingReplies, List.filterMap_append]
    exact (congrArg _ (routingReplies_eq_nil hroutings)).trans (List.append_nil _)
  have hredact : redactionReplies (routing ++ after) = redactionReplies routing := by
    rw [redactionReplies, List.filterMap_append]
    exact (congrArg _ (redactionReplies_eq_nil hredactions)).trans (List.append_nil _)
  rw [hroute, hredact, Ending.of?, if_pos hallowed, hrouted]
  rfl

/-- Routing a request brings it to the end that the replies lead to. -/
theorem comesTo_of_serve {d : Decision}
    {outcome : Option (Except PipelineError PipelineOutcome)}
    (hstate : p.state = .policyEvaluated) (hallowed : d.allowed = true)
    (hrun : GatewayRuns (pipeline.serve p r started d).run trace outcome) :
    ComesTo (Ending.of? pipeline.deadline (.ok d) (routingReplies trace) (redactionReplies trace))
      r p.id trace outcome := by
  unfold serve at hrun
  obtain ⟨e, trace₁, rfl, hrun₁⟩ := trace_advance_bind
    (show p.state.next? .route = some .routed by rw [hstate]; rfl) hrun
  obtain ⟨begun, trace₂, rfl, hrun₂⟩ := trace_ask_bind id hrun₁
  -- A report and a look at the clock are neither replies nor noticed.
  change ComesTo (Ending.of? _ _ (routingReplies trace₂) (redactionReplies trace₂)) r p.id trace₂
    outcome
  obtain ⟨routing, _, hroute, hrest⟩ := hrun₂.of_bind_except
  have hoffers : (footprint routing).offers = [] := by
    rcases runs_routeAndRedact hroute with ⟨-, hfoot, -⟩ | ⟨_, -, hfoot, -⟩
    · rw [hfoot, Footprint.none]
    · rw [hfoot]
  rcases routed_of_routeAndRedact hroute with ⟨rfl, hrouted⟩ | ⟨result, rfl, hrouted⟩
  · obtain ⟨rfl, rfl⟩ := hrest
    rw [Ending.of?, if_pos hallowed, hrouted]
    exact ⟨hoffers, rfl⟩
  · obtain ⟨trace₃, rfl, hrun₃⟩ := hrest
    obtain ⟨done, trace₄, hrun₄, h₃⟩ := runs_ask_bind id hrun₃
    obtain ⟨_, trace₅, hrun₅, h₄⟩ := runs_ask_bind id hrun₄
    cases result with
    | error e =>
      obtain ⟨trace₆, hrun₆, h₅⟩ := runs_report_bind hrun₅
      obtain ⟨time, audit, latency, h₆, rfl⟩ := runs_giveUp rfl hrun₆
      have hafter := h₃.trans (congrArg _ (h₄.trans (congrArg _ (h₅.trans h₆))))
      rw [of?_eq_of_routed hallowed hrouted (by rw [hafter]; rfl) (by rw [hafter]; rfl)]
      exact ⟨time, audit, by rw [footprint_append, Footprint.append_offers, hoffers, hafter]; rfl, rfl⟩
    | ok answer =>
      obtain ⟨response, redacted⟩ := answer
      obtain ⟨time, audit, latency, h₅, rfl⟩ := runs_deliver rfl hrun₅
      have hafter := h₃.trans (congrArg _ (h₄.trans (congrArg _ h₅)))
      rw [of?_eq_of_routed hallowed hrouted (by rw [hafter]; rfl) (by rw [hafter]; rfl)]
      exact ⟨time, audit, by rw [footprint_append, Footprint.append_offers, hoffers, hafter]; rfl, rfl⟩

/-- A run of the pipeline asks the engine first. The rest of it is brought to the end that the verdict
and the replies of the collaborators lead to. -/
theorem ending_of_runs {outcome : Option (Except PipelineError PipelineOutcome)}
    (hrun : GatewayRuns (pipeline.process r).run trace outcome) :
    ∃ started request evaluation verdict rest,
      trace = ⟨.elapsed, some started⟩ :: ⟨.requestId, some request⟩ :: (evaluation ++ rest) ∧
      GatewayRuns (pipeline.engine r) evaluation verdict ∧
      match verdict with
      | some verdict =>
        ComesTo (Ending.of? pipeline.deadline verdict (routingReplies rest) (redactionReplies rest))
          r request rest outcome
      | none => rest = [] ∧ outcome = none := by
  unfold process at hrun
  obtain ⟨started, trace₁, rfl, hrun₁⟩ := trace_ask_bind id hrun
  obtain ⟨request, trace₂, rfl, hrun₂⟩ := trace_ask_bind id hrun₁
  refine ⟨started, request, ?_⟩
  rw [ExceptT.run_bind_lift] at hrun₂
  rcases hrun₂.of_bind with ⟨evaluation, rest, verdict, rfl, hengine, hrun₃⟩ | ⟨hengine, rfl⟩
  · refine ⟨evaluation, some verdict, rest, rfl, hengine, ?_⟩
    cases verdict with
    | error e =>
      obtain ⟨trace₄, hrun₄, h₄⟩ := runs_report_bind hrun₃
      obtain ⟨time, audit, latency, h₅, rfl⟩ := runs_giveUp rfl hrun₄
      exact ⟨time, audit, by rw [h₄, h₅]; rfl, rfl⟩
    | ok d =>
      obtain ⟨now, trace₄, rfl, hrun₄⟩ := trace_ask_bind id hrun₃
      obtain ⟨_, trace₅, rfl, hrun₅⟩ := trace_ask_bind id hrun₄
      obtain ⟨_, trace₆, rfl, hrun₆⟩ := trace_ask_bind id hrun₅
      obtain ⟨e, trace₇, rfl, hrun₇⟩ := trace_advance_bind
        (show RequestState.received.next? .evaluate = some .policyEvaluated from rfl) hrun₆
      change ComesTo (Ending.of? _ _ (routingReplies trace₇) (redactionReplies trace₇)) r request
        trace₇ outcome
      cases hallowed : d.allowed with
      | true =>
        rw [hallowed, if_pos rfl] at hrun₇
        exact comesTo_of_serve rfl hallowed hrun₇
      | false =>
        rw [hallowed, if_neg Bool.false_ne_true] at hrun₇
        rw [Ending.of?, if_neg (by rw [hallowed]; exact Bool.false_ne_true)]
        exact (exit_of_refuse rfl hallowed hrun₇).refusal hallowed
  · exact ⟨trace₂, none, [], by rw [List.append_nil], hengine, rfl, rfl⟩

end Routing

end Pipeline

end Governance
