import Governance.Proofs.Gateway.Runs
import Governance.Proofs.Pipeline.Ending

/-!
# Routing and redaction share one deadline

From the verdict on, a request that may pass waits for the router and then for the redactor, for both
until one deadline. A collaborator that is ready at the deadline itself is in time. Nothing else that is
done for a request takes any time of the timers, so that it ends at the deadline at the latest. A deadline
that is too far away for the timers is never set: the request then breaks down before anyone is asked.
-/

namespace Governance

/-! ### The collaborators, one after the other -/

namespace Reaction

variable {α : Type} (x : Reaction α)

/-- What comes of waiting for a collaborator for some time at most, and how long that takes. -/
def within (time : Nat) : Option (Option (Except CollaboratorError α)) × Nat :=
  if time < x.delay.nanos then (some none, time) else (x.result.map some, x.delay.nanos)

theorem within_le (time : Nat) : (x.within time).2 ≤ time := by
  rw [within]
  split
  · exact Nat.le_refl time
  · rename_i hready
    exact Nat.not_lt.1 hready

theorem awaited_eq {now deadline : Duration} {time : Nat}
    (hdeadline : now.nanos + time = deadline.nanos) :
    x.awaited now deadline = ((x.within time).1, ⟨now.nanos + (x.within time).2⟩) := by
  rw [awaited, within, ← hdeadline]
  by_cases hlate : time < x.delay.nanos
  · rw [if_neg (by omega), if_pos hlate, Nat.max_eq_right (Nat.le_add_right ..)]
  · rw [if_pos (by omega), if_neg hlate]

end Reaction

/-- How routing and redacting end: the result, unless there is none, the time that it takes and how often
the collaborators are asked. -/
structure Relay where
  result : Option (Except PipelineError (ProviderResponse × RedactedResponse))
  spent : Nat
  routings : Nat
  redactions : Nat

namespace Collaborators

open Pipeline

variable (c : Collaborators) (deadline : Duration) (r : Request)

/-- What the collaborators make of a request until a deadline. The redactor has the time that the router
has left. -/
def relay : Relay :=
  let (routing, spent) := (c.route r).within deadline.nanos
  match routing.map (inTime routingStage deadline) with
  | none => ⟨none, spent, 1, 0⟩
  | some (.error e) => ⟨some (.error e), spent, 1, 0⟩
  | some (.ok response) =>
    let (redaction, more) := (c.redact r response).within (deadline.nanos - spent)
    ⟨redaction.map fun reply =>
      (inTime redactionStage deadline reply).map fun redacted => (response, redacted),
      spent + more, 1, 1⟩

theorem relay_le : (c.relay deadline r).spent ≤ deadline.nanos ∧ (c.relay deadline r).routings ≤ 1 ∧
    (c.relay deadline r).redactions ≤ 1 := by
  have hrouting := (c.route r).within_le deadline.nanos
  unfold relay
  dsimp only
  split
  · exact ⟨hrouting, Nat.le_refl 1, Nat.zero_le 1⟩
  · exact ⟨hrouting, Nat.le_refl 1, Nat.zero_le 1⟩
  · rename_i response _
    have hredaction := (c.redact r response).within_le
      (deadline.nanos - ((c.route r).within deadline.nanos).2)
    exact ⟨by dsimp only; omega, Nat.le_refl 1, Nat.le_refl 1⟩

theorem relay_of_ok {response : ProviderResponse} {redacted : RedactedResponse}
    (hroute : (c.route r).result = some (.ok response))
    (hredact : (c.redact r response).result = some (.ok redacted)) :
    c.relay deadline r =
      if deadline.nanos < (c.route r).delay.nanos then
        ⟨some (.error (.timeout routingStage deadline)), deadline.nanos, 1, 0⟩
      else if deadline.nanos < (c.route r).delay.nanos + (c.redact r response).delay.nanos then
        ⟨some (.error (.timeout redactionStage deadline)), deadline.nanos, 1, 1⟩
      else ⟨some (.ok (response, redacted)),
        (c.route r).delay.nanos + (c.redact r response).delay.nanos, 1, 1⟩ := by
  unfold relay Reaction.within
  by_cases hrouted : deadline.nanos < (c.route r).delay.nanos
  · rw [if_pos hrouted, if_pos hrouted]
    rfl
  rw [if_neg hrouted, if_neg hrouted, hroute]
  simp only [Option.map_some, inTime]
  by_cases hredacted : deadline.nanos < (c.route r).delay.nanos + (c.redact r response).delay.nanos
  · have hlate : deadline.nanos - (c.route r).delay.nanos < (c.redact r response).delay.nanos := by omega
    rw [if_pos hredacted, if_pos hlate]
    have hspent : (c.route r).delay.nanos + (deadline.nanos - (c.route r).delay.nanos) = deadline.nanos := by
      omega
    rw [hspent]
    rfl
  · have hready : ¬ deadline.nanos - (c.route r).delay.nanos < (c.redact r response).delay.nanos := by
      omega
    rw [if_neg hredacted, if_neg hready, hredact]
    rfl

/-- What the collaborators make of a request if the timers can tell its deadline. If they cannot, nobody
is asked and nothing comes of it. -/
def relayFrom (k : Timers) : Relay :=
  match k.deadline? deadline with
  | none => ⟨none, 0, 0, 0⟩
  | some _ => c.relay deadline r

theorem relayFrom_le (k : Timers) : (c.relayFrom deadline r k).spent ≤ deadline.nanos ∧
    (c.relayFrom deadline r k).routings ≤ 1 ∧ (c.relayFrom deadline r k).redactions ≤ 1 := by
  unfold relayFrom
  split
  · exact ⟨Nat.zero_le _, Nat.zero_le 1, Nat.zero_le 1⟩
  · exact c.relay_le deadline r

end Collaborators

def Timers.after (k : Timers) (relay : Relay) : Timers where
  started := k.started
  elapsed := ⟨k.elapsed.nanos + relay.spent⟩
  routed := k.routed + relay.routings
  redacted := k.redacted + relay.redactions

namespace Pipeline

open GovernedProgram Gateway

variable {pipeline : Pipeline} {p : Progress} {r : Request} {started : Duration}
  {trace : List (Exchange gatewayInterface)} {c : Collaborators} {k k' : Timers}

/-- A call is answered and the timers move, and its answer is gone on with unless there is none. -/
theorem spans_ask_bind {α : Type} {call : GatewayCall} {f : call.Answer → GovernedProgram α}
    {outcome : Option (Except PipelineError α)}
    (hrun : GatewayRuns (ask call >>= f).run trace outcome) (hspans : Spans (Timers.Moves c) k trace k') :
    ∃ reply k₁, Timers.Moves c k ⟨call, reply⟩ k₁ ∧ match reply with
      | none => k' = k₁ ∧ outcome = none
      | some answer => ∃ rest,
        GatewayRuns (f answer).run rest outcome ∧ Spans (Timers.Moves c) k₁ rest k' := by
  rcases trace_ask_bind_or_broken hrun with ⟨answer, rest, rfl, hrest⟩ | ⟨rfl, rfl⟩
  · obtain ⟨k₁, hmoves, hafter⟩ := hspans
    exact ⟨some answer, k₁, hmoves, rest, hrest, hafter⟩
  · obtain ⟨k₁, hmoves, hafter⟩ := hspans
    exact ⟨none, k₁, hmoves, hafter, rfl⟩

/-- The redactor is waited for as long as the deadline is away. -/
theorem relay_of_redact {response : ProviderResponse} {deadline : Duration} {left : Nat}
    {outcome : Option (Except PipelineError
      (Except PipelineError (ProviderResponse × RedactedResponse)))}
    (hleft : k.elapsed.nanos + left = deadline.nanos)
    (hrun : GatewayRuns (do
      match inTime redactionStage pipeline.deadline (← ask (.redact r response deadline)) with
      | .error e => return .error e
      | .ok redacted => return .ok (response, redacted) :
        GovernedProgram (Except PipelineError (ProviderResponse × RedactedResponse))).run trace outcome)
    (hspans : Spans (Timers.Moves c) k trace k') :
    (outcome = ((c.redact r response).within left).1.map fun reply =>
      .ok ((inTime redactionStage pipeline.deadline reply).map fun redacted => (response, redacted))) ∧
      k' = { k with
        elapsed := ⟨k.elapsed.nanos + ((c.redact r response).within left).2⟩
        redacted := k.redacted + 1 } := by
  obtain ⟨reply, _, ⟨hreply, rfl⟩, hrest⟩ := spans_ask_bind hrun hspans
  rw [(c.redact r response).awaited_eq hleft] at hreply hrest
  rw [← hreply]
  cases reply with
  | none => exact ⟨hrest.2, hrest.1⟩
  | some reply =>
    obtain ⟨rest, hrun', hspans'⟩ := hrest
    cases hin : inTime redactionStage pipeline.deadline reply with
    | error e =>
      rw [hin] at hrun'
      obtain ⟨rfl, rfl⟩ := runs_pure hrun'
      rw [Option.map_some, hin]
      exact ⟨rfl, hspans'⟩
    | ok redacted =>
      rw [hin] at hrun'
      obtain ⟨rfl, rfl⟩ := runs_pure hrun'
      rw [Option.map_some, hin]
      exact ⟨rfl, hspans'⟩

theorem relay_of_routeAndRedact
    {outcome : Option (Except PipelineError
      (Except PipelineError (ProviderResponse × RedactedResponse)))}
    (hrun : GatewayRuns (pipeline.routeAndRedact r).run trace outcome)
    (hspans : Spans (Timers.Moves c) k trace k') :
    outcome = (c.relayFrom pipeline.deadline r k).result.map .ok ∧
      k' = k.after (c.relayFrom pipeline.deadline r k) := by
  unfold routeAndRedact at hrun
  obtain ⟨told, k, ⟨htold, rfl⟩, hafter⟩ := spans_ask_bind hrun hspans
  rw [Collaborators.relayFrom, ← htold]
  rcases told with _ | deadline
  · exact ⟨hafter.2, hafter.1⟩
  obtain rfl := Timers.eq_of_deadline? htold.symm
  obtain ⟨trace₁, hrun₁, hspans₁⟩ := hafter
  obtain ⟨reply, _, ⟨hreply, rfl⟩, hrest⟩ := spans_ask_bind hrun₁ hspans₁
  rw [(c.route r).awaited_eq rfl] at hreply hrest
  dsimp only
  have hle := (c.route r).within_le pipeline.deadline.nanos
  unfold Collaborators.relay
  generalize (c.route r).within pipeline.deadline.nanos = waited at hreply hrest hle ⊢
  obtain ⟨routing, spent⟩ := waited
  obtain rfl : reply = routing := hreply
  cases reply with
  | none => exact ⟨hrest.2, hrest.1⟩
  | some reply =>
    obtain ⟨rest, hrun₂, hspans₂⟩ := hrest
    cases hin : inTime routingStage pipeline.deadline reply with
    | error e =>
      rw [hin] at hrun₂
      obtain ⟨rfl, rfl⟩ := runs_pure hrun₂
      dsimp only
      rw [Option.map_some, hin]
      exact ⟨rfl, hspans₂⟩
    | ok response =>
      rw [hin] at hrun₂
      simp only [Option.map_some, hin]
      have hleft : k.elapsed.nanos + spent + (pipeline.deadline.nanos - spent) =
          k.elapsed.nanos + pipeline.deadline.nanos := by
        dsimp only at hle
        omega
      obtain ⟨rfl, rfl⟩ := relay_of_redact hleft hrun₂ hspans₂
      refine ⟨(Option.map_map ..).symm, ?_⟩
      rw [Timers.after]
      simp only [Nat.add_assoc]

/-! ### From the verdict on -/

theorem relay_of_serve {d : Decision} {outcome : Option (Except PipelineError PipelineOutcome)}
    (hstate : p.state = .policyEvaluated)
    (hrun : GatewayRuns (pipeline.serve p r started d).run trace outcome)
    (hspans : Spans (Timers.Moves c) k trace k') :
    k' = k.after (c.relayFrom pipeline.deadline r k) ∧
      outcome = (c.relayFrom pipeline.deadline r k).result.map fun result => result.map fun answer =>
        .served ⟨p.id, answer.2.content, answer.1.metadata, answer.2.redacted, d⟩ := by
  unfold serve at hrun
  obtain ⟨e, trace₁, rfl, hrun₁⟩ := trace_advance_bind
    (show p.state.next? .route = some .routed by rw [hstate]; rfl) hrun
  obtain ⟨k, rfl, hspans₁⟩ := hspans
  obtain ⟨begun, trace₂, rfl, hrun₂⟩ := trace_ask_bind id hrun₁
  obtain ⟨k, ⟨-, rfl⟩, hspans₂⟩ := hspans₁
  obtain ⟨routing, reached, hroute, hrest⟩ := hrun₂.of_bind_except
  match reached, hroute, hrest with
  | none, hroute, ⟨htrace, hout⟩ =>
    subst htrace hout
    obtain ⟨hresult, hafter⟩ := relay_of_routeAndRedact hroute hspans₂
    rw [Option.map_eq_none_iff.1 hresult.symm]
    exact ⟨hafter, rfl⟩
  | some (.error e), hroute, ⟨htrace, hout⟩ =>
    subst htrace
    obtain ⟨hresult, -⟩ := relay_of_routeAndRedact hroute hspans₂
    obtain ⟨_, -, ⟨⟩⟩ := Option.map_eq_some_iff.1 hresult.symm
  | some (.ok routed), hroute, ⟨trace₃, htrace, hrun₃⟩ =>
    subst htrace
    obtain ⟨k₁, hrouting, hspans₃⟩ := hspans₂.of_append
    obtain ⟨hresult, rfl⟩ := relay_of_routeAndRedact hroute hrouting
    obtain ⟨_, hrelay, ⟨⟩⟩ := Option.map_eq_some_iff.1 hresult.symm
    obtain ⟨done, trace₄, hrun₄, h₃⟩ := runs_ask_bind id hrun₃
    obtain ⟨_, trace₅, hrun₅, h₄⟩ := runs_ask_bind id hrun₄
    rw [hrelay]
    cases routed with
    | error e =>
      obtain ⟨trace₆, hrun₆, h₅⟩ := runs_report_bind hrun₅
      obtain ⟨time, audit, latency, h₆, rfl⟩ := runs_giveUp rfl hrun₆
      have hafter := h₃.trans (congrArg _ (h₄.trans (congrArg _ (h₅.trans h₆))))
      exact ⟨hspans₃.eq_of_footprint (by rw [hafter]; rfl) (by rw [hafter]; rfl), rfl⟩
    | ok answer =>
      obtain ⟨time, audit, latency, h₅, rfl⟩ := runs_deliver rfl hrun₅
      have hafter := h₃.trans (congrArg _ (h₄.trans (congrArg _ h₅)))
      exact ⟨hspans₃.eq_of_footprint (by rw [hafter]; rfl) (by rw [hafter]; rfl), rfl⟩

/-- What is done with a request once the engine has answered. -/
def conclude (pipeline : Pipeline) (r : Request) (started : Duration) (request : RequestId)
    (verdict : Except EvaluationError Decision) : GovernedProgram PipelineOutcome := do
  let p : Progress := ⟨request, .received⟩
  match verdict with
  | .error e =>
    report ⟨.error, "policy evaluation failed", about p ++ [("error", .string e.message)]⟩
    giveUp p r started (.policy e) id
  | .ok d =>
    let now ← ask .elapsed
    let spent : Duration := ⟨now.nanos - started.nanos⟩
    ask (.measure (.stage policyStage spent))
    ask (.measure (.evaluation spent d.riskScore d.applied (!d.allowed)))
    let p ← advance p .evaluate
    if d.allowed then pipeline.serve p r started d else refuse p r started d

/-- What is done until the engine has answered: when that began, the identifier of the request, and the
answer. -/
def decide (pipeline : Pipeline) (r : Request) :
    Program gatewayInterface (Duration × RequestId × Except EvaluationError Decision) := do
  let started ← Program.perform (I := gatewayInterface) .elapsed
  let request ← Program.perform (I := gatewayInterface) .requestId
  let verdict ← pipeline.engine r
  return (started, request, verdict)

theorem run_process (pipeline : Pipeline) (r : Request) : (pipeline.process r).run = (do
    let (started, request, verdict) ← pipeline.decide r
    (pipeline.conclude r started request verdict).run) := by
  have hlift (started : Duration) (request : RequestId) :
      (ExceptT.lift (pipeline.engine r) >>= pipeline.conclude r started request).run = (do
        let verdict ← pipeline.engine r
        (pipeline.conclude r started request verdict).run) :=
    ExceptT.run_bind_lift ..
  have hprocess : (pipeline.process r).run = (do
      let started ← Program.perform (I := gatewayInterface) .elapsed
      let request ← Program.perform (I := gatewayInterface) .requestId
      (ExceptT.lift (pipeline.engine r) >>= pipeline.conclude r started request).run) := rfl
  simp only [hprocess, hlift, decide, bind_assoc, pure_bind]

/-- Only a request that may pass is put before the collaborators, and takes time. -/
theorem relay_of_conclude {request : RequestId} {verdict : Except EvaluationError Decision}
    {outcome : Option (Except PipelineError PipelineOutcome)}
    (hrun : GatewayRuns (pipeline.conclude r started request verdict).run trace outcome)
    (hspans : Spans (Timers.Moves c) k trace k') :
    (k' = k ∧ ∀ d, verdict = .ok d → d.allowed = false) ∨
      ∃ d, verdict = .ok d ∧ k' = k.after (c.relayFrom pipeline.deadline r k) ∧
        outcome = (c.relayFrom pipeline.deadline r k).result.map fun result => result.map fun answer =>
          .served ⟨request, answer.2.content, answer.1.metadata, answer.2.redacted, d⟩ := by
  unfold conclude at hrun
  cases verdict with
  | error e =>
    obtain ⟨trace₁, hrun₁, h₁⟩ := runs_report_bind hrun
    obtain ⟨time, audit, latency, h₂, rfl⟩ := runs_giveUp rfl hrun₁
    rw [h₂] at h₁
    exact .inl ⟨hspans.eq_of_footprint (by rw [h₁]) (by rw [h₁]), nofun⟩
  | ok d =>
    obtain ⟨now, trace₁, rfl, hrun₁⟩ := trace_ask_bind id hrun
    obtain ⟨k, ⟨-, rfl⟩, hspans₁⟩ := hspans
    obtain ⟨_, trace₂, rfl, hrun₂⟩ := trace_ask_bind id hrun₁
    obtain ⟨k, rfl, hspans₂⟩ := hspans₁
    obtain ⟨_, trace₃, rfl, hrun₃⟩ := trace_ask_bind id hrun₂
    obtain ⟨k, rfl, hspans₃⟩ := hspans₂
    obtain ⟨e, trace₄, rfl, hrun₄⟩ := trace_advance_bind
      (show RequestState.received.next? .evaluate = some .policyEvaluated from rfl) hrun₃
    obtain ⟨k, rfl, hspans₄⟩ := hspans₃
    cases hallowed : d.allowed with
    | true =>
      rw [hallowed, if_pos rfl] at hrun₄
      exact .inr ⟨d, rfl, relay_of_serve rfl hrun₄ hspans₄⟩
    | false =>
      rw [hallowed, if_neg Bool.false_ne_true] at hrun₄
      obtain ⟨-, hroutings, hredactions⟩ := (exit_of_refuse rfl hallowed hrun₄).of_refusal hallowed
      refine .inl ⟨hspans₄.eq_of_footprint hroutings hredactions, ?_⟩
      rintro _ ⟨⟩
      exact hallowed

end Pipeline

namespace Gateway

variable {σ τ : Type} (b : Option (AuditBackend σ τ)) (c : Collaborators) (pipeline : Pipeline)
  (r : Request)

/-- Governing a request up to the verdict. -/
def evaluate : GatewayAction σ (Duration × RequestId × Except EvaluationError Decision) :=
  Program.run (answer b c) (pipeline.decide r)

theorem govern_eq : govern b c pipeline r = (do
    let (started, request, verdict) ← evaluate b c pipeline r
    Program.run (answer b c) (pipeline.conclude r started request verdict).run) := by
  rw [govern, Pipeline.run_process, Program.run_bind]
  rfl

theorem routing_ne_redaction {time : Duration} :
    (.ok (.error (.timeout Pipeline.routingStage time)) :
      Except Breakdown (Except PipelineError PipelineOutcome)) ≠
        .ok (.error (.timeout Pipeline.redactionStage time)) := by
  simp [Pipeline.routingStage, Pipeline.redactionStage]

variable {g : Gateway σ} {a : Ambient}

/-- After the verdict time passes only for a request that may pass, and then as the collaborators take
it. -/
theorem relay_of_govern {outcome : Except Breakdown (Except PipelineError PipelineOutcome)}
    {evaluated : Except Breakdown (Duration × RequestId × Except EvaluationError Decision)}
    {g₁ g' : Gateway σ} {a₁ a' : Ambient}
    (hevaluate : (evaluate b c pipeline r).run.run g a = ((evaluated, g₁), a₁))
    (hgovern : (govern b c pipeline r).run.run g a = ((outcome, g'), a')) :
    (g'.timers = g₁.timers ∧
      ∀ started request d, evaluated = .ok (started, request, .ok d) → d.allowed = false) ∨
    ∃ started request d, evaluated = .ok (started, request, .ok d) ∧
      g'.timers = g₁.timers.after (c.relayFrom pipeline.deadline r g₁.timers) ∧
      outcome = replyOf ((c.relayFrom pipeline.deadline r g₁.timers).result.map fun result =>
        result.map fun answer => .served ⟨request, answer.2.content, answer.1.metadata, answer.2.redacted, d⟩) := by
  rw [govern_eq, ExceptT.run_bind, Acting.run_bind hevaluate] at hgovern
  match evaluated, hgovern with
  | .error e, hgovern =>
    cases hgovern
    exact .inl ⟨rfl, nofun⟩
  | .ok (started, request, verdict), hgovern =>
    obtain ⟨trace, reply, hrun, houtcome, hspans⟩ :=
      spans_run b c g₁ (pipeline.conclude r started request verdict).run a₁
    rw [hgovern] at houtcome hspans
    rcases Pipeline.relay_of_conclude hrun hspans with ⟨hstill, hrefused⟩ | ⟨d, rfl, hafter, rfl⟩
    · refine .inl ⟨hstill, ?_⟩
      rintro _ _ d ⟨⟩
      exact hrefused d rfl
    · exact .inr ⟨started, request, d, rfl, hafter, houtcome⟩

/-- Where both collaborators succeed, what comes of a request is a matter of when they do. -/
theorem outcome_of_relay {outcome : Except Breakdown (Except PipelineError PipelineOutcome)}
    {k k' : Timers} {d : Decision} {request : RequestId} {response : ProviderResponse}
    {redacted : RedactedResponse}
    (hroute : (c.route r).result = some (.ok response))
    (hredact : (c.redact r response).result = some (.ok redacted))
    (hafter : k' = k.after (c.relay pipeline.deadline r))
    (houtcome : outcome = replyOf ((c.relay pipeline.deadline r).result.map fun result =>
      result.map fun answer =>
        .served ⟨request, answer.2.content, answer.1.metadata, answer.2.redacted, d⟩)) :
    let time := pipeline.deadline.nanos
    let routing := (c.route r).delay.nanos
    let redaction := (c.redact r response).delay.nanos
    k'.routed = k.routed + 1 ∧
    ((∃ served, outcome = .ok (.ok (.served served))) ↔ routing + redaction ≤ time) ∧
    (outcome = .ok (.error (.timeout Pipeline.routingStage pipeline.deadline)) ∧
      k'.redacted = k.redacted ↔ time < routing) ∧
    (outcome = .ok (.error (.timeout Pipeline.redactionStage pipeline.deadline)) ↔
      routing ≤ time ∧ time < routing + redaction) := by
  rw [c.relay_of_ok pipeline.deadline r hroute hredact] at hafter houtcome
  by_cases hlate : pipeline.deadline.nanos < (c.route r).delay.nanos
  · rw [if_pos hlate] at hafter houtcome
    subst hafter
    obtain rfl : outcome = .ok (.error (.timeout Pipeline.routingStage pipeline.deadline)) := houtcome
    exact ⟨rfl, iff_of_false nofun (by omega), iff_of_true ⟨rfl, rfl⟩ hlate,
      iff_of_false routing_ne_redaction (by omega)⟩
  rw [if_neg hlate] at hafter houtcome
  by_cases htogether : pipeline.deadline.nanos <
      (c.route r).delay.nanos + (c.redact r response).delay.nanos
  · rw [if_pos htogether] at hafter houtcome
    subst hafter
    obtain rfl : outcome = .ok (.error (.timeout Pipeline.redactionStage pipeline.deadline)) := houtcome
    exact ⟨rfl, iff_of_false nofun (by omega),
      iff_of_false (fun h => routing_ne_redaction h.1.symm) hlate,
      iff_of_true rfl ⟨Nat.not_lt.1 hlate, htogether⟩⟩
  · rw [if_neg htogether] at hafter houtcome
    subst hafter
    obtain rfl : outcome = .ok (.ok (.served _)) := houtcome
    exact ⟨rfl, iff_of_true ⟨_, rfl⟩ (Nat.not_lt.1 htogether), iff_of_false nofun hlate,
      iff_of_false nofun fun h => htogether h.2⟩

/-- An engine that asks only what the service asks takes no time. -/
theorem timers_of_evaluate
    {asks : Request → Program serviceInterface (Except EvaluationError Decision)}
    (hengine : pipeline.engine = .ofService asks) :
    Acting.Ensures (evaluate b c pipeline r).run g fun _ g₁ => g₁.timers = g.timers := by
  refine (spans_run b c g (pipeline.decide r)).mono ?_
  rintro outcome g₁ ⟨trace, reply, hrun, -, hspans⟩
  have hnone : footprint trace = .none := by
    unfold Pipeline.decide at hrun
    obtain ⟨started, trace₁, rfl, hrun₁⟩ := Program.Runs.of_call id hrun
    obtain ⟨request, trace₂, rfl, hrun₂⟩ := Program.Runs.of_call id hrun₁
    have hengineRun : GatewayRuns
        (pipeline.engine r >>= fun verdict => .done (started, request, verdict)) trace₂ reply := hrun₂
    rw [hengine] at hengineRun
    rw [footprint_cons, footprint_cons]
    refine (Footprint.none_append _).trans ((Footprint.none_append _).trans ?_)
    rcases hengineRun.of_bind with ⟨first, second, verdict, rfl, hfirst, hsecond⟩ | ⟨hfirst, -⟩
    · obtain ⟨rfl, -⟩ := hsecond.of_done
      rw [List.append_nil]
      exact (runs_translate_service hfirst).1
    · exact (runs_translate_service hfirst).1
  exact hspans.eq_of_footprint (by rw [hnone]; rfl) (by rw [hnone]; rfl)

/-- From the verdict on, routing and redaction take no longer than the deadline allows, and each of the
collaborators is asked once at most. Where both succeed the request is served exactly if they do so in
time together, and what timed out is the one that was waited for at the deadline. But all of this only if
the timers reach as far as the deadline: if they do not, the request breaks down and nobody is asked. An
engine that asks only what the service asks takes no time. -/
theorem deadline_shared (g : Gateway σ) (a : Ambient) :
    let evaluated := ((evaluate b c pipeline r).run.run g a).1
    let governed := ((govern b c pipeline r).run.run g a).1
    let time := pipeline.deadline.nanos
    (governed.2.elapsed.nanos ≤ evaluated.2.elapsed.nanos + time ∧
      governed.2.routed ≤ evaluated.2.routed + 1 ∧ governed.2.redacted ≤ evaluated.2.redacted + 1) ∧
    (∀ asks, pipeline.engine = .ofService asks → evaluated.2.timers = g.timers) ∧
    ∀ started request d, evaluated.1 = .ok (started, request, .ok d) → d.allowed = true →
      (evaluated.2.deadline? pipeline.deadline = none →
        governed.1 = .error ⟨⟩ ∧ governed.2.timers = evaluated.2.timers) ∧
      ∀ deadline response redacted, evaluated.2.deadline? pipeline.deadline = some deadline →
        (c.route r).result = some (.ok response) →
        (c.redact r response).result = some (.ok redacted) →
        let routing := (c.route r).delay.nanos
        let redaction := (c.redact r response).delay.nanos
        governed.2.routed = evaluated.2.routed + 1 ∧
        ((∃ served, governed.1 = .ok (.ok (.served served))) ↔ routing + redaction ≤ time) ∧
        (governed.1 = .ok (.error (.timeout Pipeline.routingStage pipeline.deadline)) ∧
          governed.2.redacted = evaluated.2.redacted ↔ time < routing) ∧
        (governed.1 = .ok (.error (.timeout Pipeline.redactionStage pipeline.deadline)) ↔
          routing ≤ time ∧ time < routing + redaction) := by
  rcases hevaluate : (evaluate b c pipeline r).run.run g a with ⟨⟨evaluated, g₁⟩, a₁⟩
  rcases hgovern : (govern b c pipeline r).run.run g a with ⟨⟨outcome, g'⟩, a'⟩
  obtain ⟨hspent, hrouted, hredacted⟩ := c.relayFrom_le pipeline.deadline r g₁.timers
  have hgoverned := relay_of_govern b c pipeline r hevaluate hgovern
  refine ⟨?_, fun asks hengine => ?_, ?_⟩
  · rcases hgoverned with ⟨hstill, -⟩ | ⟨started, request, d, -, hafter, -⟩
    · injection hstill with _ helapsed hroutings hredactions
      rw [helapsed, hroutings, hredactions]
      exact ⟨Nat.le_add_right .., Nat.le_succ _, Nat.le_succ _⟩
    · injection hafter with _ helapsed hroutings hredactions
      rw [helapsed, hroutings, hredactions]
      exact ⟨Nat.add_le_add_left hspent _, Nat.add_le_add_left hrouted _,
        Nat.add_le_add_left hredacted _⟩
  · have hstill := timers_of_evaluate b c pipeline r (g := g) hengine a
    rwa [hevaluate] at hstill
  · intro started request d hverdict hallowed
    rcases hgoverned with ⟨-, hrefused⟩ | ⟨started', request', d', -, hafter, houtcome⟩
    · exact absurd hallowed (by simp [hrefused started request d hverdict])
    unfold Collaborators.relayFrom at hafter houtcome
    refine ⟨fun huntold => ?_, fun deadline response redacted htold hroute hredact => ?_⟩
    · have huntold : g₁.timers.deadline? pipeline.deadline = none := huntold
      rw [huntold] at hafter houtcome
      exact ⟨houtcome, hafter⟩
    · have htold : g₁.timers.deadline? pipeline.deadline = some deadline := htold
      rw [htold] at hafter houtcome
      exact outcome_of_relay c pipeline r hroute hredact hafter houtcome

/-- A router that takes thirty milliseconds, and a redactor that takes twenty. -/
def unhurried : Collaborators where
  route _ := ⟨.ofMillis 30, some (.ok ⟨"hi", .unknown⟩)⟩
  redact _ response := ⟨.ofMillis 20, some (.ok ⟨response.content, []⟩)⟩

def bare : Gateway Unit :=
  .make .empty (.ofConfig .standard ()) .standard 1 ⟨0, 0⟩

/-- A pipeline that lets every request pass, and has fifty milliseconds for it. -/
def passing : Pipeline := ⟨.ofService fun _ => .done (.ok .allow), .ofMillis 50⟩

/-- A request is served whose response is ready at the deadline itself. -/
theorem served_at_deadline :
    (∃ started request, ((evaluate (none : Option (AuditBackend Unit Unit)) unhurried passing
      (.plain ⟨"acme"⟩ "hello")).run.run bare .initial).1.1 = .ok (started, request, .ok .allow)) ∧
    ∃ served, ((govern (none : Option (AuditBackend Unit Unit)) unhurried passing
      (.plain ⟨"acme"⟩ "hello")).run.run bare .initial).1.1 = .ok (.ok (.served served)) := by
  have hallowed : ((evaluate (none : Option (AuditBackend Unit Unit)) unhurried passing
      (.plain ⟨"acme"⟩ "hello")).run.run bare .initial).1.1 = .ok (⟨0⟩, ⟨_⟩, .ok .allow) := rfl
  refine ⟨⟨_, _, hallowed⟩, ?_⟩
  obtain ⟨-, -, hpassed⟩ := deadline_shared (none : Option (AuditBackend Unit Unit)) unhurried passing
    (.plain ⟨"acme"⟩ "hello") bare .initial
  obtain ⟨-, hserved⟩ := hpassed _ _ .allow hallowed rfl
  exact (hserved (.ofMillis 50) ⟨"hi", .unknown⟩ ⟨"hi", []⟩ rfl rfl rfl).2.1.2 (by decide)

/-- A pipeline that lets every request pass, and has the most seconds for it that a deadline can have. -/
def patient : Pipeline := { passing with deadline := .ofSeconds (UInt64.size - 1) }

/-- A request that may pass breaks down, although its response would be ready long before the deadline. -/
theorem distant_deadline_not_met :
    let r := Request.plain ⟨"acme"⟩ "hello"
    let response : ProviderResponse := ⟨"hi", .unknown⟩
    let backend : Option (AuditBackend Unit Unit) := none
    let evaluated := ((evaluate backend unhurried patient r).run.run bare .initial).1
    let governed := ((govern backend unhurried patient r).run.run bare .initial).1
    (∃ started request, evaluated.1 = .ok (started, request, .ok .allow)) ∧
    (unhurried.route r).result = some (.ok response) ∧
    (unhurried.redact r response).result = some (.ok ⟨"hi", []⟩) ∧
    (unhurried.route r).delay.nanos + (unhurried.redact r response).delay.nanos ≤
      patient.deadline.nanos ∧
    governed.1 = .error ⟨⟩ ∧ governed.2.routed = 0 :=
  ⟨⟨_, _, rfl⟩, rfl, rfl, by decide, rfl, rfl⟩

end Gateway

end Governance
