import Governance.Gateway.Basic
import Governance.Proofs.Pipeline.Footprint
import Governance.Proofs.Program.Acting
import Governance.Proofs.Program.Obeying

/-!
# Programs that a gateway answers

The runs of a program that a gateway answers, and the timers that move with its calls.
-/

namespace Governance

/-!
## What a gateway exchanges with a program

A program that a gateway answers has one of the runs that it has in any surroundings, and whatever is seen
of the gateway moves with every call of it.
-/

namespace Gateway

variable {σ τ α : Type}

/-- What a gateway answers, unless a collaborator broke down. -/
def replyOf (reply : Option α) : Except Breakdown α :=
  match reply with
  | some value => .ok value
  | none => .error ⟨⟩

theorem run_await (b : Option (AuditBackend σ τ)) (x : Reaction α) (deadline : Duration) :
    (await b deadline x).run = (do
    let g ← get
    if g.elapsed.nanos + x.delay.nanos ≤ deadline.nanos then
      passTo b ⟨g.elapsed.nanos + x.delay.nanos⟩
      return replyOf (x.result.map some)
    else
      passTo b deadline
      return .ok none : Acting (Gateway σ) (Except Breakdown (Option (Except CollaboratorError α)))) := by
  unfold await
  cases x.result with
  | none => rfl
  | some result => rfl

variable {κ : Type} {moves : κ → Exchange gatewayInterface → κ → Prop} {k k' : κ}

/-- How what is seen of a gateway moves during a run, call by call. -/
def Spans (moves : κ → Exchange gatewayInterface → κ → Prop) :
    κ → List (Exchange gatewayInterface) → κ → Prop
  | k, [], k' => k' = k
  | k, x :: rest, k' => ∃ k₁, moves k x k₁ ∧ Spans moves k₁ rest k'

theorem Spans.of_append {first second : List (Exchange gatewayInterface)}
    (hspans : Spans moves k (first ++ second) k') :
    ∃ k₁, Spans moves k first k₁ ∧ Spans moves k₁ second k' := by
  induction first generalizing k with
  | nil => exact ⟨k, rfl, hspans⟩
  | cons x rest ih =>
    obtain ⟨k₁, hmoves, hrest⟩ := hspans
    obtain ⟨k₂, hfirst, hsecond⟩ := ih hrest
    exact ⟨k₂, ⟨k₁, hmoves, hfirst⟩, hsecond⟩

/-- A program that a gateway answers has one of its runs, during which what is seen of the gateway moves
as it does with every call. -/
theorem ensures_run {b : Option (AuditBackend σ τ)} {c : Collaborators} (view : Gateway σ → κ)
    (moves : κ → Exchange gatewayInterface → κ → Prop)
    (hanswer : ∀ call g, Acting.Ensures (answer b c call).run g fun outcome g' =>
      ∃ reply : Option call.Answer, outcome = replyOf reply ∧ (reply = none → call.IsFragile false) ∧
        moves (view g) ⟨call, reply⟩ (view g'))
    (p : Program gatewayInterface α) (g : Gateway σ) :
    Acting.Ensures (Program.run (answer b c) p).run g fun outcome g' => ∃ trace reply,
      GatewayRuns p trace reply ∧ outcome = replyOf reply ∧ Spans moves (view g) trace (view g') := by
  induction p generalizing g with
  | done value => exact fun _ => ⟨[], some value, .done value, rfl, rfl⟩
  | call call next ih =>
    rw [Program.run, ExceptT.run_bind]
    refine .bind ((hanswer call g).mono ?_)
    rintro outcome g₁ ⟨reply, rfl, hfragile, hmoves⟩
    cases reply with
    | none => exact .pure ⟨_, none, .unanswered next (hfragile rfl), rfl, view g₁, hmoves, rfl⟩
    | some value =>
      refine (ih value g₁).mono ?_
      rintro outcome g' ⟨trace, reply, hrun, rfl, hspans⟩
      exact ⟨_, reply, .answered value hrun, rfl, view g₁, hmoves, hspans⟩

end Gateway

/-!
## The timers of a gateway

The timers of a gateway stand still unless a collaborator is waited for, and then they show when it was
ready, or the deadline. They can tell a deadline if there is an instant that is so far from where they
began.
-/

/-- When the timers began, what they show, and how often the collaborators were asked. -/
structure Timers where
  started : Instant
  elapsed : Duration
  routed : Nat
  redacted : Nat

/-- What comes of waiting for a collaborator from `now` until a deadline, and when that is. There is no
reply when the collaborator breaks down. -/
def Reaction.awaited {α : Type} (x : Reaction α) (now deadline : Duration) :
    Option (Option (Except CollaboratorError α)) × Duration :=
  if now.nanos + x.delay.nanos ≤ deadline.nanos then (x.result.map some, ⟨now.nanos + x.delay.nanos⟩)
  else (some none, ⟨max now.nanos deadline.nanos⟩)

namespace Timers

/-- What the timers will show after some more time, if they reach that far. -/
def deadline? (k : Timers) (allowed : Duration) : Option Duration :=
  let deadline : Duration := ⟨k.elapsed.nanos + allowed.nanos⟩
  (k.started.plus? deadline).map fun _ => deadline

theorem eq_of_deadline? {k : Timers} {allowed deadline : Duration}
    (htold : k.deadline? allowed = some deadline) :
    deadline = ⟨k.elapsed.nanos + allowed.nanos⟩ := by
  obtain ⟨_, -, rfl⟩ := Option.map_eq_some_iff.1 htold
  rfl

/-- How the timers move while a call is answered. -/
def Moves (c : Collaborators) (k : Timers) (x : Exchange gatewayInterface) (k' : Timers) : Prop :=
  match x with
  | ⟨.deadline allowed, reply⟩ => reply = k.deadline? allowed ∧ k' = k
  | ⟨.route r deadline, reply⟩ => reply = ((c.route r).awaited k.elapsed deadline).1 ∧
      k' = { k with elapsed := ((c.route r).awaited k.elapsed deadline).2, routed := k.routed + 1 }
  | ⟨.redact r response deadline, reply⟩ => reply = ((c.redact r response).awaited k.elapsed deadline).1 ∧
      k' = { k with
        elapsed := ((c.redact r response).awaited k.elapsed deadline).2, redacted := k.redacted + 1 }
  | ⟨.elapsed, reply⟩ => reply = some k.elapsed ∧ k' = k
  | _ => k' = k

end Timers

namespace Gateway

variable {σ τ α : Type}

def timers (g : Gateway σ) : Timers := ⟨g.started, g.elapsed, g.routed, g.redacted⟩

section Waiting

variable (b : Option (AuditBackend σ τ)) (c : Collaborators) (g : Gateway σ)

theorem ensures_passTo (time : Duration) : Acting.Ensures (passTo b time) g fun _ g' =>
    g'.timers = { g.timers with elapsed := ⟨max g.elapsed.nanos time.nanos⟩ } := by
  refine .get_bind ?_
  split
  · rename_i hlater
    intro a
    rw [Nat.max_eq_right (Nat.le_of_lt hlater)]
    rfl
  · rename_i hnow
    rw [Nat.max_eq_left (Nat.not_lt.1 hnow)]
    exact .pure rfl

theorem ensures_await (x : Reaction α) (deadline : Duration) :
    Acting.Ensures (await b deadline x).run g fun outcome g' =>
      outcome = replyOf (x.awaited g.elapsed deadline).1 ∧
        g'.timers = { g.timers with elapsed := (x.awaited g.elapsed deadline).2 } := by
  rw [run_await, Reaction.awaited]
  refine .get_bind ?_
  split
  · refine .bind ((ensures_passTo b g _).mono fun _ g' hpass => .pure ⟨rfl, ?_⟩)
    rw [hpass, Nat.max_eq_right (Nat.le_add_right ..)]
  · exact .bind ((ensures_passTo b g _).mono fun _ g' hpass => .pure ⟨rfl, hpass⟩)

theorem ensures_measure (m : Measurement) :
    Acting.Ensures (measure m) g fun _ g' => g'.timers = g.timers := by
  intro a
  cases m with
  | sample s => rfl
  | stage name elapsed => rfl
  | evaluation elapsed risk applied blocked => rfl
  | redaction fields => rfl

/-- A gateway answers every call, unless its timers do not reach as far as a deadline or a collaborator
breaks down while it is waited for. -/
theorem ensures_answer (call : GatewayCall) :
    Acting.Ensures (answer b c call).run g fun outcome g' => ∃ reply : Option call.Answer,
      outcome = replyOf reply ∧ (reply = none → call.IsFragile false) ∧
        Timers.Moves c g.timers ⟨call, reply⟩ g'.timers := by
  cases call with
  | deadline allowed =>
    refine .get_bind ?_
    cases htold : g.deadline? allowed with
    | none => exact .pure ⟨none, rfl, fun _ => rfl, htold.symm, rfl⟩
    | some deadline => exact .pure ⟨some deadline, rfl, nofun, htold.symm, rfl⟩
  | route r deadline =>
    have hwait := ensures_await b { g with routed := g.routed + 1 } (c.route r) deadline
    exact fun a => ⟨_, (hwait a).1, fun _ => trivial, rfl, (hwait a).2⟩
  | redact r response deadline =>
    have hwait := ensures_await b { g with redacted := g.redacted + 1 } (c.redact r response) deadline
    exact fun a => ⟨_, (hwait a).1, fun _ => trivial, rfl, (hwait a).2⟩
  | elapsed => exact fun _ => ⟨some g.elapsed, rfl, nofun, rfl, rfl⟩
  | service call => exact fun _ => ⟨some _, rfl, nofun, rfl⟩
  | requestId => exact fun _ => ⟨some _, rfl, nofun, rfl⟩
  | auditId => exact fun _ => ⟨some _, rfl, nofun, rfl⟩
  | offer e => exact fun _ => ⟨some _, rfl, nofun, rfl⟩
  | measure m => exact fun a => ⟨some _, rfl, nofun, ensures_measure g m a⟩

theorem spans_run (p : Program gatewayInterface α) :
    Acting.Ensures (Program.run (answer b c) p).run g fun outcome g' => ∃ trace reply,
      GatewayRuns p trace reply ∧ outcome = replyOf reply ∧
        Spans (Timers.Moves c) g.timers trace g'.timers :=
  ensures_run timers (Timers.Moves c) (fun call g => ensures_answer b c g call) p g

end Waiting

/-- The timers stand still while no collaborator is waited for. -/
theorem Spans.eq_of_footprint {c : Collaborators} {k k' : Timers}
    {trace : List (Exchange gatewayInterface)} (hspans : Spans (Timers.Moves c) k trace k')
    (hroutings : (footprint trace).routings = 0)
    (hredactions : (footprint trace).redactions = 0) : k' = k := by
  induction trace generalizing k with
  | nil => exact hspans
  | cons x rest ih =>
    obtain ⟨k₁, hmoves, hrest⟩ := hspans
    have hroute : x.call.footprint.routings + (footprint rest).routings = 0 := hroutings
    have hredact : x.call.footprint.redactions + (footprint rest).redactions = 0 := hredactions
    obtain rfl : k₁ = k := by
      obtain ⟨call, reply⟩ := x
      cases call with
      | route r deadline => exact absurd hroute (by simp [GatewayCall.footprint])
      | redact r response deadline => exact absurd hredact (by simp [GatewayCall.footprint])
      | elapsed => exact hmoves.2
      | deadline allowed => exact hmoves.2
      | _ => exact hmoves
    exact ih hrest (Nat.eq_zero_of_add_eq_zero_left hroute) (Nat.eq_zero_of_add_eq_zero_left hredact)

end Gateway

end Governance
