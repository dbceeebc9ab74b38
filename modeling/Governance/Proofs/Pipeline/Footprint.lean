import Governance.Pipeline.Basic
import Governance.Proofs.Program.Runs

/-!
# What a governed request leaves behind

The footprint of a run is what others notice of it: the entries that it offers to the audit queue,
the samples that it gives to the metrics, and how often it asks the router and the redactor. Reading
the clock, asking the store and reporting leave none. The footprint of a run in two parts is that of
its parts together, so each function of the pipeline is described by its footprint once.
-/

namespace Governance

/-- A collaborator may break down while it is asked, and timers that are not endless may be unable
to tell a deadline. Everything else is answered. -/
def GatewayCall.IsFragile (endless : Bool) : GatewayCall → Prop
  | .route .. | .redact .. => True
  | .deadline _ => endless = false
  | _ => False

/-- The runs of a program over surroundings of the pipeline whose timers are endless or not. -/
abbrev TimedRuns {α : Type} (endless : Bool) (p : Program gatewayInterface α)
    (trace : List (Exchange gatewayInterface)) (outcome : Option α) : Prop :=
  p.Runs (GatewayCall.IsFragile endless) trace outcome

/-- The runs of a program over any surroundings of the pipeline. -/
abbrev GatewayRuns {α : Type} (p : Program gatewayInterface α)
    (trace : List (Exchange gatewayInterface)) (outcome : Option α) : Prop :=
  TimedRuns false p trace outcome

/-- What others notice of a run. -/
@[ext] structure Footprint where
  offers : List AuditEntry
  samples : List Sample
  routings : Nat
  redactions : Nat

namespace Footprint

def none : Footprint := ⟨[], [], 0, 0⟩

instance : Append Footprint where
  append a b := ⟨a.offers ++ b.offers, a.samples ++ b.samples, a.routings + b.routings,
    a.redactions + b.redactions⟩

@[simp] theorem none_append (a : Footprint) : none ++ a = a := by
  ext1
  · exact List.nil_append a.offers
  · exact List.nil_append a.samples
  · exact Nat.zero_add a.routings
  · exact Nat.zero_add a.redactions

@[simp] theorem append_none (a : Footprint) : a ++ none = a := by
  ext1
  · exact List.append_nil a.offers
  · exact List.append_nil a.samples
  · exact Nat.add_zero a.routings
  · exact Nat.add_zero a.redactions

theorem append_assoc (a b c : Footprint) : a ++ b ++ c = a ++ (b ++ c) := by
  ext1
  · exact List.append_assoc a.offers b.offers c.offers
  · exact List.append_assoc a.samples b.samples c.samples
  · exact Nat.add_assoc a.routings b.routings c.routings
  · exact Nat.add_assoc a.redactions b.redactions c.redactions

theorem append_offers (a b : Footprint) : (a ++ b).offers = a.offers ++ b.offers := rfl

@[simp] theorem mk_append_mk (a a' : List AuditEntry) (b b' : List Sample) (c c' d d' : Nat) :
    (⟨a, b, c, d⟩ : Footprint) ++ ⟨a', b', c', d'⟩ = ⟨a ++ a', b ++ b', c + c', d + d'⟩ := rfl

end Footprint

/-- What others notice of a call. -/
def GatewayCall.footprint : GatewayCall → Footprint
  | .offer e => ⟨[e], [], 0, 0⟩
  | .measure (.sample s) => ⟨[], [s], 0, 0⟩
  | .route .. => ⟨[], [], 1, 0⟩
  | .redact .. => ⟨[], [], 0, 1⟩
  | _ => .none

/-- What others notice of a run, call by call. -/
def footprint : List (Exchange gatewayInterface) → Footprint
  | [] => .none
  | x :: rest => x.call.footprint ++ footprint rest

@[simp] theorem footprint_nil : footprint [] = .none := rfl

@[simp] theorem footprint_cons (x : Exchange gatewayInterface)
    (rest : List (Exchange gatewayInterface)) :
    footprint (x :: rest) = x.call.footprint ++ footprint rest := rfl

@[simp] theorem footprint_append (first second : List (Exchange gatewayInterface)) :
    footprint (first ++ second) = footprint first ++ footprint second := by
  induction first with
  | nil => simp
  | cons x rest ih =>
    rw [List.cons_append, footprint_cons, ih, footprint_cons, Footprint.append_assoc]

theorem GatewayCall.footprint_offers {c : GatewayCall} (hother : ∀ e, c ≠ .offer e) :
    c.footprint.offers = [] := by
  cases c with
  | offer e => exact absurd rfl (hother e)
  | measure m => cases m <;> rfl
  | _ => rfl

theorem footprint_concat_offers (trace : List (Exchange gatewayInterface))
    (x : Exchange gatewayInterface) :
    (footprint (trace ++ [x])).offers = (footprint trace).offers ++ x.call.footprint.offers := by
  rw [footprint_append, Footprint.append_offers, footprint_cons, footprint_nil,
    Footprint.append_none]

/-! ### Surroundings -/

/-- A store that can only be asked for enabled policies. -/
def storeAnswersOf (load : TenantId → Except StoreError (List Policy)) : (c : StoreCall) → c.Answer
  | .enabledPolicies tenant => load tenant
  | _ => .error (.database "store unavailable")

/-- Surroundings in which time stands still, the queue has room and no provider is ready. -/
def answersOf (load : TenantId → Except StoreError (List Policy)) : (c : GatewayCall) → c.Answer
  | .service (.store c) => storeAnswersOf load c
  | .service .now => ⟨0, 0⟩
  | .service (.report _) => ()
  | .deadline allowed => allowed
  | .route .. => none
  | .redact .. => none
  | .elapsed => ⟨0⟩
  | .requestId => ⟨"r1"⟩
  | .auditId => ⟨"a1"⟩
  | .offer _ => .enqueued
  | .measure _ => ()

/-! ### Engines -/

/-- An engine that only asks what the service asks. -/
def DecisionEngine.ofService
    (evaluate : Request → Program serviceInterface (Except EvaluationError Decision)) :
    DecisionEngine := fun r =>
  (evaluate r).translate fun c => Program.perform (I := gatewayInterface) (.service c)

theorem DecisionEngine.ofStore_eq_ofService : ofStore = ofService Engine.decideByStore := rfl

/-- Asking the service leaves no footprint, and an answer is always reached. -/
theorem runs_translate_service {α : Type} {endless : Bool} {p : Program serviceInterface α}
    {trace : List (Exchange gatewayInterface)} {outcome : Option α}
    (hrun : TimedRuns endless
      (p.translate fun c => Program.perform (I := gatewayInterface) (.service c)) trace outcome) :
    footprint trace = .none ∧ ∃ value, outcome = some value := by
  induction p generalizing trace with
  | done value =>
    obtain ⟨rfl, rfl⟩ := hrun.of_done
    exact ⟨rfl, value, rfl⟩
  | call c next ih =>
    have hcall : TimedRuns endless (.call (.service c) fun answer => (next answer).translate
        fun c => Program.perform (I := gatewayInterface) (.service c)) trace outcome := hrun
    obtain ⟨answer, rest, rfl, hrest⟩ := hcall.of_call id
    obtain ⟨hnone, hvalue⟩ := ih answer hrest
    refine ⟨?_, hvalue⟩
    rw [footprint_cons, hnone]
    rfl

/-! ### The steps of the pipeline -/

namespace GovernedProgram

variable {α β : Type} {endless : Bool} {trace : List (Exchange gatewayInterface)}
  {outcome : Option (Except PipelineError α)}

theorem runs_pure {value : α}
    (hrun : TimedRuns endless (pure value : GovernedProgram α).run trace outcome) :
    trace = [] ∧ outcome = some (.ok value) :=
  hrun.of_done

theorem runs_throw {e : PipelineError}
    (hrun : TimedRuns endless (throw e : GovernedProgram α).run trace outcome) :
    trace = [] ∧ outcome = some (.error e) :=
  hrun.of_done

/-- A call that is not fragile is answered, and its answer is gone on with. -/
theorem trace_ask_bind {c : GatewayCall} {f : c.Answer → GovernedProgram α}
    (hsure : ¬ c.IsFragile endless) (hrun : TimedRuns endless (ask c >>= f).run trace outcome) :
    ∃ answer rest, trace = ⟨c, some answer⟩ :: rest ∧
      TimedRuns endless (f answer).run rest outcome := by
  have hcall : TimedRuns endless (.call c fun answer => (f answer).run) trace outcome := hrun
  exact hcall.of_call hsure

theorem runs_ask_bind {c : GatewayCall} {f : c.Answer → GovernedProgram α}
    (hsure : ¬ c.IsFragile endless) (hrun : TimedRuns endless (ask c >>= f).run trace outcome) :
    ∃ answer rest, TimedRuns endless (f answer).run rest outcome ∧
      footprint trace = c.footprint ++ footprint rest := by
  obtain ⟨answer, rest, rfl, hrest⟩ := trace_ask_bind hsure hrun
  exact ⟨answer, rest, hrest, rfl⟩

/-- A call is answered and its answer is gone on with, or it is fragile and ends the run. -/
theorem runs_ask_bind_or_broken {c : GatewayCall} {f : c.Answer → GovernedProgram α}
    (hrun : TimedRuns endless (ask c >>= f).run trace outcome) :
    (∃ answer rest, TimedRuns endless (f answer).run rest outcome ∧
      footprint trace = c.footprint ++ footprint rest) ∨
    (c.IsFragile endless ∧ footprint trace = c.footprint ∧ outcome = none) := by
  have hcall : TimedRuns endless (.call c fun answer => (f answer).run) trace outcome := hrun
  cases hcall with
  | unanswered _ hfragile => exact .inr ⟨hfragile, Footprint.append_none _, rfl⟩
  | answered answer rest => exact .inl ⟨answer, _, rest, rfl⟩

theorem runs_report_bind {e : Event} {f : Unit → GovernedProgram α}
    (hrun : TimedRuns endless (report e >>= f).run trace outcome) :
    ∃ rest, TimedRuns endless (f ()).run rest outcome ∧ footprint trace = footprint rest := by
  obtain ⟨_, rest, hrest, hfoot⟩ := runs_ask_bind (c := .service (.report e)) id hrun
  exact ⟨rest, hrest, hfoot.trans (Footprint.none_append _)⟩

end GovernedProgram

end Governance
