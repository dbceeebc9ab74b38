import Governance.Proofs.Decision.Meaning
import Governance.Proofs.Pipeline.Footprint
import Governance.Proofs.Service.Isolation

/-!
# Decisions and trials

The engine loads the enabled policies of a tenant and tells what those that match have to say. A trial
puts a request before one policy, by the same conditions and the same actions but by other code. The
two agree: a policy that is tried matches exactly when it has its part in the decision on the request,
and a request that it blocks is refused.
-/

namespace Governance

/-- Whatever else its surroundings answer, the engine decides by the policies that are loaded. -/
theorem Engine.replay_decideByStore {answers : (c : ServiceCall) → c.Answer} {r : Request}
    {policies : List Policy}
    (hload : answers (.store (.enabledPolicies r.tenant)) = .ok policies) :
    ((decideByStore r).replay (I := serviceInterface) answers).2 =
      .ok (Decision.ofPolicies policies r) := by
  have hcall : ((decideByStore r).replay (I := serviceInterface) answers).2 =
      ((match answers (.store (.enabledPolicies r.tenant)) with
        | .error e => .done (.error (.storage e))
        | .ok policies => decideAmong policies r :
          Program serviceInterface (Except EvaluationError Decision)).replay answers).2 := by
    rw [decideByStore]
    rfl
  rw [hcall, hload]
  exact Program.replay_bind answers (report (decisionEvents policies r)) _

/-- The enabled policies of a tenant that match a request, as the engine goes through them. -/
def MemoryStore.matching (s : MemoryStore) (r : Request) : List Policy :=
  (assessmentOrder ((s.contents.ownedBy r.tenant).filter (·.enabled))).filter (·.appliesTo r)

theorem MemoryStore.matching_of_matching (s : MemoryStore) (r : Request) :
    Matching ((s.contents.ownedBy r.tenant).filter (·.enabled)) r (s.matching r) :=
  Matching.assessmentOrder_filter _ r

theorem MemoryStore.mem_matching {s : MemoryStore} {r : Request} {p : Policy} :
    p ∈ s.matching r ↔
      (p ∈ s.contents.ownedBy r.tenant ∧ p.enabled = true) ∧ p.appliesTo r = true := by
  rw [matching, List.mem_filter, assessmentOrder, List.mem_mergeSort, List.mem_filter]

section Trials

variable {s : MemoryStore} {tenant : TenantId} {p : Policy} {trial : TrialRequest}

theorem Service.run_tryOut (hs : s.Reachable) (hp : p ∈ s.contents.ownedBy tenant)
    (hquery : Text.isBlank trial.query = false) (a : Ambient) :
    ((run (tryOut tenant p.id trial)).run s a).1 =
      (.ok (p.tryOn (trial.toRequest tenant)), s) := by
  obtain ⟨hanswer, hsame⟩ := ensures_tryOut (s := s) p.id trial a
  have howned : s.contents.owned tenant p.id = some p := hs.indexed.mem_ownedBy.1 hp
  have htried : trialAnswer tenant p.id trial (some p) =
      .ok (p.tryOn (trial.toRequest tenant)) := by
    simp [trialAnswer, hquery]
  rw [howned, htried] at hanswer
  exact Prod.ext hanswer hsame

/-- A trial of an enabled policy that is stored. -/
theorem Service.tryOut_agrees (hs : s.Reachable) (hp : p ∈ s.contents.ownedBy tenant)
    (henabled : p.enabled = true) (hquery : Text.isBlank trial.query = false) (a a' : Ambient) :
    ∃ result d, ((run (tryOut tenant p.id trial)).run s a).1 = (.ok result, s) ∧
      ((Program.run answer (Engine.decideByStore (trial.toRequest tenant))).run s a').1 =
        (.ok d, s) ∧
      d.Tells (s.matching (trial.toRequest tenant)) ∧
      (result.matched = true ↔ p ∈ s.matching (trial.toRequest tenant)) ∧
      (result.blocked = true → d.allowed = false) := by
  have htells := Decision.ofPolicies_tells ((s.contents.ownedBy tenant).filter (·.enabled))
    (trial.toRequest tenant)
  have hmem : p ∈ s.matching (trial.toRequest tenant) ↔
      p.appliesTo (trial.toRequest tenant) = true :=
    MemoryStore.mem_matching.trans (and_iff_right ⟨hp, henabled⟩)
  refine ⟨_, _, run_tryOut hs hp hquery a, Engine.run_decideByStore _ s a', htells, hmem.symm, ?_⟩
  intro hblocked
  rw [Policy.tryOn, blocks_iff] at hblocked
  obtain ⟨action, haction, hblock⟩ := hblocked
  -- Without a match there are no actions that could block.
  unfold Policy.actionsFor at haction
  split at haction
  · exact htells.refused.2 ⟨p, hmem.2 ‹_›, action, haction, hblock⟩
  · cases haction

end Trials

/-- What the engine decides is what the policies that match say, in the order of their priorities and
names, and a trial agrees with it. -/
theorem decisions_tell_what_matches (answers : (c : ServiceCall) → c.Answer) (r : Request)
    {policies : List Policy}
    (hload : answers (.store (.enabledPolicies r.tenant)) = .ok policies)
    (hdistinct : (policies.map fun p => (p.priority, p.name)).Nodup) :
    (∃ d matched, ((Engine.decideByStore r).replay (I := serviceInterface) answers).2 = .ok d ∧
      Matching policies r matched ∧ (∀ other, Matching policies r other → other = matched) ∧
      d.Tells matched ∧
      ∀ done p left taken rest, assessmentOrder policies = done ++ p :: left → p ∈ matched →
        p.actions = taken ++ rest →
        (Assessment.midway r done p taken).decision.allowed = false →
        d.allowed = false ∧
          d.blockReason = (Assessment.midway r done p taken).decision.blockReason) ∧
    ∀ (s : MemoryStore) (tenant : TenantId) (p : Policy) (trial : TrialRequest) (a a' : Ambient),
      s.Reachable → p ∈ s.contents.ownedBy tenant → p.enabled = true →
      Text.isBlank trial.query = false →
      ∃ result d matched,
        ((Service.run (Service.tryOut tenant p.id trial)).run s a).1 = (.ok result, s) ∧
        ((Program.run Service.answer (Engine.decideByStore (trial.toRequest tenant))).run s a').1 =
          (.ok d, s) ∧
        Matching ((s.contents.ownedBy tenant).filter (·.enabled)) (trial.toRequest tenant) matched ∧
        d.Tells matched ∧ (result.matched = true ↔ p ∈ matched) ∧
        (result.blocked = true → d.allowed = false) := by
  have hmatching := Matching.assessmentOrder_filter policies r
  refine ⟨⟨_, _, Engine.replay_decideByStore hload, hmatching, ?_, Decision.ofPolicies_tells policies r,
    ?_⟩, ?_⟩
  · intro other hother
    refine hother.eq_of_distinct (fun p hp q hq hkey => ?_) hmatching
    exact List.inj_on_of_nodup_map hdistinct (hother.mem_iff.1 hp).1 (hother.mem_iff.1 hq).1 hkey
  · intro done p left taken rest horder hp hactions hrefused
    exact Decision.refusal_stays horder (List.mem_filter.1 hp).2 hactions hrefused
  · intro s tenant p trial a a' hs hp henabled hquery
    obtain ⟨result, d, hresult, hd, htells, hmatched, hblocked⟩ :=
      Service.tryOut_agrees hs hp henabled hquery a a'
    exact ⟨result, d, _, hresult, hd, s.matching_of_matching (trial.toRequest tenant), htells,
      hmatched, hblocked⟩

/-- A policy that asks for fields to be masked, of the same priority as the one that blocks. -/
def maskingRule : Policy :=
  { acmeRule with
    id := ⟨"p2"⟩
    name := "mask"
    conditions := []
    actions := [⟨"redact", [("fields", .array [.string "email", .string "phone"])]⟩] }

/-- The two policies are loaded in the wrong order. -/
theorem maskingRule_told_first :
    ∃ d : Decision, ((Engine.decideByStore (.plain ⟨"acme"⟩ "my secret")).replay
        (I := serviceInterface) fun c =>
          answersOf (fun _ => .ok [acmeRule, maskingRule]) (.service c)).2 = .ok d ∧
      d.applied = ["mask", "no secrets"] ∧ d.allowed = false ∧
      d.blockReason = some "no secrets" ∧
      d.obligations = ["redact: email,phone", "blocked: no secrets"] ∧
      ∃ result : TrialResult, ((Service.run (Service.tryOut ⟨"acme"⟩ ⟨"p1"⟩
          ⟨"my secret", none, none, none, []⟩)).run acmeStore .initial).1 = (.ok result, acmeStore) ∧
        result.matched = true := by
  obtain ⟨⟨d, matched, hd, _, honly, htells, _⟩, htrials⟩ :=
    decisions_tell_what_matches
      (fun c => answersOf (fun _ => .ok [acmeRule, maskingRule]) (.service c))
      (.plain ⟨"acme"⟩ "my secret") rfl (by decide)
  have hmatching : Matching [acmeRule, maskingRule] (.plain ⟨"acme"⟩ "my secret")
      [maskingRule, acmeRule] := by
    constructor
    · rw [List.filter_cons_of_pos (by decide +kernel), List.filter_cons_of_pos (by decide +kernel)]
      exact List.Perm.swap acmeRule maskingRule []
    · exact List.pairwise_pair.2 (.inr ⟨rfl, by decide⟩)
  obtain rfl := honly _ hmatching
  refine ⟨d, hd, htells.applied, ?_, htells.blockReason, htells.obligations, ?_⟩
  · exact htells.refused.2 ⟨acmeRule, by simp, ⟨"block", []⟩, by simp [acmeRule], rfl⟩
  · obtain ⟨result, d', matched, hresult, _, hmatched, _, hiff, _⟩ :=
      htrials acmeStore ⟨"acme"⟩ acmeRule ⟨"my secret", none, none, none, []⟩ .initial .initial
        (MemoryStore.Reachable.empty.seed acmeRule) (List.mem_singleton_self _) rfl (by decide)
    exact ⟨result, hresult, hiff.2 (hmatched.mem_iff.2
      ⟨List.mem_singleton_self acmeRule, by decide +kernel⟩)⟩

end Governance
