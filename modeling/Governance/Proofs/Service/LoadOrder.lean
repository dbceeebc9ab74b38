import Governance.Proofs.Service.Naming
import Governance.Proofs.Service.Trial

/-!
# The order in which policies are loaded

The store answers with the enabled policies of a tenant in no particular order, and the engine sorts
them. Whether a request may pass and the names of the policies that apply are the same for every order.
The reason, the obligations and the risk are the same as long as no two policies that match the request
share a priority and a name, which is so as long as names are unique. The service lets a tenant have two
policies of one name, and then the order in which they happen to be loaded decides.
-/

namespace Governance

/-- No two policies that match a request have the same priority and the same name. -/
def Untied (policies : List Policy) (r : Request) : Prop :=
  ∀ p ∈ policies, ∀ q ∈ policies, p.appliesTo r = true → q.appliesTo r = true →
    p.priority = q.priority → p.name = q.name → p = q

/-- Surroundings answer with the enabled policies of a tenant in some order. -/
structure MemoryStore.Loads (s : MemoryStore) (tenant : TenantId)
    (answers : (c : ServiceCall) → c.Answer) (policies : List Policy) : Prop where
  answered : answers (.store (.enabledPolicies tenant)) = .ok policies
  perm : policies.Perm ((s.contents.ownedBy tenant).filter (·.enabled))

section Orders

variable {l l' : List Policy} {r : Request}

theorem matching_of_perm (hperm : l.Perm l') :
    Matching l r ((assessmentOrder l').filter (·.appliesTo r)) :=
  (Matching.assessmentOrder_filter l' r).of_perm hperm.symm

/-- Whether the request may pass and which names apply is the same for every order. -/
theorem Decision.ofPolicies_perm (hperm : l.Perm l') :
    (ofPolicies l r).allowed = (ofPolicies l' r).allowed ∧
      (ofPolicies l r).applied = (ofPolicies l' r).applied := by
  constructor
  · rw [ofPolicies_allowed, ofPolicies_allowed, hperm.any_eq]
  · rw [(ofPolicies_tells l r).applied, (ofPolicies_tells l' r).applied]
    exact (Matching.assessmentOrder_filter l r).names_eq (matching_of_perm hperm)

/-- Without ties the order makes no difference to anything, the risk included. -/
theorem assess_perm (hperm : l.Perm l') (huntied : Untied l r) :
    assess (assessmentOrder l) r = assess (assessmentOrder l') r := by
  have hmatched : (assessmentOrder l).filter (·.appliesTo r) =
      (assessmentOrder l').filter (·.appliesTo r) := by
    refine (Matching.assessmentOrder_filter l r).eq_of_distinct ?_ (matching_of_perm hperm)
    intro p hp q hq hkey
    obtain ⟨hpriority, hname⟩ := Prod.mk.inj hkey
    rw [List.mem_filter, assessmentOrder, List.mem_mergeSort] at hp hq
    exact huntied p hp.1 q hq.1 hp.2 hq.2 hpriority hname
  rw [Assessment.assess_eq_adding, Assessment.assess_eq_adding, hmatched]

theorem StoreContents.NamesUnique.untied {s : MemoryStore} (hunique : s.contents.NamesUnique)
    {tenant : TenantId} {answers : (c : ServiceCall) → c.Answer}
    (hload : s.Loads tenant answers l) : Untied l r := by
  have howned {p : Policy} (hp : p ∈ l) :
      p ∈ s.contents.policies.values ∧ p.tenant = tenant :=
    StoreContents.mem_ownedBy.1 (List.mem_filter.1 (hload.perm.mem_iff.1 hp)).1
  intro p hp q hq _ _ _ hname
  obtain ⟨hp, hptenant⟩ := howned hp
  obtain ⟨hq, hqtenant⟩ := howned hq
  exact hunique p hp q hq (hptenant.trans hqtenant.symm) hname

theorem Decision.blockReason_of_sorted (hsorted : l.Pairwise (Policy.precedes · ·)) :
    (ofPolicies l r).blockReason =
      ((l.filter (·.appliesTo r)).flatMap Policy.reasons).head? := by
  rw [(ofPolicies_tells l r).blockReason, assessmentOrder, List.mergeSort_of_pairwise hsorted]

end Orders

namespace LivePolicies

/-- Two orders in which the policies that a tenant came to have may be loaded. -/
theorem decisions_independent_of_order (gate : Gate) (turns : List PolicyTurn) {r : Request}
    {answers answers' : (c : ServiceCall) → c.Answer} {l l' : List Policy}
    (hload : ((ofStore .empty).run gate turns).store.Loads r.tenant answers l)
    (hload' : ((ofStore .empty).run gate turns).store.Loads r.tenant answers' l') :
    (((ofStore .empty).run gate turns).store.contents.NamesUnique → Untied l r) ∧
    ∃ d d', ((Engine.decideByStore r).replay (I := serviceInterface) answers).2 = .ok d ∧
      ((Engine.decideByStore r).replay (I := serviceInterface) answers').2 = .ok d' ∧
      d.allowed = d'.allowed ∧ d.applied = d'.applied ∧
      (Untied l r →
        d = d' ∧ assess (assessmentOrder l) r = assess (assessmentOrder l') r) := by
  have hperm : l.Perm l' := hload.perm.trans hload'.perm.symm
  obtain ⟨hallowed, happlied⟩ := Decision.ofPolicies_perm (r := r) hperm
  refine ⟨fun hunique => hunique.untied hload, _, _, Engine.replay_decideByStore hload.answered,
    Engine.replay_decideByStore hload'.answered, hallowed, happlied, ?_⟩
  intro huntied
  have hassess := assess_perm hperm huntied
  refine ⟨?_, hassess⟩
  rw [Decision.ofPolicies, Decision.ofPolicies, hassess]

/-! ### Two policies -/

def reasonedDraft (id : PolicyId) (name reason : String) : PolicyDraft :=
  { secretsDraft id with name := name, actions := [⟨"block", [("reason", .string reason)]⟩] }

/-- The second creation comes in when the first has ended. -/
def creationTurns (first second : PolicyDraft) : List PolicyTurn :=
  [.arrive ⟨⟨"acme"⟩, "alice"⟩ (.create first),
    .proceed 0 .initial, .proceed 0 .initial, .proceed 0 .initial,
    .arrive ⟨⟨"acme"⟩, "alice"⟩ (.create second),
    .proceed 1 .initial, .proceed 1 .initial, .proceed 1 .initial]

/-- Two policies of different names. -/
def apartTurns : List PolicyTurn :=
  creationTurns (reasonedDraft ⟨"p1"⟩ "no secrets" "first") (reasonedDraft ⟨"p2"⟩ "none" "second")

/-- Two policies of one name. -/
def tiedTurns : List PolicyTurn :=
  creationTurns (reasonedDraft ⟨"p1"⟩ "no secrets" "first")
    (reasonedDraft ⟨"p2"⟩ "no secrets" "second")

/-- The enabled policies after some turns, in the order in which they were created. -/
def enabledAfter (turns : List PolicyTurn) : List Policy :=
  (((ofStore .empty).run ⟨false, 30⟩ turns).store.contents.ownedBy ⟨"acme"⟩).filter (·.enabled)

/-- Surroundings that answer with a list of policies. -/
def loading (policies : List Policy) (c : ServiceCall) : c.Answer :=
  answersOf (fun _ => .ok policies) (.service c)

theorem loads_enabledAfter {turns : List PolicyTurn} {l : List Policy}
    (hperm : l.Perm (enabledAfter turns)) :
    ((ofStore .empty).run ⟨false, 30⟩ turns).store.Loads ⟨"acme"⟩ (loading l) l :=
  ⟨rfl, hperm⟩

theorem apartTurns_decided_alike :
    ∃ d, ((Engine.decideByStore (.plain ⟨"acme"⟩ "my secret")).replay (I := serviceInterface)
        (loading (enabledAfter apartTurns))).2 = .ok d ∧
      ((Engine.decideByStore (.plain ⟨"acme"⟩ "my secret")).replay (I := serviceInterface)
        (loading (enabledAfter apartTurns).reverse)).2 = .ok d := by
  obtain ⟨_, d, d', hd, hd', _, _, hsame⟩ :=
    decisions_independent_of_order ⟨false, 30⟩ apartTurns (r := .plain ⟨"acme"⟩ "my secret")
      (loads_enabledAfter (.refl _)) (loads_enabledAfter (List.reverse_perm _))
  have hnames : ((enabledAfter apartTurns).map (·.name)).Nodup := by
    decide +kernel
  obtain ⟨rfl, _⟩ := hsame fun p hp q hq _ _ _ hname => List.inj_on_of_nodup_map hnames hp hq hname
  exact ⟨d, hd, hd'⟩

theorem reason_hangs_on_order :
    ¬ ∀ (gate : Gate) (turns : List PolicyTurn) (r : Request)
      (answers answers' : (c : ServiceCall) → c.Answer) (l l' : List Policy),
      ((ofStore .empty).run gate turns).store.Loads r.tenant answers l →
      ((ofStore .empty).run gate turns).store.Loads r.tenant answers' l' →
      ((Engine.decideByStore r).replay (I := serviceInterface) answers).2 =
        ((Engine.decideByStore r).replay (I := serviceInterface) answers').2 := by
  intro hindependent
  have hsame := hindependent ⟨false, 30⟩ tiedTurns (.plain ⟨"acme"⟩ "my secret") _ _ _ _
    (loads_enabledAfter (.refl _)) (loads_enabledAfter (List.reverse_perm _))
  rw [Engine.replay_decideByStore rfl, Engine.replay_decideByStore rfl] at hsame
  have hreason := congrArg Decision.blockReason (Except.ok.inj hsame)
  -- Neither policy has to stand before the other, so both lists are sorted as they are.
  rw [Decision.blockReason_of_sorted (by decide +kernel),
    Decision.blockReason_of_sorted (by decide +kernel)] at hreason
  exact absurd hreason (by decide +kernel)

end LivePolicies

end Governance
