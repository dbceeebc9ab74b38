import Governance.Decision.Engine
import Governance.Proofs.Service.Calls
import Governance.Proofs.Service.Looking
import Governance.Proofs.Store.Isolation

/-!
# Tenants of the service do not concern each other

A call to the service makes calls of the store for its own tenant only, so it leaves the policies and
the revisions of all others alone. Trials and decisions are reads as well: what they come to is
determined by what their tenant owns.
-/

namespace Governance

namespace Service

variable {tenant : TenantId} {s : MemoryStore}

/-- Whatever is done on behalf of one tenant, the policies and the revisions of another one stay. -/
theorem keepsFor_serve (hs : s.contents.Indexed) (gate : Gate) {caller : Caller}
    (hother : caller.tenant ≠ tenant) (call : PolicyCall) :
    (call.serve gate caller).Ensures s fun _ s' => s.contents.KeepsFor tenant s'.contents := by
  have hkept : (call.serve gate caller).Ensures s fun _ s' =>
      s'.contents.Indexed ∧ s.contents.KeepsFor tenant s'.contents := by
    refine PolicyCall.ensures_serve ?_ gate ⟨hs, rfl, fun _ => rfl⟩
    rintro c t ⟨htenant, _, _⟩ ⟨hindexed, hpolicies, hrevisions⟩
    refine (MemoryStore.ensures_answer hindexed c).mono ?_
    rintro _ _ ⟨_, hmakes⟩
    have hkeeps := hmakes.keepsFor hindexed (htenant ▸ hother)
    exact ⟨hmakes.indexed hindexed, hkeeps.policies.trans hpolicies,
      fun id => (hkeeps.revisions id).trans (hrevisions id)⟩
  exact hkept.mono fun _ _ h => h.2

/-- What a trial of a policy comes to, which may have been found or not. -/
def trialAnswer (tenant : TenantId) (id : PolicyId) (trial : TrialRequest) (found : Option Policy) :
    Except ServiceError TrialResult :=
  if Text.isBlank trial.query then .error (.invalid [⟨"query", "Query is required for testing"⟩])
  else match found with
    | some p => .ok (p.tryOn (trial.toRequest tenant))
    | none => .error (.notFound id)

theorem ensures_fetch (id : PolicyId) :
    (run (fetch tenant id)).Ensures s fun result s' =>
      result = ((s.contents.owned tenant id).elim (.error (.notFound id)) .ok) ∧ s' = s := by
  refine ensures_look_bind (fun _ => rfl) (ensures_orNotFound ?_ ?_)
  · intro p hfound
    rw [hfound]
    exact ⟨rfl, rfl⟩
  · intro hfound
    rw [hfound]
    exact ⟨rfl, rfl⟩

theorem ensures_tryOut (id : PolicyId) (trial : TrialRequest) :
    (run (tryOut tenant id trial)).Ensures s fun result s' =>
      result = trialAnswer tenant id trial (s.contents.owned tenant id) ∧ s' = s := by
  unfold tryOut trialAnswer
  split
  · exact fun _ => ⟨rfl, rfl⟩
  · refine ensures_bind ((ensures_fetch id).mono ?_)
    rintro result s' ⟨hresult, rfl⟩
    cases hfound : s'.contents.owned tenant id with
    | none =>
      rw [hfound] at hresult
      subst hresult
      exact ⟨rfl, rfl⟩
    | some p =>
      rw [hfound] at hresult
      subst hresult
      exact ensures_bind (ensures_reportAll (ensures_pure ⟨rfl, rfl⟩))

end Service

namespace Engine

theorem run_report (events : List Event) (s : MemoryStore) (a : Ambient) :
    ∃ a', (Program.run Service.answer (report events)).run s a = (((), s), a') := by
  induction events generalizing a with
  | nil => exact ⟨a, rfl⟩
  | cons e rest ih =>
    obtain ⟨a', hrest⟩ := ih ((Ambient.emit e.level e.message e.fields) a).2
    exact ⟨a', hrest⟩

theorem run_decideByStore (r : Request) (s : MemoryStore) (a : Ambient) :
    ((Program.run Service.answer (decideByStore r)).run s a).1 =
      (.ok (Decision.ofPolicies ((s.contents.ownedBy r.tenant).filter (·.enabled)) r), s) := by
  obtain ⟨a', hreport⟩ := run_report
    (decisionEvents ((s.contents.ownedBy r.tenant).filter (·.enabled)) r) s a
  have hdecide : (Program.run Service.answer
      (decideAmong ((s.contents.ownedBy r.tenant).filter (·.enabled)) r)).run s a =
      ((.ok (Decision.ofPolicies ((s.contents.ownedBy r.tenant).filter (·.enabled)) r), s), a') := by
    unfold decideAmong
    rw [show ∀ (p : Program serviceInterface Unit) (f : Unit → Program serviceInterface
      (Except EvaluationError Decision)), p.andThen f = p >>= f from fun _ _ => rfl,
      Program.run_bind]
    exact Acting.run_bind hreport
  exact congrArg Prod.fst hdecide

end Engine

open MemoryStore (Reachable)

/-- What is done on behalf of one tenant leaves the policies and the revisions of another one as they
are, and what is read on behalf of a tenant is determined by its own. -/
theorem tenants_isolated {s : MemoryStore} (hs : s.Reachable) {tenant other : TenantId}
    (hother : other ≠ tenant) :
    (∀ (c : StoreCall) (a : Ambient), c.tenant = other →
      let after := ((MemoryStore.answer c).run s a).1.2.contents
      after.ownedBy tenant = s.contents.ownedBy tenant ∧
        ∀ id, after.revisions tenant id = s.contents.revisions tenant id) ∧
    (∀ (gate : Gate) (actor : String) (call : PolicyCall) (a : Ambient),
      let after := ((call.serve gate ⟨other, actor⟩).run s a).1.2.contents
      after.ownedBy tenant = s.contents.ownedBy tenant ∧
        ∀ id, after.revisions tenant id = s.contents.revisions tenant id) ∧
    ∀ s' : MemoryStore, s'.Reachable → s.contents.AgreesFor tenant s'.contents →
      (∀ (c : StoreCall) (a a' : Ambient), c.isRead → c.tenant = tenant →
        c.SameAnswer ((MemoryStore.answer c).run s a).1.1 ((MemoryStore.answer c).run s' a').1.1 ∧
        (s.contents.ownedBy tenant = s'.contents.ownedBy tenant →
          ((MemoryStore.answer c).run s a).1.1 = ((MemoryStore.answer c).run s' a').1.1)) ∧
      (∀ (id : PolicyId) (trial : TrialRequest) (a a' : Ambient),
        ((Service.run (Service.tryOut tenant id trial)).run s a).1.1 =
          ((Service.run (Service.tryOut tenant id trial)).run s' a').1.1) ∧
      ∀ (r : Request) (a a' : Ambient), r.tenant = tenant →
        ((Program.run Service.answer (Engine.decideByStore r)).run s a).1.1 =
          ((Program.run Service.answer (Engine.decideByStore r)).run s' a').1.1 := by
  have hkept {after : StoreContents} (hkeeps : s.contents.KeepsFor tenant after) :
      after.ownedBy tenant = s.contents.ownedBy tenant ∧
        ∀ id, after.revisions tenant id = s.contents.revisions tenant id :=
    ⟨hkeeps.policies, fun id => congrArg (·.mergeSort StoreContents.isLater) (hkeeps.revisions id)⟩
  refine ⟨fun c a htenant => hkept ?_, fun gate actor call a => hkept ?_, ?_⟩
  · obtain ⟨_, hmakes⟩ := MemoryStore.ensures_answer hs.indexed c a
    exact hmakes.keepsFor hs.indexed (htenant ▸ hother)
  · exact Service.keepsFor_serve hs.indexed gate hother call a
  · intro s' hs' hagrees
    refine ⟨fun c a a' hread htenant => ⟨?_, fun hpolicies => ?_⟩, fun id trial a a' => ?_,
      fun r a a' htenant => ?_⟩
    · exact MemoryStore.sameAnswer_of_agreesFor hs.indexed hs'.indexed hagrees hread htenant a a'
    · exact MemoryStore.answer_eq_of_ownedBy_eq hs.indexed hs'.indexed hagrees hpolicies hread
        htenant a a'
    · rw [(Service.ensures_tryOut id trial a).1, (Service.ensures_tryOut id trial a').1,
        hagrees.owned_eq hs.indexed hs'.indexed id]
    · subst htenant
      rw [Engine.run_decideByStore, Engine.run_decideByStore,
        (hagrees.policies.filter (·.enabled)).ofPolicies_eq r]

/-! ### Two tenants in one store -/

def acmeRule : Policy where
  id := ⟨"p1"⟩
  tenant := ⟨"acme"⟩
  name := "no secrets"
  description := ""
  kind := .content
  tier := .tenant
  priority := 5
  enabled := true
  conditions := [⟨"query", "contains", .string "secret"⟩]
  actions := [⟨"block", []⟩]
  category := none
  tags := []
  version := 3
  createdAt := ⟨0, 0⟩
  updatedAt := ⟨0, 0⟩
  createdBy := "alice"
  updatedBy := "alice"

def acmeStore : MemoryStore := MemoryStore.empty.seed acmeRule

/-- Another tenant has a policy of the same name. -/
def sharedStore : MemoryStore :=
  acmeStore.seed { acmeRule with id := ⟨"p2"⟩, tenant := ⟨"globex"⟩, enabled := false }

/-- The other tenant deletes the policy under an identifier that is not its own. What the first one
reads is as if it were alone. -/
theorem globex_does_not_reach_acme :
    sharedStore.Reachable ∧ acmeStore.Reachable ∧ (⟨"globex"⟩ : TenantId) ≠ ⟨"acme"⟩ ∧
    sharedStore.contents.AgreesFor ⟨"acme"⟩ acmeStore.contents ∧
    (((MemoryStore.answer (.delete ⟨"globex"⟩ ⟨"p1"⟩ "mallory")).run sharedStore
      .initial).1.2.contents.ownedBy ⟨"acme"⟩ = [acmeRule]) ∧
    ((MemoryStore.answer (.findByName ⟨"acme"⟩ "no secrets")).run sharedStore .initial).1.1 =
      ((MemoryStore.answer (.findByName ⟨"acme"⟩ "no secrets")).run acmeStore .initial).1.1 := by
  have hacme : acmeStore.Reachable := Reachable.empty.seed acmeRule
  have hshared : sharedStore.Reachable := hacme.seed _
  have hother : (⟨"globex"⟩ : TenantId) ≠ ⟨"acme"⟩ := by decide
  have hagrees : sharedStore.contents.AgreesFor ⟨"acme"⟩ acmeStore.contents :=
    ⟨fun _ => rfl, fun _ => rfl⟩
  obtain ⟨hcalls, _, hreads⟩ := tenants_isolated hshared hother
  refine ⟨hshared, hacme, hother, hagrees, ?_, ?_⟩
  · exact (hcalls (.delete ⟨"globex"⟩ ⟨"p1"⟩ "mallory") .initial rfl).1
  · exact ((hreads acmeStore hacme hagrees).1 (.findByName ⟨"acme"⟩ "no secrets") .initial .initial
      rfl rfl).2 rfl

end Governance
