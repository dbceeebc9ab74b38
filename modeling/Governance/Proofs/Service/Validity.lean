import Governance.Proofs.Service.Turns

/-!
# Every stored policy is valid

The service checks drafts as a whole when policies are created or imported, and patches where they give
values. So everything that it asks of the store is valid, and from an empty store on every policy is.
What the checks let pass is exactly what could be passed over later: no call fails because the store
takes a kind for corrupt, no kind is ignored, and whoever puts a request before a stored policy finds
every operator, pattern, list and action meaning something.
-/

namespace Governance

/-- The operator of a condition is known, its pattern is looked for, and its list is gone through. -/
def Condition.Understood (c : Condition) : Prop :=
  ∃ op, Operator.ofWord? c.operator = some op ∧
    (op = .regex → ∃ source pattern, c.value = .string source ∧
      Pattern.ofText source = .ok pattern ∧
      ∀ text, op.holds text c.value = Pattern.occursIn pattern text) ∧
    (op.takesList → ∃ items, c.value = .array items ∧
      operandTexts? c.value = some (items.map operandText))

theorem Condition.Testable.understood {c : Condition} (hc : c.Testable) : c.Understood := by
  obtain ⟨op, hop, _⟩ := id hc
  exact ⟨op, hop, hc.holds_regex hop, hc.operandTexts hop⟩

namespace LivePolicies

/-- What the service relies on when it only asks for what is valid. -/
def Uncorrupted (c : StoreCall) (answer : c.Answer) : Prop :=
  ∀ reason, answer ≠ .error (.corrupt reason)

theorem upholds_validity (gate : Gate) (turns : List PolicyTurn) :
    ((ofStore .empty).run gate turns).Upholds Uncorrupted StoreCall.Valid
      (fun e => ∀ reason, e ≠ .storage (.corrupt reason))
      fun s => s.contents.Indexed ∧ s.contents.AllValid := by
  have hexpected : ServiceError.Expected Uncorrupted
      fun e => ∀ reason, e ≠ .storage (.corrupt reason) :=
    ⟨fun c e he reason h => he reason (congrArg _ (ServiceError.storage.inj h)),
      fun _ _ => nofun, fun _ _ => nofun, fun _ _ => nofun⟩
  have hempty : MemoryStore.empty.contents.Indexed ∧ MemoryStore.empty.contents.AllValid :=
    ⟨Keyed.indexed_empty, fun _ hp => absurd hp List.not_mem_nil⟩
  refine (upholds_ofStore hempty).run ?_ ?_ ?_ turns
  · exact fun c s hvalid hs => MemoryStore.ensures_answer_valid hs.1 hs.2 hvalid
  · exact fun s _ _ hs => hs
  · intro caller call
    have hmeets := Service.meets_perform hexpected (fun c answer _ => c.shows_nil answer)
      (fun _ hp => absurd hp List.not_mem_nil) gate caller call
    exact hmeets.of_may fun _ hc => hc.2

/-- Whatever calls have taken turns over a store that was empty, every stored policy passes the checks of
drafts and is well formed; no call has failed for a corrupt policy, and no call that is about to be made
ignores a kind; and nothing in a stored policy is passed over when requests are put before it. -/
theorem stored_policies_valid (gate : Gate) (turns : List PolicyTurn) :
    let g := (ofStore .empty).run gate turns
    (∀ p ∈ g.store.contents.policies.values, p.asDraft.faults = [] ∧ p.WellFormed) ∧
    (∀ t ∈ g.tasks, ∀ reason, t.rest ≠ .done (.error (.storage (.corrupt reason)))) ∧
    (∀ t ∈ g.tasks, ∀ (c : StoreCall) (next : c.Answer → Program serviceInterface _),
      t.rest = .call (.store c) next → c.HonorsKinds) ∧
    (∀ p ∈ g.store.contents.policies.values,
      (∀ c ∈ p.conditions, c.Understood) ∧ ∀ a ∈ p.actions, a.kind?.isSome) ∧
    ∀ (tenant : TenantId) (r : Request),
      ∀ e ∈ decisionEvents ((g.store.contents.ownedBy tenant).filter (·.enabled)) r,
        e.message ≠ "ignoring unknown action type" := by
  intro g
  obtain ⟨⟨_, hpolicies⟩, htasks⟩ : g.Upholds _ _ _ _ := upholds_validity gate turns
  have hwell (p : Policy) (hp : p ∈ g.store.contents.policies.values) : p.WellFormed :=
    (hpolicies p hp).wellFormed
  refine ⟨?_, ?_, ?_, ?_, ?_⟩
  · exact fun p hp => ⟨Policy.valid_iff_faults.1 (hpolicies p hp), hwell p hp⟩
  · intro t ht reason hdone
    have hmeets := htasks t ht
    rw [hdone] at hmeets
    exact hmeets reason rfl
  · intro t ht c next hcall
    have hmeets := htasks t ht
    rw [hcall] at hmeets
    exact StoreCall.Valid.honorsKinds hmeets.1
  · intro p hp
    exact ⟨fun c hc => ((hwell p hp).conditions.2 c hc).understood, (hwell p hp).actions.2⟩
  · intro tenant r e he
    refine decisionEvents_known (fun p hp => hwell p ?_) r he
    exact (StoreContents.mem_ownedBy.1 (List.mem_of_mem_filter hp)).1

/-! ### A policy that is created, patched and overwritten -/

def patternDraft : PolicyDraft :=
  { PolicyDraft.named "no secrets" .content with
    id := some ⟨"p1"⟩
    conditions := [⟨"query", "regex", .string "secret|password"⟩]
    actions := [⟨"block", []⟩] }

/-- The patch gives a list to an operator that takes one, and the import takes it back. -/
def revisingTurns : List PolicyTurn :=
  [.arrive ⟨⟨"acme"⟩, "alice"⟩ (.create patternDraft), .proceed 0 .initial, .proceed 0 .initial,
    .arrive ⟨⟨"acme"⟩, "alice"⟩ (.update ⟨"p1"⟩ ⟨none, none, some "risk",
      some [⟨"query", "contains_any", .array [.string "secret"]⟩], none, none, none, none, none⟩),
    .proceed 1 .initial, .proceed 1 .initial, .proceed 1 .initial,
    .arrive ⟨⟨"acme"⟩, "alice"⟩ (.importAll ⟨[patternDraft], some "overwrite"⟩),
    .proceed 2 .initial, .proceed 2 .initial]

theorem revisingTurns_valid :
    let g := (ofStore .empty).run ⟨true, 30⟩ revisingTurns
    g.store.contents.policies.values.map (·.version) = [3] ∧
    ∀ p ∈ g.store.contents.policies.values, p.asDraft.faults = [] ∧ p.WellFormed :=
  ⟨by decide +kernel, (stored_policies_valid ⟨true, 30⟩ revisingTurns).1⟩

end LivePolicies

end Governance
