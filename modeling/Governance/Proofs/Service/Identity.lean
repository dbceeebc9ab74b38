import Governance.Proofs.Service.Turns
import Governance.Proofs.Sql.PolicyStore
import Governance.Proofs.Store.Edits
import Governance.Proofs.Store.Identity

/-!
# Which identifiers are stored

Nobody checks the identifier that a draft asks for. A stored identifier is usable, unless a draft that
passed its checks has asked for a blank one; the other policies of its tenant can then not be loaded from
a database any more, since the row of that one cannot be read back. As long as no draft does this,
everything that was written is read back.
-/

namespace Governance

/-- The drafts and patches of a call were read. -/
def PolicyCall.WasRead : PolicyCall → Prop
  | .create draft => ∃ j, PolicyDraft.ofJson j = .ok draft
  | .update _ patch => ∃ j, PolicyPatch.ofJson j = .ok patch
  | .importAll request => ∃ j, ImportRequest.ofJson j = .ok request
  | _ => True

theorem ImportRequest.exists_of_mem {j : Json} {r : ImportRequest}
    (hr : ImportRequest.ofJson j = .ok r) {d : PolicyDraft} (hd : d ∈ r.policies) :
    ∃ j', PolicyDraft.ofJson j' = .ok d := by
  obtain ⟨f, _, hr⟩ := Json.bind_eq_ok.1 hr
  obtain ⟨policies, hpolicies, hr⟩ := Json.bind_eq_ok.1 hr
  obtain ⟨mode, _, hr⟩ := Json.bind_eq_ok.1 hr
  cases hr
  exact Json.Fields.forall_of_orElse (P := fun d => ∃ j', PolicyDraft.ofJson j' = .ok d)
    (fun j d h => ⟨j, h⟩) hpolicies d hd

theorem PolicyCall.WasRead.drafts {call : PolicyCall} (hread : call.WasRead) :
    ∀ d ∈ call.drafts, ∃ j, PolicyDraft.ofJson j = .ok d := by
  cases call with
  | create draft => exact List.forall_mem_singleton.2 hread
  | importAll request =>
    obtain ⟨j, hj⟩ := hread
    exact fun d hd => ImportRequest.exists_of_mem hj hd
  | _ => exact fun d hd => absurd hd List.not_mem_nil

theorem PolicyCall.WasRead.patches {call : PolicyCall} (hread : call.WasRead) :
    ∀ p ∈ call.patches, p.IsCanonical := by
  cases call with
  | update id patch =>
    obtain ⟨j, hj⟩ := hread
    exact List.forall_mem_singleton.2 (PolicyPatch.isCanonical_of_ofJson hj)
  | _ => exact fun p hp => absurd hp List.not_mem_nil

/-- What the service asks of the store for a call that was read is made of what was read. -/
theorem StoreCall.Serves.isCanonical {caller : Caller} {call : PolicyCall} {systems : List Policy}
    {c : StoreCall} (hserves : c.Serves caller call systems) (hread : call.WasRead) :
    c.IsCanonical := by
  have hdrafts : ∀ d ∈ c.drafts, d.IsCanonical := by
    intro d hd
    obtain ⟨j, hj⟩ := hread.drafts d (hserves.drafts hd)
    exact PolicyDraft.isCanonical_of_ofJson hj
  have hpatches : ∀ p ∈ c.patches, p.IsCanonical :=
    fun p hp => hread.patches p (hserves.patches hp)
  cases c with
  | create tenant draft actor => exact hdrafts draft List.mem_cons_self
  | update tenant id patch actor => exact hpatches patch List.mem_cons_self
  | importAll tenant drafts mode actor => exact hdrafts
  | _ => trivial

namespace LivePolicies

open Sql.PolicyTable

/-- A call that came in has brought a draft that passed its checks and asks for an identifier. -/
def Chosen (turns : List PolicyTurn) (id : PolicyId) : Prop :=
  ∃ caller call, PolicyTurn.arrive caller call ∈ turns ∧
    ∃ d ∈ PolicyCall.drafts call, d.faults = [] ∧ d.id = some id

/-- All calls that come in were read, on behalf of tenants that were typed in. -/
def AllRead (turns : List PolicyTurn) : Prop :=
  ∀ caller call, PolicyTurn.arrive caller call ∈ turns →
    caller.tenant.isUsable ∧ PolicyCall.WasRead call

/-- What is true of a store that is changed only by what was read. -/
structure Grounded (turns : List PolicyTurn) (s : StoreContents) : Prop where
  indexed : s.Indexed
  named : s.AllNamed fun id => id.isUsable ∨ Chosen turns id
  canonical : s.AllCanonical
  tenants : ∀ p ∈ s.policies.values, p.tenant.isUsable

theorem grounded_run (gate : Gate) {turns : List PolicyTurn} (hread : AllRead turns) :
    Grounded turns ((ofStore .empty).run gate turns).store.contents := by
  have hexpected : ServiceError.Expected (fun _ _ => True) fun _ => True :=
    ⟨fun _ _ _ => trivial, fun _ => trivial, fun _ => trivial, fun _ => trivial⟩
  have hnone {Q : Policy → Prop} : ∀ p ∈ MemoryStore.empty.contents.policies.values, Q p :=
    fun p hp => absurd hp List.not_mem_nil
  have hempty : Grounded turns MemoryStore.empty.contents :=
    ⟨Keyed.indexed_empty, hnone, hnone, hnone⟩
  let may (c : StoreCall) : Prop := ∃ caller call, PolicyTurn.arrive caller call ∈ turns ∧
    Service.Asks caller call [] c
  suffices hupholds : ((ofStore .empty).run gate turns).Upholds (fun _ _ => True) may
      (fun _ => True) fun s => Grounded turns s.contents from hupholds.store
  refine Upholds.run_of_mem ?_ ?_ ?_ (upholds_ofStore hempty)
  · rintro c s ⟨caller, call, harrive, hserves, hvalid⟩ hs a
    obtain ⟨_, hmakes⟩ := MemoryStore.ensures_answer hs.indexed c a
    obtain ⟨htenant, hcall⟩ := hread caller call harrive
    refine ⟨trivial, hmakes.indexed hs.indexed, ?_, ?_, ?_⟩
    · refine MemoryStore.ensures_answer_named (fun n => .inl (Identifier.isUsable_render _))
        hs.indexed ?_ hs.named a
      intro d hd id hid
      exact .inr ⟨caller, call, harrive, d, hserves.drafts hd, hvalid.drafts d hd, hid⟩
    · exact hmakes.allCanonical hs.indexed (hserves.isCanonical hcall) hs.canonical
    · refine hmakes.forall_tenant (Q := fun t => t.isUsable) hs.indexed ?_ hs.tenants
      rw [hserves.tenant]
      exact htenant
  · exact fun _ _ _ hs => hs
  · intro caller call harrive
    have hmeets := Service.meets_perform hexpected (fun c answer _ => c.shows_nil answer)
      (fun _ hp => absurd hp List.not_mem_nil) gate caller call
    exact hmeets.of_may fun c hc => ⟨caller, call, harrive, hc⟩

/-- Whatever calls have taken turns over a store that was empty, a stored identifier is usable unless a
draft that passed its checks asked for it. What is stored, and likewise every row that a database is given
for drafts that were read, is read back as it was unless its identifier is blank; and policies are loaded
together as long as none of them has a blank identifier. -/
theorem stored_ids_usable_unless_chosen (gate : Gate) {turns : List PolicyTurn}
    (hread : AllRead turns) :
    let stored := ((ofStore .empty).run gate turns).store.contents.policies.values
    (∀ p ∈ stored, (p.id.isUsable ∨ Chosen turns p.id) ∧ ofRow (rowOf p) = .ok (readBack p)) ∧
    (∀ policies, policies ⊆ stored → Sql.PolicyStore.Loads policies) ∧
    ∀ c : StoreCall, c.tenant.isUsable → (∀ d ∈ c.drafts, ∃ j, PolicyDraft.ofJson j = .ok d) →
      ∀ fragile trace outcome, Program.Runs fragile (Sql.PolicyStore.answer c) trace outcome →
        ∀ x ∈ trace, ∀ row, Sql.Call.addedRow? x.call = some row →
          ∃ d ∈ c.drafts, ∃ p, ofRow row = .ok (readBack p) ∧ (p.id.isUsable ∨ d.id = some p.id) := by
  intro stored
  have hgrounded := grounded_run gate hread
  refine ⟨?_, ?_, ?_⟩
  · exact fun p hp => ⟨hgrounded.named p hp,
      ofRow_rowOf (hgrounded.canonical p hp) (hgrounded.tenants p hp)⟩
  · intro policies hstored
    exact Sql.PolicyStore.loads_of_canonical
      (fun p hp => hgrounded.canonical p (hstored hp))
      (fun p hp => hgrounded.tenants p (hstored hp))
  · intro c htenant hdrafts fragile trace outcome hrun x hx row hrow
    obtain ⟨d, hd, u, actor, now, p, hp, rfl⟩ :=
      (Sql.PolicyStore.adds_answer c).of_runs hrun x hx row hrow
    obtain ⟨j, hj⟩ := hdrafts d hd
    have hdescribes : d.Describes c.tenant actor p := ⟨_, now, hp⟩
    refine ⟨d, hd, p, ofRow_rowOf ?_ ?_, ?_⟩
    · exact hdescribes.isCanonical (PolicyDraft.isCanonical_of_ofJson hj)
    · rwa [hdescribes.tenant_eq]
    · rw [PolicyDraft.id_of_toPolicy hp]
      cases d.id with
      | none => exact .inl (Identifier.isUsable_render u)
      | some id => exact .inr rfl

/-! ### A draft that asks for a blank identifier -/

/-- A draft as it is sent, with the identifier that it asks for. -/
def askingFor (id : String) : Json := .object [
  ("id", .string id),
  ("name", .string "no secrets"),
  ("type", .string "content"),
  ("conditions", .array [.object [("field", .string "query"), ("operator", .string "contains"),
    ("value", .string "secret")]]),
  ("actions", .array [.object [("type", .string "block")]])]

/-- The draft that is read. -/
def draftFor (id : String) : PolicyDraft :=
  { PolicyDraft.named "no secrets" .content with
    id := some ⟨id⟩
    conditions := [⟨"query", "contains", .string "secret"⟩]
    actions := [⟨"block", []⟩] }

theorem ofJson_askingFor (id : String) : PolicyDraft.ofJson (askingFor id) = .ok (draftFor id) :=
  rfl

def creatingTurns (id : String) : List PolicyTurn :=
  [.arrive ⟨⟨"acme"⟩, "alice"⟩ (.create (draftFor id)), .proceed 0 .initial, .proceed 0 .initial]

theorem allRead_creatingTurns (id : String) : AllRead (creatingTurns id) := by
  intro caller call harrive
  simp only [creatingTurns, List.mem_cons, PolicyTurn.arrive.injEq, reduceCtorEq, List.not_mem_nil,
    or_false] at harrive
  obtain ⟨rfl, rfl⟩ := harrive
  exact ⟨by decide, askingFor id, ofJson_askingFor id⟩

theorem creatingTurns_read_back :
    let g := (ofStore .empty).run ⟨true, 30⟩ (creatingTurns "p1")
    let stored := g.store.contents.policies.values
    stored.map (·.id) = [⟨"p1"⟩] ∧ ∀ p ∈ stored, ofRow (rowOf p) = .ok (.ok p) := by
  intro g stored
  have hids : stored.map (·.id) = [⟨"p1"⟩] := by decide +kernel
  refine ⟨hids, fun p hp => ?_⟩
  have hid : p.id = ⟨"p1"⟩ := by
    have hmem := List.mem_map_of_mem hp (f := (·.id))
    rw [hids] at hmem
    exact List.mem_singleton.1 hmem
  have hread := (stored_ids_usable_unless_chosen ⟨true, 30⟩ (allRead_creatingTurns "p1")).1 p hp
  rw [hread.2, readBack, hid]
  rfl

/-- The draft passes its checks, a policy is stored, and its row is corrupt. -/
theorem creatingTurns_not_read_back :
    let g := (ofStore .empty).run ⟨true, 30⟩ (creatingTurns "  ")
    let stored := g.store.contents.policies.values
    AllRead (creatingTurns "  ") ∧ (draftFor "  ").faults = [] ∧
    ∃ p, stored = [p] ∧ p.id.isUsable = false ∧
      ofRow (rowOf p) = .ok (.error (.corrupt "policy id must not be empty")) ∧
      Sql.PolicyStore.Loads [p] ∧
      allReadBack [p] = .error (.corrupt "policy id must not be empty") := by
  intro g stored
  have hread := allRead_creatingTurns "  "
  have hgrounded := grounded_run ⟨true, 30⟩ hread
  have hids : stored.map (·.id) = [⟨"  "⟩] := by decide +kernel
  obtain ⟨p, rest, hstored, hid, hrest⟩ := List.map_eq_cons_iff.1 hids
  obtain rfl := List.map_eq_nil_iff.1 hrest
  have hp : p ∈ stored := hstored ▸ List.mem_cons_self
  have hcanonical := hgrounded.canonical p hp
  have htenant := hgrounded.tenants p hp
  have hblank : p.id.isUsable = false := by
    rw [hid]
    decide
  refine ⟨hread, by decide +kernel, p, hstored, hblank, ?_, ?_, ?_⟩
  · rw [ofRow_rowOf hcanonical htenant, readBack, hblank]
    rfl
  · exact Sql.PolicyStore.loads_of_canonical (List.forall_mem_singleton.2 hcanonical)
      (List.forall_mem_singleton.2 htenant)
  · rw [allReadBack, List.all_cons, hblank]
    rfl

end LivePolicies

end Governance
