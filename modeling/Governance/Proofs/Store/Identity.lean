import Governance.Proofs.Store.Edits

/-!
# Where identifiers come from

A policy keeps the identifier that it came in with, which is the one that its draft asks for or one that
was drawn. So what is true of both is true of the identifiers of all policies of a store, whatever calls
are made to it. What is drawn is the text of a universally unique identifier and never blank; what a draft
asks for is any text at all.
-/

namespace Governance

open Acting (Ensures)

/-- There are hyphens in the text of a universally unique identifier. -/
theorem Uuid.isBlank_render (u : Uuid) : Text.isBlank u.render = false := by
  have hhyphen : '-' ∈ u.render.toList := by
    rw [render, String.toList_ofList]
    simp [text]
  exact List.all_eq_false.2 ⟨'-', hhyphen, by decide⟩

/-- An identifier that was drawn can be typed in. -/
theorem Identifier.isUsable_render {kind : IdKind} (u : Uuid) :
    isUsable (⟨u.render⟩ : Identifier kind) = true := by
  rw [isUsable, Uuid.isBlank_render]
  rfl

/-- What is true of an identifier that a draft asks for, if it asks for one. -/
def PolicyDraft.AsksWithin (P : PolicyId → Prop) (d : PolicyDraft) : Prop :=
  ∀ id, d.id = some id → P id

theorem PolicyDraft.AsksWithin.getD {P : PolicyId → Prop} {d : PolicyDraft} (hd : d.AsksWithin P)
    {fresh : PolicyId} (hfresh : P fresh) : P (d.id.getD fresh) := by
  cases hid : d.id with
  | none => exact hfresh
  | some id => exact hd id hid

namespace StoreContents

variable {P : PolicyId → Prop} {s : StoreContents} {p : Policy}

def AllNamed (P : PolicyId → Prop) (s : StoreContents) : Prop := ∀ p ∈ s.policies.values, P p.id

theorem AllNamed.put {id : PolicyId} (hs : s.AllNamed P) (hp : P p.id) :
    StoreContents.AllNamed P { s with policies := s.policies.put id p } := by
  intro q hq
  rcases Keyed.mem_values_put hq with rfl | hold
  · exact hp
  · exact hs q hold

theorem AllNamed.of_policies_eq {s' : StoreContents} (hs : s.AllNamed P)
    (hpolicies : s'.policies = s.policies) : s'.AllNamed P := by
  rwa [AllNamed, hpolicies]

end StoreContents

/-- A call that brings no policies in leaves the identifiers as they are. -/
theorem StoreCall.Makes.allNamed {P : PolicyId → Prop} {c : StoreCall} {added : Nat}
    {s s' : MemoryStore} (hmakes : c.Makes added s s') (hs : s.contents.Indexed)
    (hadds : ∀ t p, ¬ c.Permits t (.add p)) (hnamed : s.contents.AllNamed P) :
    s'.contents.AllNamed P := by
  refine hmakes.keeps (fun t e ht hfits hpermits hall => ?_) hs hnamed
  refine StoreContents.forall_values_edit ht hall hfits ?_ ?_
  · rintro p rfl
    exact absurd hpermits (hadds t p)
  · rintro old new rfl hold
    rw [hfits.2.id]
    exact hold

theorem StoreCall.Makes.forall_tenant {Q : TenantId → Prop} {c : StoreCall} {added : Nat}
    {s s' : MemoryStore} (hmakes : c.Makes added s s') (hs : s.contents.Indexed) (hc : Q c.tenant)
    (hall : ∀ p ∈ s.contents.policies.values, Q p.tenant) :
    ∀ p ∈ s'.contents.policies.values, Q p.tenant := by
  refine hmakes.keeps (P := fun t => ∀ p ∈ t.policies.values, Q p.tenant)
    (fun t e ht hfits _ hall => ?_) hs hall
  refine StoreContents.forall_values_edit ht hall hfits ?_ ?_
  · rintro p rfl
    rw [hfits.2]
    exact hc
  · rintro old new rfl hold
    rw [hfits.2.tenant]
    exact hold

namespace MemoryStore

variable {P : PolicyId → Prop} {s : MemoryStore} {tenant : TenantId} {actor : String}
  {mode : ImportMode} {draft : PolicyDraft}

theorem ensures_record_policies (p : Policy) (kind : ChangeKind) (summary : String)
    (s : MemoryStore) : Ensures (record p kind summary actor) s fun _ s' =>
      s'.contents.policies = s.contents.policies := by
  refine .get_bind ?_
  split
  · exact fun _ => rfl
  · exact fun _ => rfl

theorem ensures_replace_named {p : Policy} (hs : s.contents.AllNamed P) :
    Ensures (replace p draft actor) s fun _ s' => s'.contents.AllNamed P := by
  refine .get_bind ?_
  split
  · exact .pure hs
  · rename_i existing hget
    have hexisting : P existing.id := hs existing (List.mem_map_of_mem (Keyed.mem_of_find hget))
    split
    · exact .pure hs
    · refine .lift_bind fun now => .bind fun _ => ?_
      refine .bind ((ensures_record_policies _ _ _ _).mono fun _ s' hpolicies => ?_)
      refine .pure (StoreContents.AllNamed.of_policies_eq ?_ hpolicies)
      exact hs.put hexisting

section Drawn

variable (hdrawn : ∀ n, P ⟨(Uuid.ofRandom n).render⟩)

include hdrawn

theorem ensures_insert_named (hasks : draft.AsksWithin P) (hs : s.contents.AllNamed P) :
    Ensures (insert tenant draft actor) s fun _ s' => s'.contents.AllNamed P := by
  refine .identifier_bind fun n => .lift_bind fun now => ?_
  split
  · exact .pure hs
  · rename_i p hp
    refine .get_bind ?_
    split
    · exact .pure hs
    · have hid : P p.id := by
        rw [PolicyDraft.id_of_toPolicy hp]
        exact hasks.getD (hdrawn n)
      exact fun _ => hs.put hid

theorem ensures_create_named (hasks : draft.AsksWithin P) (hs : s.contents.AllNamed P) :
    Ensures (create tenant draft actor) s fun _ s' => s'.contents.AllNamed P := by
  refine .bind ((ensures_insert_named hdrawn hasks hs).mono ?_)
  rintro (_ | p) s' hs'
  · exact .pure hs'
  · refine .bind ((ensures_record_policies p _ _ s').mono fun _ s'' hpolicies => ?_)
    exact .lift_bind fun _ => .pure (hs'.of_policies_eq hpolicies)

theorem ensures_importOne_named (hasks : draft.AsksWithin P) (hs : s.contents.AllNamed P) :
    Ensures (importOne tenant mode actor draft) s fun _ s' => s'.contents.AllNamed P := by
  refine .get_bind ?_
  cases hnamed : s.contents.named tenant draft.name with
  | some p =>
    cases mode with
    | skip => exact .pure hs
    | error => exact .pure hs
    | overwrite => exact ensures_replace_named hs
  | none =>
    refine .bind ((ensures_insert_named hdrawn hasks hs).mono ?_)
    rintro (_ | p) s' hs'
    · exact .pure hs'
    · refine .bind ((ensures_record_policies p _ _ s').mono fun _ s'' hpolicies => ?_)
      exact .pure (hs'.of_policies_eq hpolicies)

theorem ensures_importEach_named {drafts : List PolicyDraft}
    (hasks : ∀ d ∈ drafts, d.AsksWithin P) (hs : s.contents.AllNamed P) :
    Ensures (importEach tenant mode actor drafts) s fun _ s' => s'.contents.AllNamed P := by
  induction drafts generalizing s with
  | nil => exact .pure hs
  | cons draft rest ih =>
    obtain ⟨hdraft, hrest⟩ := List.forall_mem_cons.1 hasks
    refine .bind ((ensures_importOne_named hdrawn hdraft hs).mono fun _ s' hs' => ?_)
    exact .bind ((ih hrest hs').mono fun _ _ hs'' => .pure hs'')

/-- No call gives a policy an identifier that is neither drawn nor asked for. -/
theorem ensures_answer_named {c : StoreCall} (hindexed : s.contents.Indexed)
    (hasks : ∀ d ∈ c.drafts, d.AsksWithin P) (hs : s.contents.AllNamed P) :
    Ensures (answer c) s fun _ s' => s'.contents.AllNamed P := by
  cases c with
  | create tenant draft actor =>
    exact ensures_create_named hdrawn (hasks draft List.mem_cons_self) hs
  | importAll tenant drafts mode actor =>
    refine .get_bind (.bind ((ensures_importEach_named hdrawn hasks hs).mono ?_))
    intro _ s' hs'
    split
    · exact fun _ => hs
    · exact .pure hs'
  | update | delete =>
    intro a
    obtain ⟨_, hmakes⟩ := ensures_answer hindexed _ a
    exact hmakes.allNamed hindexed (fun _ _ => id) hs
  | _ => exact fun _ => hs

end Drawn

end MemoryStore

end Governance
