import Governance.Proofs.Service.Looking
import Governance.Proofs.Service.Quota
import Governance.Proofs.Store.Outlook

/-!
# Changes do not tell what others own

Before the service changes anything it only looks, and what it finds is the same in stores that agree
for the tenant of the call. So the answer to a change is the same up to the identifiers that are drawn
and the times that are read. There is one exception: identifiers are shared by all tenants, and whoever
asks for one in a draft is told whether it is taken.
-/

namespace Governance

namespace PolicyCall

def changes : PolicyCall → Bool
  | .create _ | .update .. | .delete _ | .importAll _ => true
  | _ => false

/-- The identifiers that the drafts of a call ask for. -/
def asked : PolicyCall → List PolicyId
  | .create draft => draft.id.toList
  | .importAll r => r.policies.filterMap (·.id)
  | _ => []

/-- The same answer up to times and to the identifier of a policy whose draft did not ask for one. -/
inductive AlikeAnswers :
    (call : PolicyCall) → Except ServiceError call.Result → Except ServiceError call.Result → Prop
  | same {call : PolicyCall} (answer : Except ServiceError call.Result) :
      AlikeAnswers call answer answer
  | created {draft : PolicyDraft} {p : Policy} {id : PolicyId} (created updated : Instant)
      (hid : draft.id.isSome → id = p.id) : AlikeAnswers (.create draft) (.ok p)
        (.ok { p with id := id, createdAt := created, updatedAt := updated })
  | updated {id : PolicyId} {patch : PolicyPatch} {p : Policy} (updated : Instant) :
      AlikeAnswers (.update id patch) (.ok p) (.ok { p with updatedAt := updated })

end PolicyCall

/-- Policies that come of one draft are alike. -/
theorem PolicyDraft.toPolicy_alike {draft : PolicyDraft} {fresh fresh' : PolicyId}
    {tenant : TenantId} {actor : String} {now now' : Instant} {p p' : Policy}
    (hp : draft.toPolicy fresh tenant actor now = .ok p)
    (hp' : draft.toPolicy fresh' tenant actor now' = .ok p') :
    p' = { p with id := draft.id.getD fresh', createdAt := now', updatedAt := now' } := by
  obtain ⟨kind, hkind, rfl⟩ := eq_of_toPolicy hp
  obtain ⟨kind', hkind', rfl⟩ := eq_of_toPolicy hp'
  obtain rfl : kind = kind' := Option.some.inj (hkind.symm.trans hkind')
  rfl

namespace Service

open Acting (Yields)

variable {s s' : MemoryStore} {a a' : Ambient} {gate : Gate} {tenant : TenantId} {actor : String}

section Changes

variable (hagrees : s.contents.AgreesFor tenant s'.contents) (hs : s.contents.Indexed)
  (hs' : s'.contents.Indexed)

include hagrees hs hs'

theorem create_alike {draft : PolicyDraft}
    (hrefusal : s.contents.refusal draft = s'.contents.refusal draft)
    (hfree : s.contents.holds (drawnId a.draws) = false)
    (hfree' : s'.contents.holds (drawnId a'.draws) = false) :
    (PolicyCall.create draft).AlikeAnswers (answered (create gate tenant draft actor) s a)
      (answered (create gate tenant draft actor) s' a') := by
  refine (FindsSame.unlessFaulty _).bind_answered (fun e => .same _) fun _ b b' hb hb' => ?_
  refine (findsSame_authorizeCreate hagrees hs hs' _).bind_answered (fun e => .same _)
    fun _ c c' hc hc' => ?_
  have hrest (p : Policy) (t : MemoryStore) : Finds
      (ServiceProgram.report .info "policy created"
        (about tenant p.id ++ [("name", .string p.name)]) >>= fun _ => pure p) t (.ok p) :=
    finds_bind (finds_report _ _ _ t) (finds_pure p t)
  rw [answered_ask_bind hrest s c, answered_ask_bind hrest s' c']
  -- Nothing was drawn while looking, so the identifiers drawn now are the free ones.
  rw [← hb, ← hc] at hfree
  rw [← hb', ← hc'] at hfree'
  have hanswer : Yields (MemoryStore.answer (.create tenant draft actor)) s c _ :=
    MemoryStore.yields_create_drawn hfree
  have hanswer' : Yields (MemoryStore.answer (.create tenant draft actor)) s' c' _ :=
    MemoryStore.yields_create_drawn hfree'
  rw [Yields, hrefusal] at hanswer
  rw [Yields] at hanswer'
  cases hrefused : s'.contents.refusal draft with
  | some e =>
    rw [hrefused] at hanswer hanswer'
    rw [hanswer, hanswer']
    exact .same _
  | none =>
    rw [hrefused] at hanswer hanswer'
    obtain ⟨p, hanswer, hp⟩ := hanswer
    obtain ⟨p', hanswer', hp'⟩ := hanswer'
    rw [hanswer, hanswer', PolicyDraft.toPolicy_alike hp hp']
    refine .created _ _ fun hasked => ?_
    obtain ⟨id, hid⟩ := Option.isSome_iff_exists.1 hasked
    rw [PolicyDraft.id_of_toPolicy hp, hid, Option.getD_some, Option.getD_some]

theorem update_alike (id : PolicyId) (patch : PolicyPatch) :
    (PolicyCall.update id patch).AlikeAnswers (answered (update tenant id patch actor) s a)
      (answered (update tenant id patch actor) s' a') := by
  refine (FindsSame.unlessFaulty _).bind_answered (fun e => .same _) fun _ b b' _ _ => ?_
  refine (findsSame_authorizeModify hagrees hs hs' id).bind_answered (fun e => .same _)
    fun _ c c' _ _ => ?_
  have hrest (found : Option Policy) (t : MemoryStore) : Finds
      (orNotFound id found >>= fun p => ServiceProgram.report .debug "policy update applied"
        (about tenant id ++ [("version", .ofInt p.version.toInt)]) >>= fun _ => pure p) t
      (found.elim (.error (.notFound id)) .ok) := by
    cases found with
    | none => exact finds_bind_error (finds_throw _ t)
    | some p =>
      exact finds_bind (finds_pure p t) (finds_bind (finds_report _ _ _ t) (finds_pure p t))
  have hanswer (s : MemoryStore) (c : Ambient) :
      ((MemoryStore.answer (.update tenant id patch actor)).run s c).1.1 = _ :=
    MemoryStore.yields_update_clock
  rw [answered_ask_bind hrest s c, answered_ask_bind hrest s' c', hanswer, hanswer,
    hagrees.owned_eq hs hs' id]
  cases s'.contents.owned tenant id with
  | none => exact .same _
  | some p =>
    simp only [Option.map_some]
    split
    · exact .same _
    · exact .updated c'.clock

theorem delete_alike (id : PolicyId) :
    answered (delete tenant id actor) s a = answered (delete tenant id actor) s' a' := by
  refine (findsSame_authorizeModify hagrees hs hs' id).bind_answered (fun _ => rfl) ?_
  intro _ c c' _ _
  have hrest (found : Bool) (t : MemoryStore) : Finds
      (if found then ServiceProgram.report .info "policy deleted" (about tenant id)
        else throw (.notFound id)) t (if found then .ok () else .error (.notFound id)) := by
    cases found with
    | false => exact finds_throw _ t
    | true => exact finds_report _ _ _ t
  have hanswer (s : MemoryStore) (c : Ambient) :
      ((MemoryStore.answer (.delete tenant id actor)).run s c).1.1 = _ :=
    MemoryStore.yields_delete_isSome
  rw [answered_ask_bind hrest s c, answered_ask_bind hrest s' c', hanswer, hanswer,
    hagrees.owned_eq hs hs' id]

theorem importAll_alike {r : ImportRequest} {asked : List PolicyId} {limit limit' : Nat}
    (hasked : ∀ draft ∈ r.policies, ∀ id, draft.id = some id → id ∈ asked)
    (hcommits : s.rejectsCommits = s'.rejectsCommits)
    (hseen : s.contents.SeenAlike tenant asked s'.contents)
    (hnew : s.contents.DrawsNew asked a.draws limit)
    (hroom : a.draws + 2 * r.policies.length ≤ limit)
    (hnew' : s'.contents.DrawsNew asked a'.draws limit')
    (hroom' : a'.draws + 2 * r.policies.length ≤ limit') :
    answered (importAll gate tenant r actor) s a =
      answered (importAll gate tenant r actor) s' a' := by
  unfold importAll
  split
  · rfl
  · rename_i mode _
    refine (findsSame_authorizeImport hagrees hs hs' _).bind_answered (fun _ => rfl)
      fun _ c c' hc hc' => ?_
    have hrest (done : ImportReport) (t : MemoryStore) : Finds
        (ServiceProgram.report .info "Import completed" [("tenant", .string tenant.text),
          ("mode", .string mode.word), ("total", .ofNat r.policies.length),
          ("created", .ofNat done.created), ("updated", .ofNat done.updated),
          ("skipped", .ofNat done.skipped), ("errors", .ofNat done.errors.length)] >>=
          fun _ => pure done) t (.ok done) :=
      finds_bind (finds_report _ _ _ t) (finds_pure done t)
    rw [answered_ask_bind hrest s c, answered_ask_bind hrest s' c']
    have hanswer : ((MemoryStore.answer (.importAll tenant r.policies mode actor)).run s c).1.1 =
        ((MemoryStore.answer (.importAll tenant r.policies mode actor)).run s' c').1.1 :=
      MemoryStore.importAll_eq mode actor hasked hs hs' hcommits hseen (hc ▸ hnew) (hc ▸ hroom)
        (hc' ▸ hnew') (hc' ▸ hroom')
    rw [hanswer]

end Changes

end Service

open MemoryStore (Reachable)

/-- In stores that agree for a tenant, and on which of the identifiers that are asked for others hold,
every change on behalf of the tenant is answered alike. -/
theorem changes_answered_alike {s s' : MemoryStore} (hs : s.Reachable) (hs' : s'.Reachable)
    (gate : Gate) {caller : Caller} {call : PolicyCall} (hcall : call.changes)
    (hagrees : s.contents.AgreesFor caller.tenant s'.contents)
    (hcommits : s.rejectsCommits = s'.rejectsCommits)
    (hothers : ∀ id ∈ call.asked,
      s.contents.heldByOther caller.tenant id = s'.contents.heldByOther caller.tenant id)
    {a a' : Ambient} (hnew : s.contents.DrawsNew call.asked a.draws (a.draws + 2 * call.size))
    (hnew' : s'.contents.DrawsNew call.asked a'.draws (a'.draws + 2 * call.size)) :
    call.AlikeAnswers ((call.serve gate caller).run s a).1.1
      ((call.serve gate caller).run s' a').1.1 := by
  have hserve (s : MemoryStore) (a : Ambient) : ((call.serve gate caller).run s a).1.1 =
      Service.answered (call.perform gate caller) s a := rfl
  rw [hserve, hserve]
  have hseen := hagrees.seenAlike hs.indexed hs'.indexed hothers
  cases call with
  | list | fetch | tryOut | history | exportAll => cases hcall
  | create draft =>
    refine Service.create_alike hagrees hs.indexed hs'.indexed (hseen.refusal_eq ?_) ?_ ?_
    · exact fun id hid => Option.mem_toList.2 hid
    · exact hnew.free _ (Nat.lt_add_of_pos_right (Nat.succ_pos 1)) (Nat.le_refl _)
    · exact hnew'.free _ (Nat.lt_add_of_pos_right (Nat.succ_pos 1)) (Nat.le_refl _)
  | update id patch => exact Service.update_alike hagrees hs.indexed hs'.indexed id patch
  | delete id =>
    rw [PolicyCall.perform, Service.delete_alike hagrees hs.indexed hs'.indexed id]
    exact .same _
  | importAll r =>
    have hasked : ∀ draft ∈ r.policies, ∀ id, draft.id = some id →
        id ∈ (PolicyCall.importAll r).asked :=
      fun draft hdraft id hid => List.mem_filterMap.2 ⟨draft, hdraft, hid⟩
    rw [PolicyCall.perform, Service.importAll_alike hagrees hs.indexed hs'.indexed hasked hcommits
      hseen hnew (Nat.le_refl _) hnew' (Nat.le_refl _)]
    exact .same _

/-! ### Who asks for an identifier is told -/

/-- Surroundings in which seven numbers have been drawn. -/
def otherAmbient : Ambient := ⟨⟨1900000000, 0⟩, 7, []⟩

/-- What the other tenant has does not show in the answer. -/
theorem globex_concealed :
    sharedStore.Reachable ∧ acmeStore.Reachable ∧ (PolicyCall.create secondDraft).changes ∧
    sharedStore.contents.AgreesFor ⟨"acme"⟩ acmeStore.contents ∧
    sharedStore.contents.DrawsNew [] 0 2 ∧ acmeStore.contents.DrawsNew [] 7 9 ∧
    (PolicyCall.create secondDraft).AlikeAnswers
      (((PolicyCall.create secondDraft).serve ⟨false, 30⟩ alice).run sharedStore .initial).1.1
      (((PolicyCall.create secondDraft).serve ⟨false, 30⟩ alice).run acmeStore otherAmbient).1.1 := by
  have hacme : acmeStore.Reachable := MemoryStore.Reachable.empty.seed acmeRule
  have hshared : sharedStore.Reachable := hacme.seed _
  have hagrees : sharedStore.contents.AgreesFor ⟨"acme"⟩ acmeStore.contents :=
    ⟨fun _ => rfl, fun _ => rfl⟩
  have hnew : sharedStore.contents.DrawsNew [] 0 2 :=
    ⟨by decide +kernel, by decide +kernel, by decide +kernel⟩
  have hnew' : acmeStore.contents.DrawsNew [] 7 9 :=
    ⟨by decide +kernel, by decide +kernel, by decide +kernel⟩
  refine ⟨hshared, hacme, rfl, hagrees, hnew, hnew', ?_⟩
  exact changes_answered_alike hshared hacme ⟨false, 30⟩ rfl hagrees rfl
    (fun _ hid => absurd hid List.not_mem_nil) hnew hnew'

/-- The draft asks for an identifier that the other tenant holds in one of the stores. -/
def askingDraft : PolicyDraft := { secondDraft with id := some ⟨"p2"⟩ }

/-- What others hold does show where a draft asks for it. -/
theorem asking_reveals_globex :
    ¬ ∀ (s s' : MemoryStore) (gate : Gate) (caller : Caller) (call : PolicyCall) (a a' : Ambient),
      s.Reachable → s'.Reachable → call.changes →
      s.contents.AgreesFor caller.tenant s'.contents → s.rejectsCommits = s'.rejectsCommits →
      s.contents.DrawsNew call.asked a.draws (a.draws + 2 * call.size) →
      s'.contents.DrawsNew call.asked a'.draws (a'.draws + 2 * call.size) →
      call.AlikeAnswers ((call.serve gate caller).run s a).1.1
        ((call.serve gate caller).run s' a').1.1 := by
  intro hall
  have hacme : acmeStore.Reachable := MemoryStore.Reachable.empty.seed acmeRule
  have halike := hall sharedStore acmeStore ⟨false, 30⟩ alice (.create askingDraft) .initial
    .initial (hacme.seed _) hacme rfl ⟨fun _ => rfl, fun _ => rfl⟩ rfl
    ⟨by decide +kernel, by decide +kernel, by decide +kernel⟩
    ⟨by decide +kernel, by decide +kernel, by decide +kernel⟩
  have hrefused : (((PolicyCall.create askingDraft).serve ⟨false, 30⟩ alice).run sharedStore
      .initial).1.1 = .error (.storage (.database "policy id p2 already exists")) := by
    rfl
  obtain ⟨p, hcreated⟩ : ∃ p, (((PolicyCall.create askingDraft).serve ⟨false, 30⟩ alice).run
      acmeStore .initial).1.1 = .ok p := ⟨_, rfl⟩
  rw [hrefused, hcreated] at halike
  cases halike

end Governance
