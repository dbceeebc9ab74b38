import Governance.Proofs.Service.Concealment
import Governance.Proofs.Service.Limit
import Governance.Proofs.Store.Imports

/-!
# Repeating an import

An import that skips or reports taken names, when it was accepted and committed, is accepted again and
does nothing more. It has moved its tenant closer to the limit, but by no more than the names that are
no longer free, so what the check adds up has not grown. Its drafts are all settled, those that failed
included.
-/

namespace Governance

open StoreContents

/-- The tiers of which a policy may be created, as far as the licence goes. -/
def Gate.permits (gate : Gate) : PolicyTier → Bool
  | .system => false
  | .organization => gate.enterprise
  | .tenant => true

/-- There is room for drafts: a licence, no name that is free, or no more of them than the limit leaves. -/
def Gate.HasRoom (gate : Gate) (s : StoreContents) (tenant : TenantId)
    (drafts : List PolicyDraft) : Prop :=
  gate.enterprise ∨ (s.freeNames tenant drafts).card = 0 ∨
    s.held tenant + (s.freeNames tenant drafts).card ≤ gate.limit

namespace Service

open ServiceProgram

variable {gate : Gate} {tenant : TenantId} {s s' : MemoryStore} {a a' : Ambient} {actor : String}

/-! ### When an import is accepted -/

theorem ensures_authorizeCreate_other {tier : PolicyTier} (htier : tier ≠ .tenant) :
    (run (gate.authorizeCreate tenant tier)).Ensures s fun result s' =>
      s' = s ∧ (result = .ok () ↔ gate.permits tier) := by
  cases tier with
  | system => exact ensures_throw ⟨rfl, by simp [Gate.permits]⟩
  | tenant => exact absurd rfl htier
  | organization =>
    rw [Gate.authorizeCreate]
    split
    · rename_i henterprise
      exact ensures_pure ⟨rfl, by simp [Gate.permits, henterprise]⟩
    · rename_i hcommunity
      exact ensures_throw ⟨rfl, by simp [Gate.permits, hcommunity]⟩

/-- Searching drafts for new names fails only for their tiers. -/
theorem ensures_newNames_tiers (names : List String) (drafts : List PolicyDraft) :
    (run (newNames gate tenant names drafts)).Ensures s fun result s' =>
      s' = s ∧ ((∃ found, result = .ok found) ↔ ∀ d ∈ drafts, gate.permits d.effectiveTier) := by
  induction drafts generalizing names with
  | nil => exact ensures_pure ⟨rfl, by simp⟩
  | cons draft rest ih =>
    have hrest (hdraft : gate.permits draft.effectiveTier) (more : List String) :
        (run (newNames gate tenant more rest)).Ensures s fun result s' => s' = s ∧
          ((∃ found, result = .ok found) ↔
            ∀ d ∈ draft :: rest, gate.permits d.effectiveTier) := by
      refine (ih more).mono fun result s' h => ⟨h.1, h.2.trans ?_⟩
      rw [List.forall_mem_cons, and_iff_right hdraft]
    rw [newNames]
    split
    · rename_i htier
      have hdraft : gate.permits draft.effectiveTier := by rw [htier]; rfl
      refine ensures_look_bind (fun _ => rfl) ?_
      split
      · exact hrest hdraft _
      · exact hrest hdraft _
    · rename_i hother
      refine ensures_bind ((ensures_authorizeCreate_other hother).mono ?_)
      rintro (e | _) s' ⟨rfl, htier⟩
      · refine ⟨rfl, iff_of_false ?_ fun hall => ?_⟩
        · rintro ⟨_, ⟨⟩⟩
        · have hok := htier.2 (hall draft List.mem_cons_self)
          cases hok
      · exact hrest (htier.1 rfl) names

theorem ensures_authorizeImport_tiers (gate : Gate) (tenant : TenantId)
    (drafts : List PolicyDraft) :
    (run (authorizeImport gate tenant drafts)).Ensures s fun result s' =>
      s' = s ∧ (result = .ok () → ∀ d ∈ drafts, gate.permits d.effectiveTier) ∧
        (gate.enterprise → (∀ d ∈ drafts, gate.permits d.effectiveTier) → result = .ok ()) := by
  refine ensures_bind ((ensures_newNames_tiers [] drafts).mono ?_)
  rintro (e | found) s' ⟨rfl, htiers⟩
  · refine ⟨rfl, nofun, fun _ hall => ?_⟩
    obtain ⟨_, hok⟩ := htiers.2 hall
    cases hok
  · have hall := htiers.1 ⟨found, rfl⟩
    dsimp only
    split
    · rename_i hcounted
      have hcommunity : gate.enterprise = false := by
        rw [Bool.and_eq_true, Bool.not_eq_true'] at hcounted
        exact hcounted.2
      refine ensures_look_bind (fun _ => rfl) ?_
      split
      · exact ensures_throw ⟨rfl, nofun, fun h => by rw [hcommunity] at h; cases h⟩
      · exact ensures_pure ⟨rfl, fun _ => hall, fun _ _ => rfl⟩
    · exact ensures_pure ⟨rfl, fun _ => hall, fun _ _ => rfl⟩

/-- An import is accepted exactly if its tiers are permitted and there is room for it. -/
theorem ensures_authorizeImport_iff (gate : Gate) (tenant : TenantId)
    (drafts : List PolicyDraft) :
    (run (authorizeImport gate tenant drafts)).Ensures s fun result s' =>
      s' = s ∧ (result = .ok () ↔ (∀ d ∈ drafts, gate.permits d.effectiveTier) ∧
        gate.HasRoom s.contents tenant drafts) := by
  intro a
  obtain ⟨hsame, htiers, hlicensed⟩ :=
    ensures_authorizeImport_tiers (s := s) gate tenant drafts a
  refine ⟨hsame, ?_⟩
  obtain ⟨enterprise, limit⟩ := gate
  cases enterprise with
  | true => exact ⟨fun hok => ⟨htiers hok, .inl rfl⟩, fun h => hlicensed rfl h.1⟩
  | false =>
    have hchecked : (run (authorizeImport ⟨false, limit⟩ tenant drafts)).Ensures s _ :=
      ensures_authorizeImport drafts
    obtain ⟨_, hlimit⟩ := hchecked a
    generalize ((run (authorizeImport ⟨false, limit⟩ tenant drafts)).run s a).1.1 = result
      at htiers hlimit
    cases result with
    | ok _ => exact iff_of_true rfl ⟨htiers rfl, .inr hlimit⟩
    | error e =>
      refine iff_of_false nofun ?_
      rintro ⟨hall, hroom⟩
      rcases hlimit with ⟨d, hd, hother⟩ | ⟨_, hsome, hfull⟩
      · have hpermits := hall d hd
        cases htier : d.effectiveTier with
        | tenant => exact hother htier
        | _ => rw [htier] at hpermits; cases hpermits
      · rcases hroom with henterprise | hnone | hroom
        · cases henterprise
        · exact absurd hnone (Nat.pos_iff_ne_zero.1 hsome)
        · exact absurd hroom (Nat.not_le.2 hfull)

end Service

/-! ### What an import leaves of the room -/

/-- What an import brings in takes up room that was made for it. -/
theorem Gate.HasRoom.of_import {gate : Gate} {tenant : TenantId} {drafts : List PolicyDraft}
    {mode : ImportMode} {actor : String} {added : Nat} {s s' : MemoryStore}
    (hroom : gate.HasRoom s.contents tenant drafts)
    (hmakes : (StoreCall.importAll tenant drafts mode actor).Makes added s s')
    (hs : s.contents.Indexed) : gate.HasRoom s'.contents tenant drafts := by
  have hheld : s'.contents.held tenant ≤ s.contents.held tenant + added := hmakes.held_le hs
  have hfree := (hmakes.of_import hs).2
  rcases hroom with henterprise | hnone | hroom
  · exact .inl henterprise
  · right
    omega
  · right
    omega

namespace Service

open ServiceProgram

variable {gate : Gate} {tenant : TenantId} {s : MemoryStore} {actor : String}

/-! ### Importing -/

theorem run_importAll (gate : Gate) (tenant : TenantId) (actor : String) {r : ImportRequest}
    {mode : ImportMode} (hmode : importMode r = .ok mode) (hs : s.contents.Indexed) (a : Ambient) :
    ∃ (verdict : Except ServiceError Unit) (b : Ambient),
      (verdict = .ok () ↔ (∀ d ∈ r.policies, gate.permits d.effectiveTier) ∧
        gate.HasRoom s.contents tenant r.policies) ∧ b.draws = a.draws ∧
      ((run (importAll gate tenant r actor)).run s a).1 =
        match verdict with
        | .error e => (.error e, s)
        | .ok _ =>
          let imported := ((MemoryStore.importAll tenant r.policies mode actor).run s b).1
          (imported.1.mapError .storage, imported.2) := by
  -- That the check draws nothing and always ends the same is known of two runs, so take one twice.
  have hagrees : s.contents.AgreesFor tenant s.contents := ⟨fun _ => rfl, fun _ => rfl⟩
  have hsame : FindsSame (authorizeImport gate tenant r.policies) s s :=
    findsSame_authorizeImport hagrees hs hs r.policies
  obtain ⟨verdict, hfinds, _⟩ := hsame
  obtain ⟨b, hrun, hdraws⟩ := hfinds a
  obtain ⟨_, haccepted⟩ :=
    ensures_authorizeImport_iff (s := s) gate tenant r.policies a
  rw [hrun] at haccepted
  refine ⟨verdict, b, haccepted, hdraws, ?_⟩
  unfold importAll
  simp only [hmode]
  rw [run_bind, Acting.run_bind hrun]
  cases verdict with
  | error e => rfl
  | ok _ =>
    refine (run_ask_bind (g := .ok) (fun report t => ?_) s b).trans ?_
    · exact finds_bind (finds_report _ _ _ t) (finds_pure report t)
    · exact congrArg (·, _) (bind_pure _)

/-- What a committed import was asked for and has done. -/
theorem run_importAll_ok {r : ImportRequest} {mode : ImportMode} (hmode : importMode r = .ok mode)
    (hs : s.contents.Indexed) {a : Ambient} {report : ImportReport} {s' : MemoryStore}
    (hrun : ((run (importAll gate tenant r actor)).run s a).1 = (.ok report, s')) :
    (∀ d ∈ r.policies, gate.permits d.effectiveTier) ∧
      gate.HasRoom s.contents tenant r.policies ∧ ∃ b : Ambient, b.draws = a.draws ∧
        ((MemoryStore.importAll tenant r.policies mode actor).run s b).1 = (.ok report, s') := by
  obtain ⟨verdict, b, haccepted, hdraws, hresult⟩ :=
    run_importAll gate tenant actor hmode hs a
  rw [hrun] at hresult
  cases verdict with
  | error e => cases hresult
  | ok _ =>
    obtain ⟨htiers, hroom⟩ := haccepted.1 rfl
    refine ⟨htiers, hroom, b, hdraws, ?_⟩
    generalize ((MemoryStore.importAll tenant r.policies mode actor).run s b).1 = answer at hresult
    obtain ⟨e | done, t⟩ := answer
    · cases hresult
    · cases hresult
      rfl

end Service

/-- An import that skips or reports taken names, when it is repeated right after it was committed, is
accepted again, brings nothing in, changes nothing and leaves the store exactly as it is, whatever is
drawn for it now. -/
theorem repeated_import_does_nothing {s s' : MemoryStore} (hs : s.Reachable) (gate : Gate)
    (caller : Caller) {r : ImportRequest} {mode : ImportMode}
    (hmode : Service.importMode r = .ok mode) (hkeeps : mode ≠ .overwrite) {a a' : Ambient}
    (hnew : s.contents.DrawsNew (r.policies.filterMap (·.id)) a.draws
      (a.draws + 2 * r.policies.length))
    {report : ImportReport}
    (hfirst : ((PolicyCall.importAll r).serve gate caller).run s a = ((.ok report, s'), a'))
    (b : Ambient) :
    ∃ again : ImportReport,
      (((PolicyCall.importAll r).serve gate caller).run s' b).1 = (.ok again, s') ∧
      again.created = 0 ∧ again.updated = 0 := by
  have hasked : ∀ draft ∈ r.policies, ∀ id, draft.id = some id →
      id ∈ r.policies.filterMap (·.id) :=
    fun draft hdraft id hid => List.mem_filterMap.2 ⟨draft, hdraft, hid⟩
  have hrun : ((Service.run (Service.importAll gate caller.tenant r caller.actor)).run s a).1 =
      (.ok report, s') := congrArg Prod.fst hfirst
  obtain ⟨htiers, hroom, a₁, hdraws, himport⟩ := Service.run_importAll_ok hmode hs.indexed hrun
  obtain ⟨hcommits, hmakes, hsettled⟩ :=
    MemoryStore.importAll_committed hs.indexed hasked (hdraws ▸ hnew)
      (Nat.le_of_eq (by rw [hdraws])) himport
  -- The same drafts are checked against the same limit, and there is still room for them.
  obtain ⟨verdict, b₁, haccepted, _, hresult⟩ :=
    Service.run_importAll gate caller.tenant caller.actor hmode (hmakes.indexed hs.indexed) b
  obtain rfl := haccepted.2 ⟨htiers, hroom.of_import hmakes hs.indexed⟩
  rw [MemoryStore.importAll_run, if_neg (by simp [hcommits])] at hresult
  obtain ⟨hidle, hsame⟩ := MemoryStore.ensures_importEach_settled hkeeps hsettled b₁
  obtain ⟨hcreated, hupdated⟩ := ImportReport.idle_ofOutcomes hidle
  rw [hsame] at hresult
  exact ⟨_, hresult, hcreated, hupdated⟩

/-! ### An import that fills up its tenant -/

/-- Of these drafts the second has the name of the first, the third asks for an identifier that is taken,
and the last has a name that is taken. -/
def skippingImport : ImportRequest :=
  ⟨[secondDraft, secondDraft, { secondDraft with name := "no names", id := some ⟨"p1"⟩ },
    { secondDraft with name := "no secrets" }], none⟩

/-- With the third draft there would be more policies than the limit, had it not failed. -/
theorem skippingImport_repeated :
    let importing := (PolicyCall.importAll skippingImport).serve ⟨false, 3⟩ alice
    let left := (importing.run acmeStore .initial).1.2
    acmeStore.Reachable ∧ Service.importMode skippingImport = .ok .skip ∧
    acmeStore.contents.DrawsNew [⟨"p1"⟩] 0 8 ∧
    (importing.run acmeStore .initial).1.1 = .ok ⟨1, 0, 2, ["Error creating policy no names: " ++
      "policy database error: policy id p1 already exists"]⟩ ∧
    ∃ again : ImportReport, (importing.run left otherAmbient).1 = (.ok again, left) ∧
      again.created = 0 ∧ again.updated = 0 := by
  intro importing left
  have hacme : acmeStore.Reachable := MemoryStore.Reachable.empty.seed acmeRule
  have hmode : Service.importMode skippingImport = .ok .skip := by rfl
  have hnew : acmeStore.contents.DrawsNew [⟨"p1"⟩] 0 8 :=
    ⟨by decide +kernel, by decide +kernel, by decide +kernel⟩
  have hreport : (importing.run acmeStore .initial).1.1 = .ok ⟨1, 0, 2,
      ["Error creating policy no names: policy database error: policy id p1 already exists"]⟩ := by
    rfl
  refine ⟨hacme, hmode, hnew, hreport, ?_⟩
  have hfirst : importing.run acmeStore .initial =
      ((.ok _, left), (importing.run acmeStore .initial).2) :=
    Prod.ext (Prod.ext hreport rfl) rfl
  exact repeated_import_does_nothing hacme ⟨false, 3⟩ alice hmode nofun
    (a := .initial) hnew hfirst otherAmbient

end Governance
