import Governance.Proofs.Service.Isolation
import Governance.Proofs.Store.Holdings

/-!
# The limit of the community edition

Served one after the other, calls never take a tenant over the limit: a tenant that holds fewer policies
than the limit gets at most as many as there is room for, and one that holds more keeps what it has.
The check before an import counts the names that are free, each of them once, and that is exactly what
the import can bring in; so nothing is refused that would have found room, as far as the names tell.
-/

namespace Governance

/-- The store after calls that were served one after the other, each in surroundings of its own. -/
def serveAll (gate : Gate) (s : MemoryStore) (calls : List (Caller × PolicyCall × Ambient)) :
    MemoryStore :=
  calls.foldl (fun s (caller, call, a) => ((call.serve gate caller).run s a).1.2) s

theorem MemoryStore.Reachable.serve {s : MemoryStore} (hs : s.Reachable) (gate : Gate)
    (caller : Caller) (call : PolicyCall) (a : Ambient) :
    ((call.serve gate caller).run s a).1.2.Reachable :=
  PolicyCall.ensures_serve (fun c _ _ hs a => hs.answer c a) gate hs a

theorem MemoryStore.Reachable.serveAll {s : MemoryStore} (hs : s.Reachable) (gate : Gate)
    (calls : List (Caller × PolicyCall × Ambient)) : (serveAll gate s calls).Reachable := by
  induction calls generalizing s with
  | nil => exact hs
  | cons call rest ih => exact ih (hs.serve gate call.1 call.2.1 call.2.2)

namespace Service

variable {limit : Nat} {caller : Caller} {tenant : TenantId} {s : MemoryStore}

/-! ### The gate without a licence -/

theorem not_admits_iff {held more : Nat} :
    (!Gate.admits ⟨false, limit⟩ held more) = true ↔ limit < held + more := by
  simp [Gate.admits]

theorem ensures_authorizeCreate (tier : PolicyTier) :
    (run (Gate.authorizeCreate ⟨false, limit⟩ tenant tier)).Ensures s fun result s' =>
      s' = s ∧ match result with
        | .ok _ => tier = .tenant ∧ s.contents.held tenant < limit
        | .error e => tier = .tenant →
            e = .refused (.limitReached limit) ∧ limit ≤ s.contents.held tenant := by
  cases tier with
  | system => exact ensures_throw ⟨rfl, nofun⟩
  | organization => exact ensures_throw ⟨rfl, nofun⟩
  | tenant =>
    refine ensures_look_bind (fun _ => rfl) (ensures_bind (ensures_report ?_))
    dsimp only
    split
    · rename_i hfull
      exact ensures_throw ⟨rfl, fun _ => ⟨rfl, Nat.le_of_lt_succ (not_admits_iff.1 hfull)⟩⟩
    · rename_i hroom
      refine ensures_pure ⟨rfl, rfl, Nat.lt_of_not_le fun hfull => hroom ?_⟩
      exact not_admits_iff.2 (Nat.lt_succ_of_le hfull)

/-- Searching drafts finds the names that are free, each of them once, in addition to those found
before, unless a draft is of another tier than that of tenants. -/
def NamesFound (s : StoreContents) (tenant : TenantId) (names : List String)
    (drafts : List PolicyDraft) : Except ServiceError (List String) → Prop
  | .ok found => (∀ d ∈ drafts, d.effectiveTier = .tenant) ∧ found.Nodup ∧
      found.toFinset = s.freeNames tenant drafts ∪ names.toFinset
  | .error _ => ∃ d ∈ drafts, d.effectiveTier ≠ .tenant

theorem NamesFound.cons {s : StoreContents} {names more : List String} {d : PolicyDraft}
    {rest : List PolicyDraft} {result : Except ServiceError (List String)}
    (hrest : NamesFound s tenant more rest result) (htier : d.effectiveTier = .tenant)
    (hnames : s.freeNames tenant rest ∪ more.toFinset =
      s.freeNames tenant (d :: rest) ∪ names.toFinset) :
    NamesFound s tenant names (d :: rest) result := by
  cases result with
  | error e =>
    obtain ⟨other, hother, htiers⟩ := hrest
    exact ⟨other, List.mem_cons_of_mem _ hother, htiers⟩
  | ok found =>
    obtain ⟨htiers, hfound, hnew⟩ := hrest
    exact ⟨List.forall_mem_cons.2 ⟨htier, htiers⟩, hfound, hnew.trans hnames⟩

theorem ensures_newNames {names : List String} (hnames : names.Nodup)
    (drafts : List PolicyDraft) :
    (run (newNames ⟨false, limit⟩ tenant names drafts)).Ensures s fun result s' =>
      s' = s ∧ NamesFound s.contents tenant names drafts result := by
  induction drafts generalizing names with
  | nil => exact ensures_pure ⟨rfl, by simp, hnames, by simp [StoreContents.freeNames]⟩
  | cons d rest ih =>
    rw [newNames]
    split
    · rename_i htier
      refine ensures_look_bind (fun _ => rfl) ?_
      have hrest {more : List String} (hmore : more.Nodup)
          (hall : s.contents.freeNames tenant rest ∪ more.toFinset =
            s.contents.freeNames tenant (d :: rest) ∪ names.toFinset) :
          (run (newNames ⟨false, limit⟩ tenant more rest)).Ensures s fun result s' =>
            s' = s ∧ NamesFound s.contents tenant names (d :: rest) result :=
        (ih hmore).mono fun _ _ h => ⟨h.1, h.2.cons htier hall⟩
      cases hnamed : s.contents.named tenant d.name with
      | some p => exact hrest hnames (by rw [StoreContents.freeNames_cons_of_some hnamed])
      | none =>
        have hfree : s.contents.freeNames tenant (d :: rest) =
            insert d.name (s.contents.freeNames tenant rest) :=
          StoreContents.freeNames_cons_of_none hnamed
        by_cases hseen : d.name ∈ names
        · rw [if_neg (by simp [hseen])]
          refine hrest hnames ?_
          rw [hfree, Finset.insert_union, Finset.insert_eq_of_mem (by simp [hseen])]
        · rw [if_pos (by simp [hseen])]
          refine hrest (List.nodup_cons.2 ⟨hseen, hnames⟩) ?_
          rw [hfree, List.toFinset_cons, Finset.insert_union, Finset.union_insert]
    · rename_i hother
      refine ensures_bind ((ensures_authorizeCreate _).mono ?_)
      rintro (e | _) s' ⟨rfl, hresult⟩
      · exact ⟨rfl, d, List.mem_cons_self, hother⟩
      · exact absurd hresult.1 hother

theorem ensures_authorizeImport (drafts : List PolicyDraft) :
    (run (authorizeImport ⟨false, limit⟩ tenant drafts)).Ensures s fun result s' =>
      s' = s ∧ match result with
        | .ok _ => (s.contents.freeNames tenant drafts).card = 0 ∨
            s.contents.held tenant + (s.contents.freeNames tenant drafts).card ≤ limit
        | .error e => (∃ d ∈ drafts, d.effectiveTier ≠ .tenant) ∨
            e = .refused (.limitReached limit) ∧
              0 < (s.contents.freeNames tenant drafts).card ∧
              limit < s.contents.held tenant + (s.contents.freeNames tenant drafts).card := by
  refine ensures_bind ((ensures_newNames List.nodup_nil drafts).mono ?_)
  rintro (e | found) s' ⟨rfl, hresult⟩
  · exact ⟨rfl, .inl hresult⟩
  · obtain ⟨_, hfound, hnew⟩ := hresult
    have hlength : found.length = (s'.contents.freeNames tenant drafts).card := by
      rw [← List.toFinset_card_of_nodup hfound, hnew]
      simp
    rw [← hlength]
    dsimp only
    split
    · rename_i hmore
      refine ensures_look_bind (fun _ => rfl) ?_
      split
      · rename_i hfull
        refine ensures_throw ⟨rfl, .inr ⟨rfl, ?_, not_admits_iff.1 hfull⟩⟩
        simpa using hmore
      · rename_i hroom
        exact ensures_pure ⟨rfl, .inr (Nat.not_lt.1 (mt not_admits_iff.2 hroom))⟩
    · rename_i hnone
      refine ensures_pure ⟨rfl, .inl ?_⟩
      simpa using hnone

/-! ### Creating and importing -/

theorem ensures_create (draft : PolicyDraft) (hs : s.contents.Indexed) :
    ((PolicyCall.create draft).serve ⟨false, limit⟩ caller).Ensures s fun result s' =>
      s'.contents.held caller.tenant ≤ max limit (s.contents.held caller.tenant) ∧
      (draft.faults = [] → draft.effectiveTier = .tenant →
        (result = .error (.refused (.limitReached limit)) ↔
          limit ≤ s.contents.held caller.tenant)) := by
  refine ensures_bind (ensures_unlessFaulty ?_ ?_)
  · intro hfaults
    refine ⟨Nat.le_max_right _ _, fun hnone => absurd hnone hfaults⟩
  · intro _
    refine ensures_bind ((ensures_authorizeCreate _).mono ?_)
    rintro (e | _) s' ⟨rfl, hresult⟩
    · refine ⟨Nat.le_max_right _ _, fun _ htier => ?_⟩
      obtain ⟨rfl, hfull⟩ := hresult htier
      exact iff_of_true rfl hfull
    · obtain ⟨_, hroom⟩ := hresult
      have hnot : ¬ limit ≤ s'.contents.held caller.tenant := Nat.not_le.2 hroom
      refine ensures_bind (ensures_ask (MemoryStore.ensures_create.mono ?_))
      rintro (e | p) s'' hmakes
      · subst hmakes
        exact ⟨Nat.le_max_right _ _, fun _ _ => iff_of_false nofun hnot⟩
      · refine ensures_bind (ensures_report (ensures_pure ⟨?_, fun _ _ => iff_of_false nofun hnot⟩))
        have hheld := hmakes.held_le hs
        exact (hheld.trans hroom).trans (Nat.le_max_left _ _)

/-- An import that is valid brings in at most as many policies as there are free names, and reports how
many. -/
theorem ensures_importAll {r : ImportRequest} {mode : ImportMode} (hmode : importMode r = .ok mode)
    (hs : s.contents.Indexed) :
    ((PolicyCall.importAll r).serve ⟨false, limit⟩ caller).Ensures s fun result s' =>
      let free := (s.contents.freeNames caller.tenant r.policies).card
      s'.contents.held caller.tenant ≤ max limit (s.contents.held caller.tenant) ∧
      ((∀ d ∈ r.policies, d.effectiveTier = .tenant) →
        (result = .error (.refused (.limitReached limit)) ↔
          0 < free ∧ limit < s.contents.held caller.tenant + free)) ∧
      ∃ created, created ≤ free ∧
        (s'.contents.ownedBy caller.tenant).length =
          (s.contents.ownedBy caller.tenant).length + created ∧
        ∀ report, result = .ok report → report.created = created := by
  unfold PolicyCall.serve PolicyCall.perform importAll
  simp only [hmode]
  refine ensures_bind ((ensures_authorizeImport r.policies).mono ?_)
  rintro (e | _) s' ⟨rfl, hresult⟩
  · refine ⟨Nat.le_max_right _ _, fun htiers => ?_, 0, Nat.zero_le _, rfl, nofun⟩
    -- A draft of another tier is refused as well, but not for the limit.
    rcases hresult with ⟨d, hd, hother⟩ | ⟨rfl, hfull⟩
    · exact absurd (htiers d hd) hother
    · exact iff_of_true rfl hfull
  · have hnot : ¬ (0 < (s'.contents.freeNames caller.tenant r.policies).card ∧
        limit < s'.contents.held caller.tenant +
          (s'.contents.freeNames caller.tenant r.policies).card) := by
      omega
    refine ensures_bind (ensures_ask ((MemoryStore.ensures_importAll hs).mono ?_))
    rintro (e | report) s'' hmakes
    · subst hmakes
      exact ⟨Nat.le_max_right _ _, fun _ => iff_of_false nofun hnot, 0, Nat.zero_le _, rfl, nofun⟩
    · refine ensures_bind (ensures_report (ensures_pure ⟨?_, fun _ => iff_of_false nofun hnot, ?_⟩))
      · have hheld := hmakes.held_le hs
        have hused := (hmakes.of_import hs).2
        dsimp only [StoreCall.tenant] at hheld
        omega
      · obtain ⟨hlength, hused⟩ := hmakes.of_import hs
        refine ⟨report.created, by omega, hlength, ?_⟩
        rintro _ ⟨⟩
        rfl

/-- No call takes a tenant over the limit. -/
theorem held_serve (hs : s.contents.Indexed) (call : PolicyCall) (tenant : TenantId) :
    (call.serve ⟨false, limit⟩ caller).Ensures s fun _ s' =>
      s'.contents.held tenant ≤ max limit (s.contents.held tenant) := by
  by_cases hother : caller.tenant = tenant
  · subst hother
    by_cases hbrings : call.brings
    · cases call with
      | create draft => exact (ensures_create draft hs).mono fun _ _ h => h.1
      | importAll r =>
        cases hmode : importMode r with
        | ok mode => exact (ensures_importAll hmode hs).mono fun _ _ h => h.1
        | error faults =>
          unfold PolicyCall.serve PolicyCall.perform importAll
          simp only [hmode]
          exact ensures_throw (Nat.le_max_right _ _)
      | _ => cases hbrings
    · have hkept : (call.serve ⟨false, limit⟩ caller).Ensures s fun _ s' =>
          s'.contents.Indexed ∧
            s'.contents.held caller.tenant ≤ s.contents.held caller.tenant := by
        refine PolicyCall.ensures_serve ?_ _ ⟨hs, Nat.le_refl _⟩
        rintro c t ⟨htenant, _, hcall⟩ ⟨hindexed, hheld⟩
        refine (MemoryStore.ensures_answer hindexed c).mono ?_
        rintro _ _ ⟨added, hmakes⟩
        obtain rfl := hmakes.added_eq_zero hindexed (Bool.eq_false_iff.2 fun h => hbrings (hcall h))
        exact ⟨hmakes.indexed hindexed, (htenant ▸ hmakes.held_le hindexed).trans hheld⟩
      exact hkept.mono fun _ _ h => h.2.trans (Nat.le_max_right _ _)
  · refine (keepsFor_serve hs _ hother call).mono fun _ s' hkeeps => ?_
    rw [StoreContents.held_of_ownedBy_eq hkeeps.policies]
    exact Nat.le_max_right _ _

end Service

/-- Whatever calls were served before, the next one takes no tenant over the limit of the community
edition that was not over it, and adds nothing to one that was. A valid draft is refused for the limit
exactly if the tenant has reached it, and a valid import exactly if it has free names, but more of them
than there is room for; an import never brings in more policies than that. -/
theorem limit_kept_serving (limit : Nat) {start : MemoryStore} (hstart : start.Reachable)
    (earlier : List (Caller × PolicyCall × Ambient)) :
    let gate : Gate := ⟨false, limit⟩
    let s := serveAll gate start earlier
    (∀ (caller : Caller) (call : PolicyCall) (a : Ambient) (tenant : TenantId),
      ((call.serve gate caller).run s a).1.2.contents.held tenant ≤
        max limit (s.contents.held tenant)) ∧
    (∀ (caller : Caller) (draft : PolicyDraft) (a : Ambient),
      draft.faults = [] → draft.effectiveTier = .tenant →
      ((((PolicyCall.create draft).serve gate caller).run s a).1.1 =
          .error (.refused (.limitReached limit)) ↔
        limit ≤ s.contents.held caller.tenant)) ∧
    ∀ (caller : Caller) (r : ImportRequest) (mode : ImportMode) (a : Ambient),
      Service.importMode r = .ok mode → (∀ d ∈ r.policies, d.effectiveTier = .tenant) →
      let free := (s.contents.freeNames caller.tenant r.policies).card
      let imported := (((PolicyCall.importAll r).serve gate caller).run s a).1
      (imported.1 = .error (.refused (.limitReached limit)) ↔
        0 < free ∧ limit < s.contents.held caller.tenant + free) ∧
      ∃ created, created ≤ free ∧
        (imported.2.contents.ownedBy caller.tenant).length =
          (s.contents.ownedBy caller.tenant).length + created ∧
        ∀ report, imported.1 = .ok report → report.created = created := by
  intro gate s
  have hs : s.contents.Indexed := (hstart.serveAll gate earlier).indexed
  refine ⟨?_, ?_, ?_⟩
  · exact fun caller call a tenant => Service.held_serve hs call tenant a
  · intro caller draft a hfaults htier
    exact (Service.ensures_create draft hs a).2 hfaults htier
  · intro caller r mode a hmode htiers
    obtain ⟨_, hrefused, hcreated⟩ := Service.ensures_importAll hmode hs a
    exact ⟨hrefused htiers, hcreated⟩

/-! ### A tenant that has reached the limit -/

def alice : Caller := ⟨⟨"acme"⟩, "alice"⟩

def secondDraft : PolicyDraft :=
  { PolicyDraft.named "no passwords" .content with
    conditions := [⟨"query", "contains", .string "password"⟩]
    actions := [⟨"log", []⟩] }

/-- The tenant has a policy of the name of one of the drafts, and the other drafts are the same. -/
def mixedImport : ImportRequest :=
  ⟨[secondDraft, { secondDraft with name := "no secrets" }, secondDraft], some "overwrite"⟩

theorem acme_is_full :
    acmeStore.Reachable ∧ secondDraft.faults = [] ∧ secondDraft.effectiveTier = .tenant ∧
    Service.importMode mixedImport = .ok .overwrite ∧
    (∀ d ∈ mixedImport.policies, d.effectiveTier = .tenant) ∧
    (((PolicyCall.create secondDraft).serve ⟨false, 1⟩ alice).run acmeStore .initial).1.1 =
      .error (.refused (.limitReached 1)) ∧
    (((PolicyCall.importAll mixedImport).serve ⟨false, 1⟩ alice).run acmeStore .initial).1.1 =
      .error (.refused (.limitReached 1)) := by
  have hacme : acmeStore.Reachable := MemoryStore.Reachable.empty.seed acmeRule
  have hvalid : secondDraft.faults = [] := by rfl
  have hmode : Service.importMode mixedImport = .ok .overwrite := by rfl
  have htiers : ∀ d ∈ mixedImport.policies, d.effectiveTier = .tenant := by
    decide
  obtain ⟨_, hcreate, himport⟩ := limit_kept_serving 1 hacme []
  refine ⟨hacme, hvalid, rfl, hmode, htiers, ?_, ?_⟩
  · exact (hcreate alice secondDraft .initial hvalid rfl).2 (by decide)
  · exact (himport alice mixedImport .overwrite .initial hmode htiers).1.2 (by decide)

end Governance
