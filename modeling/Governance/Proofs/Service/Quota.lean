import Governance.Proofs.Program.Obeying
import Governance.Proofs.Service.Limit

/-!
# What calls to the service have been allowed

Creating and importing policies without a licence keep an account: which names are known to be taken,
and how many policies the check has allowed that have not been written yet. Counting opens the account
as far as there is room, writing closes it, and nothing else is done in between. That the account is
enough for the writing holds however many others use the store meanwhile, as long as none of them takes
a policy of the tenant away: a name that was found taken stays taken.
-/

namespace Governance

/-- How many policies a call to the service would bring in at most. -/
def PolicyCall.size : PolicyCall → Nat
  | .create _ => 1
  | .importAll r => r.policies.length
  | _ => 0

/-! ### What a call has been allowed -/

/-- What a call to the service knows and has been allowed: names under which the tenant has policies,
and how many policies it may bring in. -/
structure Allowance where
  taken : Finset String
  pending : Nat

def Allowance.start : Allowance := ⟨∅, 0⟩

namespace StoreCall

/-- A call brings in no more policies than are allowed, and nothing else is done while some are. -/
def CoveredBy (g : Allowance) : StoreCall → Prop
  | .create .. => 1 ≤ g.pending
  | .importAll _ drafts _ _ => ((drafts.map (·.name)).toFinset \ g.taken).card ≤ g.pending
  | .findByName .. | .countTenantTier _ => g.pending = 0
  | _ => False

/-- What is found out about names is known from then on, and what is counted may allow as many policies
as there is room for. -/
def Carries (limit size : Nat) (g : Allowance) : (c : StoreCall) → c.Answer → Allowance → Prop
  | .create .., _, g' => g' = ⟨g.taken, 0⟩
  | .importAll .., _, g' => g' = ⟨g.taken, 0⟩
  | .findByName _ name, .ok (some _), g' => g' = ⟨insert name g.taken, g.pending⟩
  | .countTenantTier _, .ok held, g' =>
    g'.taken = g.taken ∧ g'.pending ≤ size ∧ (g'.pending = 0 ∨ held + g'.pending ≤ limit)
  | _, _, g' => g' = g

end StoreCall

/-- The ledger of what calls have been allowed for a tenant. -/
def quota (limit size : Nat) (tenant : TenantId) : Program.Ledger serviceInterface Allowance where
  covers g
    | .store c => if c.tenant = tenant then c.CoveredBy g else g.pending = 0
    | .now => g.pending = 0
    | .report _ => True
  carries g
    | .store c, answer, g' => if c.tenant = tenant then c.Carries limit size g answer g' else g' = g
    | .now, _, g' => g' = g
    | .report _, _, g' => g' = g

/-! ### Creating and importing keep to it -/

/-- A program of the service keeps to what it has been allowed, and forgets about it when it fails. -/
def ServiceProgram.Tracked {α : Type} (limit size : Nat) (tenant : TenantId)
    (post : Allowance → α → Prop) (g : Allowance) (p : ServiceProgram α) : Prop :=
  Program.Tracks (quota limit size tenant) (fun g' result =>
    match result with
    | .ok value => post g' value
    | .error _ => g'.pending = 0) g p.run

namespace ServiceProgram.Tracked

variable {α β : Type} {limit size : Nat} {tenant : TenantId} {g : Allowance}

theorem pure {post : Allowance → α → Prop} {value : α} (hpost : post g value) :
    Tracked limit size tenant post g (pure value) :=
  hpost

theorem throw {post : Allowance → α → Prop} {e : ServiceError} (hg : g.pending = 0) :
    Tracked limit size tenant post g (throw e) :=
  hg

theorem mono {pre post : Allowance → α → Prop} {p : ServiceProgram α}
    (hp : Tracked limit size tenant pre g p) (himp : ∀ g' value, pre g' value → post g' value) :
    Tracked limit size tenant post g p := by
  refine Program.Tracks.mono ?_ hp
  rintro g' (e | value) h
  · exact h
  · exact himp g' value h

theorem bind {post : Allowance → β → Prop} {p : ServiceProgram α} {f : α → ServiceProgram β}
    (hp : Tracked limit size tenant (fun g' value => Tracked limit size tenant post g' (f value))
      g p) : Tracked limit size tenant post g (p >>= f) := by
  rw [Tracked, ExceptT.run_bind]
  refine Program.Tracks.bind (Program.Tracks.mono ?_ hp)
  rintro g' (e | value) h
  · exact h
  · exact h

theorem ask {c : StoreCall} {post : Allowance → c.Result → Prop} (hc : c.tenant = tenant)
    (hcovered : c.CoveredBy g)
    (hnext : ∀ answer, ∃ g', c.Carries limit size g answer g' ∧
      match answer with
      | .ok result => post g' result
      | .error _ => g'.pending = 0) :
    Tracked limit size tenant post g (ask c) := by
  refine ⟨(if_pos hc).mpr hcovered, fun answer => ?_⟩
  obtain ⟨g', hcarries, hpost⟩ := hnext answer
  refine ⟨g', (if_pos hc).mpr hcarries, ?_⟩
  cases answer with
  | error e => exact hpost
  | ok result => exact hpost

theorem count {more : Nat} {post : Allowance → Nat → Prop} (hg : g.pending = 0)
    (hsize : more ≤ size) (hroom : ∀ held, held + more ≤ limit → post ⟨g.taken, more⟩ held)
    (hfull : ∀ held, limit < held + more → post ⟨g.taken, 0⟩ held) :
    Tracked limit size tenant post g (ServiceProgram.ask (.countTenantTier tenant)) := by
  refine .ask rfl hg ?_
  rintro (e | held)
  · exact ⟨g, rfl, hg⟩
  · by_cases h : held + more ≤ limit
    · exact ⟨⟨g.taken, more⟩, ⟨rfl, hsize, .inr h⟩, hroom held h⟩
    · exact ⟨⟨g.taken, 0⟩, ⟨rfl, Nat.zero_le _, .inl rfl⟩, hfull held (Nat.lt_of_not_le h)⟩

theorem report {level : Level} {message : String} {fields : List (String × Json)}
    {post : Allowance → Unit → Prop} (hpost : post g ()) :
    Tracked limit size tenant post g (report level message fields) :=
  ⟨trivial, fun _ => ⟨g, rfl, hpost⟩⟩

theorem unlessFaulty {faults : List FieldFault} {post : Allowance → Unit → Prop}
    (hg : g.pending = 0) (hpost : post g ()) :
    Tracked limit size tenant post g (Service.unlessFaulty faults) := by
  unfold Service.unlessFaulty
  split
  · exact .pure hpost
  · exact .throw hg

end ServiceProgram.Tracked

namespace Service

open ServiceProgram (Tracked)

variable {limit size : Nat} {tenant : TenantId} {g : Allowance}

theorem tracked_authorizeCreate {tier : PolicyTier} (hsize : tier = .tenant → 1 ≤ size)
    (hg : g.pending = 0) :
    Tracked limit size tenant (fun g' _ => tier = .tenant ∧ 1 ≤ g'.pending) g
      (Gate.authorizeCreate ⟨false, limit⟩ tenant tier) := by
  cases tier with
  | system => exact .throw hg
  | organization => exact .throw hg
  | tenant =>
    refine .bind (.count hg (hsize rfl) ?_ ?_)
    · intro held hroom
      refine .bind (.report ?_)
      dsimp only
      rw [if_neg fun hfull => absurd (not_admits_iff.1 hfull) (Nat.not_lt.2 hroom)]
      exact .pure ⟨rfl, Nat.le_refl 1⟩
    · intro held hfull
      refine .bind (.report ?_)
      dsimp only
      rw [if_pos (not_admits_iff.2 hfull)]
      exact .throw rfl

/-- What searching drafts for new names has come to: every name in them is known to be taken or is among
the names found. -/
structure Searched (g : Allowance) (names : List String) (drafts : List PolicyDraft)
    (g' : Allowance) (found : List String) : Prop where
  none_pending : g'.pending = 0
  still_taken : g.taken ⊆ g'.taken
  still_found : names ⊆ found
  all_known : ∀ d ∈ drafts, d.name ∈ g'.taken ∨ d.name ∈ found
  length_le : found.length ≤ names.length + drafts.length

theorem Searched.cons {g₁ g' : Allowance} {names more found : List String} {d : PolicyDraft}
    {rest : List PolicyDraft} (hrest : Searched g₁ more rest g' found) (htaken : g.taken ⊆ g₁.taken)
    (hnames : names ⊆ more) (hd : d.name ∈ g₁.taken ∨ d.name ∈ more)
    (hlength : more.length ≤ names.length + 1) : Searched g names (d :: rest) g' found := by
  refine ⟨hrest.none_pending, htaken.trans hrest.still_taken,
    List.Subset.trans hnames hrest.still_found, ?_, ?_⟩
  · refine List.forall_mem_cons.2 ⟨?_, hrest.all_known⟩
    exact hd.imp (fun h => hrest.still_taken h) fun h => hrest.still_found h
  · have hothers := hrest.length_le
    rw [List.length_cons]
    omega

theorem tracked_newNames (names : List String) (drafts : List PolicyDraft) (hg : g.pending = 0) :
    Tracked limit size tenant (Searched g names drafts) g
      (newNames ⟨false, limit⟩ tenant names drafts) := by
  induction drafts generalizing names g with
  | nil =>
    exact .pure ⟨hg, Finset.Subset.refl _, List.Subset.refl _, by simp, Nat.le_refl _⟩
  | cons d rest ih =>
    rw [newNames]
    split
    · refine .bind (.ask rfl hg ?_)
      rintro (e | _ | p)
      · exact ⟨g, rfl, hg⟩
      · refine ⟨g, rfl, ?_⟩
        dsimp only
        by_cases hseen : d.name ∈ names
        · rw [if_neg (by simp [hseen])]
          refine (ih names hg).mono fun _ _ hrest => ?_
          exact hrest.cons (Finset.Subset.refl _) (List.Subset.refl _) (.inr hseen)
            (Nat.le_succ _)
        · rw [if_pos (by simp [hseen])]
          refine (ih (d.name :: names) hg).mono fun _ _ hrest => ?_
          exact hrest.cons (Finset.Subset.refl _) (List.subset_cons_self _ _)
            (.inr List.mem_cons_self) (Nat.le_refl _)
      · refine ⟨⟨insert d.name g.taken, g.pending⟩, rfl, ?_⟩
        refine (ih names (g := ⟨insert d.name g.taken, g.pending⟩) hg).mono fun _ _ hrest => ?_
        exact hrest.cons (Finset.subset_insert _ _) (List.Subset.refl _)
          (.inl (Finset.mem_insert_self _ _)) (Nat.le_succ _)
    · rename_i hother
      refine .bind ((tracked_authorizeCreate (fun h => absurd h hother) hg).mono ?_)
      exact fun _ _ hadmitted => absurd hadmitted.1 hother

theorem tracked_authorizeImport {drafts : List PolicyDraft} (hsize : drafts.length ≤ size)
    (hg : g.pending = 0) :
    Tracked limit size tenant
      (fun g' _ => ((drafts.map (·.name)).toFinset \ g'.taken).card ≤ g'.pending) g
      (authorizeImport ⟨false, limit⟩ tenant drafts) := by
  refine .bind ((tracked_newNames [] drafts hg).mono ?_)
  rintro g' found ⟨hg', _, _, hall, hlength⟩
  -- The names that may be new to the tenant are among those found.
  have hcard : ((drafts.map (·.name)).toFinset \ g'.taken).card ≤ found.length := by
    refine (Finset.card_le_card ?_).trans found.toFinset_card_le
    intro name hname
    obtain ⟨hdraft, hfree⟩ := Finset.mem_sdiff.1 hname
    obtain ⟨d, hd, rfl⟩ := List.mem_map.1 (List.mem_toFinset.1 hdraft)
    exact List.mem_toFinset.2 ((hall d hd).resolve_left hfree)
  dsimp only
  split
  · have hfits : found.length ≤ size := by
      rw [List.length_nil] at hlength
      omega
    refine .bind (.count hg' hfits ?_ ?_)
    · intro held hroom
      rw [if_neg fun hfull => absurd (not_admits_iff.1 hfull) (Nat.not_lt.2 hroom)]
      exact .pure hcard
    · intro held hfull
      rw [if_pos (not_admits_iff.2 hfull)]
      exact .throw rfl
  · rename_i hnone
    refine .pure ?_
    have hempty : found.length = 0 := by simpa using hnone
    rwa [hempty, ← hg'] at hcard

/-- A call to the service that has just come in keeps to it, if it is one for another tenant or one that
brings policies in. -/
theorem tracked_perform {caller : Caller} {call : PolicyCall}
    (hcall : caller.tenant = tenant → call.brings ∧ call.size ≤ size) :
    (call.perform ⟨false, limit⟩ caller).run.Tracks (quota limit size tenant)
      (fun g _ => g.pending = 0) .start := by
  by_cases htenant : caller.tenant = tenant
  · obtain ⟨hbrings, hsize⟩ := hcall htenant
    subst htenant
    suffices h : Tracked limit size caller.tenant (fun g _ => g.pending = 0) .start
        (call.perform ⟨false, limit⟩ caller) by
      refine Program.Tracks.mono ?_ h
      rintro g (e | value) h
      · exact h
      · exact h
    cases call with
    | create draft =>
      refine .bind (.unlessFaulty rfl (.bind ((tracked_authorizeCreate (fun _ => hsize) rfl).mono ?_)))
      rintro g' _ ⟨_, hpending⟩
      refine .bind (.ask rfl hpending ?_)
      rintro (e | p)
      · exact ⟨_, rfl, rfl⟩
      · exact ⟨_, rfl, .bind (.report (.pure rfl))⟩
    | importAll r =>
      rw [PolicyCall.perform, importAll]
      cases hmode : importMode r with
      | error faults => exact .throw rfl
      | ok mode =>
        refine .bind ((tracked_authorizeImport hsize rfl).mono ?_)
        intro g' _ hpending
        refine .bind (.ask rfl hpending ?_)
        rintro (e | report)
        · exact ⟨_, rfl, rfl⟩
        · exact ⟨_, rfl, .bind (.report (.pure rfl))⟩
    | _ => cases hbrings
  · have hobeys := obeys_perform (fun _ hp => absurd hp List.not_mem_nil) ⟨false, limit⟩ caller call
    refine Program.Tracks.mono ?_ (Program.Tracks.of_obeys ?_ ?_ ?_ hobeys)
    · rintro _ _ rfl
      rfl
    · rintro (c | _ | e) answer
      · exact c.shows_nil answer
      · exact trivial
      · exact trivial
    · rintro (c | _ | e) hc
      · exact (if_neg fun h => htenant (hc.tenant.symm.trans h)).mpr rfl
      · exact rfl
      · exact trivial
    · rintro (c | _ | e) answer hc
      · exact (if_neg fun h => htenant (hc.tenant.symm.trans h)).mpr rfl
      · exact rfl
      · exact rfl

end Service

/-! ### What calls of the store make of it -/

/-- What a call to the service has been allowed is not more than `size`, and the names that it knows are
taken. -/
structure Allowance.Holds (size : Nat) (tenant : TenantId) (s : StoreContents) (g : Allowance) :
    Prop where
  taken : g.taken ⊆ s.names tenant
  small : g.pending ≤ size

theorem Allowance.Holds.mono {size : Nat} {tenant : TenantId} {s s' : StoreContents} {g : Allowance}
    (hg : g.Holds size tenant s) (hnames : s.names tenant ⊆ s'.names tenant) :
    g.Holds size tenant s' :=
  ⟨hg.taken.trans hnames, hg.small⟩

/-- A call that is covered takes from what is allowed what it brings in; only counting allows more, and
only as far as there is room. -/
theorem StoreCall.CoveredBy.ensures_answer {limit size : Nat} {s : MemoryStore} {g : Allowance}
    {c : StoreCall} (hcovered : c.CoveredBy g) (hs : s.contents.Indexed)
    (hg : g.Holds size c.tenant s.contents) :
    (MemoryStore.answer c).Ensures s fun answer s' =>
      s.contents.names c.tenant ⊆ s'.contents.names c.tenant ∧
      ∀ g', c.Carries limit size g answer g' → g'.Holds size c.tenant s'.contents ∧
        (s'.contents.held c.tenant + g'.pending ≤ s.contents.held c.tenant + g.pending ∨
          0 < g'.pending ∧ s'.contents.held c.tenant + g'.pending ≤ limit) := by
  have hspent {s' : MemoryStore} {added : Nat} (hbrings : c.brings) (hadded : added ≤ g.pending)
      (hmakes : c.Makes added s s') :
      s.contents.names c.tenant ⊆ s'.contents.names c.tenant ∧
      ∀ g' : Allowance, g' = ⟨g.taken, 0⟩ → g'.Holds size c.tenant s'.contents ∧
        (s'.contents.held c.tenant + g'.pending ≤ s.contents.held c.tenant + g.pending ∨
          0 < g'.pending ∧ s'.contents.held c.tenant + g'.pending ≤ limit) := by
    have hnames := hmakes.names_subset hs hbrings
    refine ⟨hnames, ?_⟩
    rintro _ rfl
    exact ⟨⟨hg.taken.trans hnames, Nat.zero_le _⟩,
      .inl ((hmakes.held_le hs).trans (Nat.add_le_add_left hadded _))⟩
  cases c with
  | create tenant draft actor =>
    refine MemoryStore.ensures_create.mono ?_
    rintro (e | p) s' hmakes
    · exact hspent rfl (Nat.zero_le _) (hmakes ▸ .refl)
    · exact hspent rfl hcovered hmakes
  | importAll tenant drafts mode actor =>
    refine (MemoryStore.ensures_importAll hs).mono ?_
    rintro (e | report) s' hmakes
    · exact hspent rfl (Nat.zero_le _) (hmakes ▸ .refl)
    · refine hspent rfl ?_ hmakes
      -- The names that are free are among those that are not known to be taken.
      have hfree : (s.contents.freeNames tenant drafts).card ≤ g.pending :=
        (Finset.card_le_card (Finset.sdiff_subset_sdiff (Finset.Subset.refl _) hg.taken)).trans
          hcovered
      have hused := (hmakes.of_import hs).2
      omega
  | findByName tenant name =>
    refine fun _ => ⟨Finset.Subset.refl _, ?_⟩
    intro g' hcarries
    change (StoreCall.findByName tenant name).Carries limit size g
      (.ok (s.contents.named tenant name)) g' at hcarries
    cases hnamed : s.contents.named tenant name with
    | none =>
      rw [hnamed] at hcarries
      obtain rfl : g' = g := hcarries
      exact ⟨hg, .inl (Nat.le_refl _)⟩
    | some p =>
      rw [hnamed] at hcarries
      obtain rfl : g' = ⟨insert name g.taken, g.pending⟩ := hcarries
      have hname : name ∈ s.contents.names tenant :=
        StoreContents.mem_names.2 fun hnone => by
          rw [hnamed] at hnone
          cases hnone
      exact ⟨⟨Finset.insert_subset hname hg.taken, hg.small⟩, .inl (Nat.le_refl _)⟩
  | countTenantTier tenant =>
    refine fun _ => ⟨Finset.Subset.refl _, ?_⟩
    rintro g' ⟨htaken, hsize, hroom⟩
    refine ⟨⟨htaken ▸ hg.taken, hsize⟩, ?_⟩
    rcases hroom with hnone | hroom
    · left
      rw [hnone]
      exact Nat.le_add_right _ _
    · rcases Nat.eq_zero_or_pos g'.pending with hnone | hsome
      · left
        rw [hnone]
        exact Nat.le_add_right _ _
      · exact .inr ⟨hsome, hroom⟩
  | _ => cases hcovered

end Governance
