import Governance.Api.Call
import Governance.Proofs.Program.Obeying
import Governance.Proofs.Store.Validity
import Governance.Service.Basic

/-!
# What calls to the service ask of the store

Every call to the service is a program over the calls of the store. It asks the store for nothing that
concerns another tenant than its own. Nor does it ask for a change of a policy that it was shown to be
one of the system, or for a new policy of the system; and what it asks for has passed the checks of
drafts and patches. `Service.meets_perform` says so for all calls to the service at once, for whatever
else the store answers, together with the ways in which they may fail; `Service.obeys_perform` leaves out
what fails and what was checked.
-/

namespace Governance

abbrev PolicyCall.Result : PolicyCall → Type
  | .list _ => ListedPolicies
  | .create _ => Policy
  | .fetch _ => Policy
  | .update .. => Policy
  | .delete _ => Unit
  | .tryOut .. => TrialResult
  | .history _ => List Revision
  | .importAll _ => ImportReport
  | .exportAll => PolicyExport

def PolicyCall.perform (gate : Gate) (caller : Caller) :
    (call : PolicyCall) → ServiceProgram call.Result
  | .list query => Service.list caller.tenant query
  | .create draft => Service.create gate caller.tenant draft caller.actor
  | .fetch id => Service.fetch caller.tenant id
  | .update id patch => Service.update caller.tenant id patch caller.actor
  | .delete id => Service.delete caller.tenant id caller.actor
  | .tryOut id trial => Service.tryOut caller.tenant id trial
  | .history id => Service.revisions caller.tenant id
  | .importAll request => Service.importAll gate caller.tenant request caller.actor
  | .exportAll => Service.exportAll caller.tenant

def PolicyCall.serve (gate : Gate) (caller : Caller) (call : PolicyCall) :
    Acting MemoryStore (Except ServiceError call.Result) :=
  Service.run (call.perform gate caller)

/-! ### Programs of the service that obey -/

/-- What is relied on is only what the store answers. -/
def ServiceCall.Relied (rely : (c : StoreCall) → c.Answer → Prop) :
    (c : ServiceCall) → c.Answer → Prop
  | .store c, answer => rely c answer
  | _, _ => True

/-- Reading the clock and reporting are always allowed. -/
def ServiceCall.Allowed (may : StoreCall → Prop) : ServiceCall → Prop
  | .store c => may c
  | _ => True

namespace ServiceProgram

variable {α β : Type} {rely : (c : StoreCall) → c.Answer → Prop} {may : StoreCall → Prop}

/-- A program of the service asks the store only for what it may, returns a value of which `post` holds,
and fails only in ways of which `fails` holds. -/
def Meets (rely : (c : StoreCall) → c.Answer → Prop) (may : StoreCall → Prop)
    (fails : ServiceError → Prop) (post : α → Prop) (p : ServiceProgram α) : Prop :=
  p.run.Obeys (I := serviceInterface) (ServiceCall.Relied rely) (ServiceCall.Allowed may) fun
    | .ok value => post value
    | .error e => fails e

/-- A program of the service asks the store only for what it may, and returns a value of which `post`
holds unless it fails. -/
def Obeys (rely : (c : StoreCall) → c.Answer → Prop) (may : StoreCall → Prop) (post : α → Prop)
    (p : ServiceProgram α) : Prop :=
  p.run.Obeys (I := serviceInterface) (ServiceCall.Relied rely) (ServiceCall.Allowed may) fun
    | .ok value => post value
    | .error _ => True

namespace Meets

variable {fails : ServiceError → Prop} {post : α → Prop}

theorem pure {value : α} (hpost : post value) :
    Meets rely may fails post (pure value : ServiceProgram α) :=
  hpost

theorem throw {e : ServiceError} (hfails : fails e) :
    Meets rely may fails post (throw e : ServiceProgram α) :=
  hfails

theorem mono {pre : α → Prop} {p : ServiceProgram α} (hp : Meets rely may fails pre p)
    (himp : ∀ value, pre value → post value) : Meets rely may fails post p := by
  refine Program.Obeys.mono ?_ hp
  rintro (e | value) hvalue
  · exact hvalue
  · exact himp value hvalue

theorem of_may {may' : StoreCall → Prop} (himp : ∀ c, may c → may' c) {p : ServiceProgram α}
    (hp : Meets rely may fails post p) : Meets rely may' fails post p := by
  refine Program.Obeys.of_may ?_ hp
  rintro (c | _ | e) hmay
  · exact himp c hmay
  · exact trivial
  · exact trivial

theorem bind {post : β → Prop} {p : ServiceProgram α} {f : α → ServiceProgram β}
    (hp : Meets rely may fails (fun value => Meets rely may fails post (f value)) p) :
    Meets rely may fails post (p >>= f) := by
  rw [Meets, ExceptT.run_bind]
  refine Program.Obeys.bind (Program.Obeys.mono ?_ hp)
  rintro (e | value) hvalue
  · exact hvalue
  · exact hvalue

theorem ask {c : StoreCall} {post : c.Result → Prop} (hmay : may c)
    (hfails : ∀ e, rely c (.error e) → fails (.storage e))
    (hpost : ∀ result, rely c (.ok result) → post result) : Meets rely may fails post (ask c) := by
  refine ⟨hmay, ?_⟩
  rintro (e | result) hanswer
  · exact hfails e hanswer
  · exact hpost result hanswer

theorem report {level : Level} {message : String} {fields : List (String × Json)}
    {post : Unit → Prop} (hpost : post ()) :
    Meets rely may fails post (report level message fields) :=
  ⟨trivial, fun _ _ => hpost⟩

theorem now {post : Instant → Prop} (hpost : ∀ t, post t) : Meets rely may fails post now :=
  ⟨trivial, fun t _ => hpost t⟩

theorem unlessFaulty {faults : List FieldFault} {post : Unit → Prop}
    (hfails : fails (.invalid faults)) (hpost : faults = [] → post ()) :
    Meets rely may fails post (Service.unlessFaulty faults) := by
  cases faults with
  | nil => exact .pure (hpost rfl)
  | cons fault rest => exact .throw hfails

theorem orNotFound {id : PolicyId} {found : Option α} (hfails : fails (.notFound id))
    (hpost : ∀ value, post value) : Meets rely may fails post (Service.orNotFound id found) := by
  cases found with
  | none => exact .throw hfails
  | some value => exact .pure (hpost value)

theorem reportAll {events : List Event} {post : Unit → Prop} (hpost : post ()) :
    Meets rely may fails post (Service.reportAll events) := by
  induction events with
  | nil => exact .pure hpost
  | cons e rest ih => exact .bind (.report ih)

end Meets

theorem Obeys.of_may {post : α → Prop} {may' : StoreCall → Prop} (himp : ∀ c, may c → may' c)
    {p : ServiceProgram α} (hp : Obeys rely may post p) : Obeys rely may' post p := by
  have hmeets : Meets rely may (fun _ => True) post p := hp
  exact hmeets.of_may himp

end ServiceProgram

namespace Service

variable {α : Type} {rely : (c : StoreCall) → c.Answer → Prop} {may : StoreCall → Prop}
  {P : MemoryStore → Prop}

/-- What the store keeps through every call that may be made, the service keeps through every one of
its own. -/
theorem ensures_answer
    (hstep : ∀ c s, may c → P s →
      (MemoryStore.answer c).Ensures s fun answer s' => rely c answer ∧ P s')
    (c : ServiceCall) (s : MemoryStore) (hmay : c.Allowed may) (hs : P s) :
    (answer c).Ensures s fun value s' => c.Relied rely value ∧ P s' := by
  cases c with
  | store c => exact hstep c s hmay hs
  | now => exact .lift fun _ => ⟨trivial, hs⟩
  | report e => exact .lift fun _ => ⟨trivial, hs⟩

theorem ensures_run
    (hstep : ∀ c s, may c → P s →
      (MemoryStore.answer c).Ensures s fun answer s' => rely c answer ∧ P s')
    {post : α → Prop} {p : ServiceProgram α} (hp : ServiceProgram.Obeys rely may post p)
    {s : MemoryStore} (hs : P s) : (run p).Ensures s fun _ s' => P s' :=
  (Program.ensures_run (ensures_answer hstep) hp hs).mono fun _ _ h => h.2

end Service

/-! ### What calls to the service obey -/

/-- A call leaves policies of the system alone that are known, and does not ask for new ones. -/
def StoreCall.Spares (systems : List Policy) : StoreCall → Prop
  | .create _ draft _ => draft.effectiveTier ≠ .system
  | .update tenant id _ _ | .delete tenant id _ => ∀ p ∈ systems, p.tenant = tenant → p.id ≠ id
  | .importAll _ drafts _ _ => ∀ d ∈ drafts, d.effectiveTier ≠ .system
  | _ => True

/-- Whoever fetches a policy of the system that is known is shown it. -/
def StoreCall.Shows (systems : List Policy) : (c : StoreCall) → c.Answer → Prop
  | .get tenant id, answer => ∀ p ∈ systems, p.tenant = tenant → p.id = id → answer = .ok (some p)
  | _, _ => True

def PolicyCall.brings : PolicyCall → Bool
  | .create _ | .importAll _ => true
  | _ => false

theorem StoreCall.shows_nil (c : StoreCall) (answer : c.Answer) : c.Shows [] answer := by
  cases c with
  | get => exact fun p hp => absurd hp List.not_mem_nil
  | _ => trivial

/-- The drafts that a call hands over. -/
def PolicyCall.drafts : PolicyCall → List PolicyDraft
  | .create draft => [draft]
  | .importAll request => request.policies
  | _ => []

/-- The patches that a call hands over. -/
def PolicyCall.patches : PolicyCall → List PolicyPatch
  | .update _ patch => [patch]
  | _ => []

/-- A call on behalf of a tenant that only looks at policies. -/
def StoreCall.LooksFor (tenant : TenantId) (c : StoreCall) : Prop := c.tenant = tenant ∧ c.isRead

/-- What the store may be asked for a call to the service. -/
structure StoreCall.Serves (caller : Caller) (call : PolicyCall) (systems : List Policy)
    (c : StoreCall) : Prop where
  tenant : c.tenant = caller.tenant
  spares : c.Spares systems
  brings : c.brings → call.brings
  drafts : c.drafts ⊆ call.drafts
  patches : c.patches ⊆ call.patches

theorem StoreCall.LooksFor.serves {caller : Caller} {call : PolicyCall} {systems : List Policy}
    {c : StoreCall} (hc : c.LooksFor caller.tenant) : c.Serves caller call systems := by
  obtain ⟨htenant, hread⟩ := hc
  cases c with
  | create | update | delete | importAll => cases hread
  | _ => exact ⟨htenant, trivial, Bool.noConfusion, List.nil_subset _, List.nil_subset _⟩

theorem StoreCall.LooksFor.valid {tenant : TenantId} {c : StoreCall} (hc : c.LooksFor tenant) :
    c.Valid := by
  cases c with
  | create | update | importAll => cases hc.2
  | _ => trivial

/-- The service may fail in all ways of its own, and in those of the store that are relied on. -/
structure ServiceError.Expected (rely : (c : StoreCall) → c.Answer → Prop)
    (fails : ServiceError → Prop) : Prop where
  storage : ∀ c e, rely c (.error e) → fails (.storage e)
  invalid : ∀ faults, fails (.invalid faults)
  refused : ∀ reason, fails (.refused reason)
  notFound : ∀ id, fails (.notFound id)

namespace Service

open ServiceProgram (Meets Obeys)

variable {rely : (c : StoreCall) → c.Answer → Prop} {fails : ServiceError → Prop}
  {tenant : TenantId} {systems : List Policy} {gate : Gate}

theorem faults_of_importMode {r : ImportRequest} {mode : ImportMode}
    (hmode : importMode r = .ok mode) : ∀ d ∈ r.policies, d.faults = [] := by
  have hnone (drafts : List PolicyDraft) (index : Nat) :
      (draftsFaults index drafts).isEmpty → ∀ d ∈ drafts, d.faults = [] := by
    induction drafts generalizing index with
    | nil => exact fun _ _ hd => absurd hd List.not_mem_nil
    | cons draft rest ih =>
      intro hempty
      rw [draftsFaults, List.isEmpty_iff, List.append_eq_nil_iff, List.map_eq_nil_iff] at hempty
      exact List.forall_mem_cons.2 ⟨hempty.1, ih (index + 1) (List.isEmpty_iff.2 hempty.2)⟩
  unfold importMode at hmode
  split at hmode
  · cases hmode
  split at hmode
  · cases hmode
  split at hmode
  · cases hmode
  split at hmode
  · rename_i hempty
    exact hnone r.policies 0 hempty
  · cases hmode

section Checks

variable (hexpected : ServiceError.Expected rely fails)

include hexpected

theorem meets_authorizeCreate (tier : PolicyTier) :
    Meets rely (StoreCall.LooksFor tenant) fails (fun _ => tier ≠ .system)
      (gate.authorizeCreate tenant tier) := by
  cases tier with
  | system => exact .throw (hexpected.refused _)
  | organization =>
    rw [Gate.authorizeCreate]
    split
    · exact .pure nofun
    · exact .throw (hexpected.refused _)
  | tenant =>
    rw [Gate.authorizeCreate]
    split
    · exact .pure nofun
    · refine .bind (.ask ⟨rfl, rfl⟩ (hexpected.storage _) fun count _ => .bind (.report ?_))
      split
      · exact .throw (hexpected.refused _)
      · exact .pure nofun

theorem meets_authorizeModify {id : PolicyId}
    (hshows : ∀ (c : StoreCall) (answer : c.Answer), rely c answer → c.Shows systems answer)
    (hsystems : ∀ p ∈ systems, p.isSystem) :
    Meets rely (StoreCall.LooksFor tenant) fails
      (fun _ => ∀ p ∈ systems, p.tenant = tenant → p.id ≠ id) (Gate.authorizeModify tenant id) := by
  refine .bind (.ask ⟨rfl, rfl⟩ (hexpected.storage _) ?_)
  intro found hfound
  have hshown := hshows _ _ hfound
  split
  · rename_i p
    split
    · exact .throw (hexpected.refused _)
    · rename_i hother
      refine .pure fun q hq htenant hid => hother ?_
      obtain rfl := Option.some.inj (Except.ok.inj (hshown q hq htenant hid))
      exact hsystems _ hq
  · refine .pure fun q hq htenant hid => ?_
    cases Except.ok.inj (hshown q hq htenant hid)

theorem meets_newNames (names : List String) (drafts : List PolicyDraft) :
    Meets rely (StoreCall.LooksFor tenant) fails
      (fun _ => ∀ d ∈ drafts, d.effectiveTier ≠ .system) (newNames gate tenant names drafts) := by
  induction drafts generalizing names with
  | nil => exact .pure (by simp)
  | cons draft rest ih =>
    have hrest (hdraft : draft.effectiveTier ≠ .system) (more : List String) :
        Meets rely (StoreCall.LooksFor tenant) fails
          (fun _ => ∀ d ∈ draft :: rest, d.effectiveTier ≠ .system)
          (newNames gate tenant more rest) :=
      (ih more).mono fun _ hothers => List.forall_mem_cons.2 ⟨hdraft, hothers⟩
    rw [newNames]
    split
    · rename_i htier
      refine .bind (.ask ⟨rfl, rfl⟩ (hexpected.storage _) fun existing _ => ?_)
      split
      · exact hrest (by rw [htier]; exact nofun) _
      · exact hrest (by rw [htier]; exact nofun) _
    · exact .bind ((meets_authorizeCreate hexpected _).mono fun _ htier => hrest htier names)

theorem meets_authorizeImport (drafts : List PolicyDraft) :
    Meets rely (StoreCall.LooksFor tenant) fails
      (fun _ => ∀ d ∈ drafts, d.effectiveTier ≠ .system) (authorizeImport gate tenant drafts) := by
  refine .bind ((meets_newNames hexpected [] drafts).mono fun names hdrafts => ?_)
  dsimp only
  split
  · refine .bind (.ask ⟨rfl, rfl⟩ (hexpected.storage _) fun held _ => ?_)
    split
    · exact .throw (hexpected.refused _)
    · exact .pure hdrafts
  · exact .pure hdrafts

end Checks

section Perform

variable {caller : Caller} {call : PolicyCall}

/-- What may be asked of the store for a call to the service, all of it checked. -/
def Asks (caller : Caller) (call : PolicyCall) (systems : List Policy) (c : StoreCall) : Prop :=
  c.Serves caller call systems ∧ c.Valid

theorem meets_look (hexpected : ServiceError.Expected rely fails) {c : StoreCall}
    {post : c.Result → Prop} (hc : c.LooksFor caller.tenant) (hpost : ∀ result, post result) :
    Meets rely (Asks caller call systems) fails post (ServiceProgram.ask c) :=
  .ask ⟨hc.serves, hc.valid⟩ (hexpected.storage c) fun result _ => hpost result

/-- What follows a check that only looks at policies may rely on what the check has made sure of. -/
theorem meets_check {α β : Type} {pre : α → Prop} {post : β → Prop} {p : ServiceProgram α}
    {f : α → ServiceProgram β} (hp : Meets rely (StoreCall.LooksFor caller.tenant) fails pre p)
    (hf : ∀ value, pre value → Meets rely (Asks caller call systems) fails post (f value)) :
    Meets rely (Asks caller call systems) fails post (p >>= f) :=
  .bind ((hp.of_may fun _ hc => ⟨hc.serves, hc.valid⟩).mono hf)

/-- Calls to the service ask only for what concerns their own tenant, leave policies of the system
alone, and change policies only by drafts and patches that are valid. -/
theorem meets_perform (hexpected : ServiceError.Expected rely fails)
    (hshows : ∀ (c : StoreCall) (answer : c.Answer), rely c answer → c.Shows systems answer)
    (hsystems : ∀ p ∈ systems, p.isSystem) (gate : Gate) (caller : Caller) (call : PolicyCall) :
    Meets rely (Asks caller call systems) fails (fun _ => True) (call.perform gate caller) := by
  cases call with
  | list query => exact .bind (meets_look hexpected ⟨rfl, rfl⟩ fun page => .pure trivial)
  | fetch id =>
    exact .bind (meets_look hexpected ⟨rfl, rfl⟩ fun found =>
      .orNotFound (hexpected.notFound id) fun _ => trivial)
  | exportAll =>
    exact .bind (meets_look hexpected ⟨rfl, rfl⟩ fun policies => .bind (.now fun _ => .pure trivial))
  | create draft =>
    refine .bind (.unlessFaulty (hexpected.invalid _) fun hvalid => ?_)
    refine meets_check (meets_authorizeCreate hexpected _) fun _ htier => ?_
    have hserves : (StoreCall.create caller.tenant draft caller.actor).Serves caller
        (.create draft) systems :=
      ⟨rfl, htier, fun _ => rfl, List.Subset.refl _, List.Subset.refl _⟩
    refine .bind (.ask ⟨hserves, hvalid⟩ (hexpected.storage _) fun p _ => ?_)
    exact .bind (.report (.pure trivial))
  | update id patch =>
    refine .bind (.unlessFaulty (hexpected.invalid _) fun hvalid => ?_)
    refine meets_check (meets_authorizeModify hexpected hshows hsystems) fun _ hspares => ?_
    have hserves : (StoreCall.update caller.tenant id patch caller.actor).Serves caller
        (.update id patch) systems :=
      ⟨rfl, hspares, Bool.noConfusion, List.Subset.refl _, List.Subset.refl _⟩
    refine .bind (.ask ⟨hserves, hvalid⟩ (hexpected.storage _) ?_)
    intro found _
    refine .bind (.orNotFound (hexpected.notFound id) fun p => ?_)
    exact .bind (.report (.pure trivial))
  | delete id =>
    refine meets_check (meets_authorizeModify hexpected hshows hsystems) fun _ hspares => ?_
    have hserves : (StoreCall.delete caller.tenant id caller.actor).Serves caller
        (.delete id) systems :=
      ⟨rfl, hspares, Bool.noConfusion, List.Subset.refl _, List.Subset.refl _⟩
    refine .bind (.ask ⟨hserves, trivial⟩ (hexpected.storage _) ?_)
    intro deleted _
    split
    · exact .report trivial
    · exact .throw (hexpected.notFound id)
  | tryOut id trial =>
    rw [PolicyCall.perform, tryOut]
    have htrial : Meets rely (Asks caller (.tryOut id trial) systems) fails (fun _ => True) (do
          let p ← fetch caller.tenant id
          reportAll (conditionEvents (trial.toRequest caller.tenant) 0 p.conditions)
          return p.tryOn (trial.toRequest caller.tenant)) := by
      refine .bind (.bind (meets_look hexpected ⟨rfl, rfl⟩ fun found => ?_))
      exact .orNotFound (hexpected.notFound id) fun p => .bind (.reportAll (.pure trivial))
    split
    · exact .bind (.throw (hexpected.invalid _))
    · exact htrial
  | history id =>
    refine .bind (meets_look hexpected ⟨rfl, rfl⟩ fun found => ?_)
    split
    · refine .bind (meets_look hexpected ⟨rfl, rfl⟩ fun p => ?_)
      exact .bind (.orNotFound (hexpected.notFound id) fun _ => .pure trivial)
    · exact .pure trivial
  | importAll request =>
    rw [PolicyCall.perform, importAll]
    split
    · exact .throw (hexpected.invalid _)
    · rename_i mode hmode
      refine meets_check (meets_authorizeImport hexpected _) fun _ hdrafts => ?_
      have hserves : (StoreCall.importAll caller.tenant request.policies mode
          caller.actor).Serves caller (.importAll request) systems :=
        ⟨rfl, hdrafts, fun _ => rfl, List.Subset.refl _, List.Subset.refl _⟩
      refine .bind (.ask ⟨hserves, faults_of_importMode hmode⟩
        (hexpected.storage _) fun done _ => ?_)
      exact .bind (.report (.pure trivial))

theorem obeys_perform (hsystems : ∀ p ∈ systems, p.isSystem) (gate : Gate) (caller : Caller)
    (call : PolicyCall) :
    Obeys (StoreCall.Shows systems) (StoreCall.Serves caller call systems) (fun _ => True)
      (call.perform gate caller) := by
  have hexpected : ServiceError.Expected (StoreCall.Shows systems) fun _ => True :=
    ⟨fun _ _ _ => trivial, fun _ => trivial, fun _ => trivial, fun _ => trivial⟩
  exact (meets_perform hexpected (fun _ _ h => h) hsystems gate caller call).of_may
    fun _ hc => hc.1

end Perform

end Service

/-- What every call of the store keeps that a call to the service may need, the call to the service
keeps. -/
theorem PolicyCall.ensures_serve {P : MemoryStore → Prop} {caller : Caller} {call : PolicyCall}
    (hstep : ∀ c s, StoreCall.Serves caller call [] c → P s →
      (MemoryStore.answer c).Ensures s fun _ s' => P s')
    (gate : Gate) {s : MemoryStore} (hs : P s) :
    (call.serve gate caller).Ensures s fun _ s' => P s' := by
  have hobeys := Service.obeys_perform (fun _ hp => absurd hp List.not_mem_nil) gate caller call
  refine Service.ensures_run (fun c s hc hs => ?_) hobeys hs
  exact (hstep c s hc hs).mono fun answer _ hs' => ⟨c.shows_nil answer, hs'⟩

end Governance
