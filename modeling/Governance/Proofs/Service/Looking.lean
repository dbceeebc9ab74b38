import Governance.Proofs.Program.Obeying
import Governance.Proofs.Store.Isolation
import Governance.Service.Basic

/-!
# How the service runs

What computations of the service ensure over a store in memory, and what they see before they change
anything.
-/

namespace Governance.Service

/-!
## Running the service over a store in memory

What a computation of the service ensures follows from what its parts do, in their order: a part that
fails ends it, and what is only reported leaves the store alone.
-/

open ServiceProgram
open Acting (Ensures)

variable {α β : Type} {p : ServiceProgram α} {f : α → ServiceProgram β} {s : MemoryStore}

theorem run_bind (p : ServiceProgram α) (f : α → ServiceProgram β) :
    run (p >>= f) = run p >>= fun
      | .ok value => run (f value)
      | .error e => pure (.error e) := by
  unfold run
  rw [ExceptT.run_bind, Program.run_bind]
  congr 1
  funext answer
  cases answer <;> rfl

theorem ensures_pure {post : Except ServiceError α → MemoryStore → Prop} {value : α}
    (hpost : post (.ok value) s) : (run (pure value)).Ensures s post :=
  .pure hpost

theorem ensures_throw {post : Except ServiceError α → MemoryStore → Prop} {e : ServiceError}
    (hpost : post (.error e) s) : (run (throw e)).Ensures s post :=
  .pure hpost

theorem ensures_bind {post : Except ServiceError β → MemoryStore → Prop}
    (hp : (run p).Ensures s fun
      | .ok value, s' => (run (f value)).Ensures s' post
      | .error e, s' => post (.error e) s') :
    (run (p >>= f)).Ensures s post := by
  rw [run_bind]
  refine .bind (hp.mono ?_)
  rintro (e | value) s' h
  · exact .pure h
  · exact h

theorem ensures_bind_any {post : Except ServiceError β → MemoryStore → Prop}
    (hf : ∀ value s', (run (f value)).Ensures s' post) (herror : ∀ e s', post (.error e) s') :
    (run (p >>= f)).Ensures s post := by
  refine ensures_bind fun a => ?_
  cases ((run p).run s a).1.1 with
  | ok value => exact hf value _
  | error e => exact herror e _

theorem ensures_ask {c : StoreCall} {post : Except ServiceError c.Result → MemoryStore → Prop}
    (hc : (MemoryStore.answer c).Ensures s fun
      | .ok result, s' => post (.ok result) s'
      | .error e, s' => post (.error (.storage e)) s') :
    (run (ask c)).Ensures s post := by
  refine .bind (hc.mono ?_)
  rintro (e | result) s' h
  · exact .pure h
  · exact .pure h

/-- What is only looked up does not change the store. -/
theorem ensures_look_bind {c : StoreCall} {result : c.Result} {f : c.Result → ServiceProgram β}
    {post : Except ServiceError β → MemoryStore → Prop}
    (hc : ∀ a, (MemoryStore.answer c).run s a = ((.ok result, s), a))
    (hf : (run (f result)).Ensures s post) : (run (ask c >>= f)).Ensures s post := by
  refine ensures_bind (ensures_ask fun a => ?_)
  rw [hc]
  exact hf

theorem ensures_report {post : Except ServiceError Unit → MemoryStore → Prop} {level : Level}
    {message : String} {fields : List (String × Json)} (hpost : post (.ok ()) s) :
    (run (report level message fields)).Ensures s post :=
  fun _ => hpost

theorem ensures_reportAll {post : Except ServiceError Unit → MemoryStore → Prop}
    {events : List Event} (hpost : post (.ok ()) s) :
    (run (reportAll events)).Ensures s post := by
  induction events with
  | nil => exact ensures_pure hpost
  | cons e rest ih => exact ensures_bind (ensures_report ih)

theorem ensures_unlessFaulty {post : Except ServiceError Unit → MemoryStore → Prop}
    {faults : List FieldFault} (hfaulty : faults ≠ [] → post (.error (.invalid faults)) s)
    (hnone : faults = [] → post (.ok ()) s) : (run (unlessFaulty faults)).Ensures s post := by
  cases faults with
  | nil => exact ensures_pure (hnone rfl)
  | cons fault rest => exact ensures_throw (hfaulty (List.cons_ne_nil _ _))

theorem ensures_orNotFound {post : Except ServiceError α → MemoryStore → Prop} {id : PolicyId}
    {found : Option α} (hsome : ∀ value, found = some value → post (.ok value) s)
    (hnone : found = none → post (.error (.notFound id)) s) :
    (run (orNotFound id found)).Ensures s post := by
  cases found with
  | none => exact ensures_throw (hnone rfl)
  | some value => exact ensures_pure (hsome value rfl)

end Governance.Service

namespace Governance

/-!
## Looking before anything is changed

Before the service changes anything it looks: at the policy with an identifier or a name, and at how
many policies there are. Looking neither changes the store nor draws from the surroundings, so what is
found is the same whenever it is looked for, and the same in stores that agree for the tenant. An
answer is then made of what was found, or of the answer of the store to the write that follows.
-/

namespace Service

open ServiceProgram

variable {α β : Type} {p : ServiceProgram α} {f : α → ServiceProgram β} {s s' : MemoryStore}

-- A name of its own, so that unification does not run the computation.
/-- What a computation of the service answers. -/
def answered (p : ServiceProgram α) (s : MemoryStore) (a : Ambient) : Except ServiceError α :=
  ((run p).run s a).1.1

/-! ### Looking -/

/-- Whatever the surroundings are, a computation of the service has that result, and neither changes
the store nor draws anything. -/
def Finds (p : ServiceProgram α) (s : MemoryStore) (result : Except ServiceError α) : Prop :=
  ∀ a, ∃ a', (run p).run s a = ((result, s), a') ∧ a'.draws = a.draws

theorem finds_pure (value : α) (s : MemoryStore) : Finds (pure value) s (.ok value) :=
  fun a => ⟨a, rfl, rfl⟩

theorem finds_throw (e : ServiceError) (s : MemoryStore) :
    Finds (throw e : ServiceProgram α) s (.error e) :=
  fun a => ⟨a, rfl, rfl⟩

theorem finds_report (level : Level) (message : String) (fields : List (String × Json))
    (s : MemoryStore) : Finds (report level message fields) s (.ok ()) :=
  fun _ => ⟨_, rfl, rfl⟩

theorem finds_bind {value : α} {result : Except ServiceError β} (hp : Finds p s (.ok value))
    (hf : Finds (f value) s result) : Finds (p >>= f) s result := by
  intro a
  obtain ⟨a₁, hfirst, hdraws⟩ := hp a
  obtain ⟨a', hsecond, hdraws'⟩ := hf a₁
  refine ⟨a', ?_, hdraws'.trans hdraws⟩
  rw [run_bind, Acting.run_bind hfirst]
  exact hsecond

theorem finds_bind_error {e : ServiceError} (hp : Finds p s (.error e)) :
    Finds (p >>= f) s (.error e) := by
  intro a
  obtain ⟨a', hfirst, hdraws⟩ := hp a
  refine ⟨a', ?_, hdraws⟩
  rw [run_bind, Acting.run_bind hfirst]
  rfl

theorem finds_ask {c : StoreCall} {result : c.Result}
    (hc : ∀ a, (MemoryStore.answer c).run s a = ((.ok result, s), a)) :
    Finds (ask c) s (.ok result) := by
  intro a
  refine ⟨a, ?_, rfl⟩
  exact Acting.run_bind (hc a)

/-- A computation finds the same in both stores. -/
def FindsSame (p : ServiceProgram α) (s s' : MemoryStore) : Prop :=
  ∃ result, Finds p s result ∧ Finds p s' result

namespace FindsSame

theorem pure (value : α) : FindsSame (pure value) s s' :=
  ⟨.ok value, finds_pure value s, finds_pure value s'⟩

theorem throw (e : ServiceError) : FindsSame (throw e : ServiceProgram α) s s' :=
  ⟨.error e, finds_throw e s, finds_throw e s'⟩

theorem report (level : Level) (message : String) (fields : List (String × Json)) :
    FindsSame (report level message fields) s s' :=
  ⟨.ok (), finds_report level message fields s, finds_report level message fields s'⟩

theorem bind (hp : FindsSame p s s') (hf : ∀ value, FindsSame (f value) s s') :
    FindsSame (p >>= f) s s' := by
  obtain ⟨e | value, hfirst, hfirst'⟩ := hp
  · exact ⟨.error e, finds_bind_error hfirst, finds_bind_error hfirst'⟩
  · obtain ⟨result, hsecond, hsecond'⟩ := hf value
    exact ⟨result, finds_bind hfirst hsecond, finds_bind hfirst' hsecond'⟩

theorem ask {c : StoreCall} {result result' : c.Result} (hsame : result = result')
    (hc : ∀ a, (MemoryStore.answer c).run s a = ((.ok result, s), a))
    (hc' : ∀ a, (MemoryStore.answer c).run s' a = ((.ok result', s'), a)) :
    FindsSame (ask c) s s' := by
  subst hsame
  exact ⟨.ok result, finds_ask hc, finds_ask hc'⟩

theorem unlessFaulty (faults : List FieldFault) : FindsSame (unlessFaulty faults) s s' := by
  unfold Service.unlessFaulty
  split
  · exact .pure ()
  · exact .throw _

end FindsSame

section Checks

variable {gate : Gate} {tenant : TenantId}
  (hagrees : s.contents.AgreesFor tenant s'.contents) (hs : s.contents.Indexed)
  (hs' : s'.contents.Indexed)

include hagrees hs hs'

theorem findsSame_get (id : PolicyId) : FindsSame (ask (.get tenant id)) s s' :=
  .ask (hagrees.owned_eq hs hs' id) (fun _ => rfl) fun _ => rfl

theorem findsSame_count : FindsSame (ask (.countTenantTier tenant)) s s' :=
  .ask (hagrees.length_filter_eq hs hs' _) (fun _ => rfl) fun _ => rfl

omit hs hs' in
theorem findsSame_findByName (name : String) : FindsSame (ask (.findByName tenant name)) s s' :=
  .ask (hagrees.policies.find_eq name) (fun _ => rfl) fun _ => rfl

theorem findsSame_authorizeCreate (tier : PolicyTier) :
    FindsSame (gate.authorizeCreate tenant tier) s s' := by
  cases tier with
  | system => exact .throw _
  | organization =>
    unfold Gate.authorizeCreate
    dsimp only
    split
    · exact .pure ()
    · exact .throw _
  | tenant =>
    unfold Gate.authorizeCreate
    dsimp only
    split
    · exact .pure ()
    · refine .bind (findsSame_count hagrees hs hs') fun count => .bind (.report _ _ _) fun _ => ?_
      split
      · exact .throw _
      · exact .pure ()

theorem findsSame_authorizeModify (id : PolicyId) :
    FindsSame (Gate.authorizeModify tenant id) s s' := by
  refine .bind (findsSame_get hagrees hs hs' id) fun found => ?_
  cases found with
  | none => exact .pure ()
  | some p =>
    dsimp only
    split
    · exact .throw _
    · exact .pure ()

theorem findsSame_newNames (names : List String) (drafts : List PolicyDraft) :
    FindsSame (newNames gate tenant names drafts) s s' := by
  induction drafts generalizing names with
  | nil => exact .pure names
  | cons draft rest ih =>
    rw [newNames]
    split
    · refine .bind (findsSame_findByName hagrees draft.name) fun existing => ?_
      split
      · exact ih _
      · exact ih _
    · exact .bind (findsSame_authorizeCreate hagrees hs hs' _) fun _ => ih _

theorem findsSame_authorizeImport (drafts : List PolicyDraft) :
    FindsSame (authorizeImport gate tenant drafts) s s' := by
  refine .bind (findsSame_newNames hagrees hs hs' [] drafts) fun found => ?_
  dsimp only
  split
  · refine .bind (findsSame_count hagrees hs hs') fun held => ?_
    split
    · exact .throw _
    · exact .pure ()
  · exact .pure ()

end Checks

/-! ### Writing -/

theorem FindsSame.bind_answered {R : Except ServiceError β → Except ServiceError β → Prop}
    {a a' : Ambient} (hp : FindsSame p s s') (herror : ∀ e, R (.error e) (.error e))
    (hf : ∀ value b b', b.draws = a.draws → b'.draws = a'.draws →
      R (answered (f value) s b) (answered (f value) s' b')) :
    R (answered (p >>= f) s a) (answered (p >>= f) s' a') := by
  obtain ⟨result, hfirst, hfirst'⟩ := hp
  obtain ⟨b, hb, hdraws⟩ := hfirst a
  obtain ⟨b', hb', hdraws'⟩ := hfirst' a'
  rw [answered, answered, run_bind, Acting.run_bind hb, Acting.run_bind hb']
  cases result with
  | error e => exact herror e
  | ok value => exact hf value b b' hdraws hdraws'

theorem run_ask_bind {c : StoreCall} {f : c.Result → ServiceProgram β}
    {g : c.Result → Except ServiceError β} (hf : ∀ result t, Finds (f result) t (g result))
    (s : MemoryStore) (a : Ambient) : ((run (ask c >>= f)).run s a).1 =
      (((MemoryStore.answer c).run s a).1.1.mapError .storage >>= g,
        ((MemoryStore.answer c).run s a).1.2) := by
  obtain ⟨⟨answer, t⟩, b, hanswer⟩ : ∃ r b, (MemoryStore.answer c).run s a = (r, b) := ⟨_, _, rfl⟩
  rw [hanswer, run_bind]
  cases answer with
  | error e =>
    have hask : (run (ask c)).run s a = ((.error (.storage e), t), b) := Acting.run_bind hanswer
    rw [Acting.run_bind hask]
    rfl
  | ok result =>
    have hask : (run (ask c)).run s a = ((.ok result, t), b) := Acting.run_bind hanswer
    obtain ⟨_, hrest, _⟩ := hf result t b
    rw [Acting.run_bind hask]
    exact congrArg Prod.fst hrest

theorem answered_ask_bind {c : StoreCall} {f : c.Result → ServiceProgram β}
    {g : c.Result → Except ServiceError β} (hf : ∀ result t, Finds (f result) t (g result))
    (s : MemoryStore) (a : Ambient) : answered (ask c >>= f) s a =
      match ((MemoryStore.answer c).run s a).1.1 with
      | .ok result => g result
      | .error e => .error (.storage e) := by
  rw [answered, run_ask_bind hf]
  cases ((MemoryStore.answer c).run s a).1.1 with
  | ok result => rfl
  | error e => rfl

end Service

end Governance
