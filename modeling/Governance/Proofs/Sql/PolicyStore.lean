import Governance.Proofs.Program.Obeying
import Governance.Proofs.Program.Runs
import Governance.Proofs.Sql.PolicyRows
import Governance.Proofs.Store.Edits

/-!
# Rows that come in and rows that are loaded

Rows come into the table of policies when policies are created or imported, and every one of them is the
row of a policy that was made of a draft, with an identifier that was drawn if the draft asks for none.
Whatever else calls do to the database, they add no other rows. The calls that load the policies of a
tenant give back what stands in the rows, or fail as soon as one of them cannot be read back.
-/

namespace Governance.Sql

/-- The row that a call adds to the table of policies. -/
def Call.addedRow? : Call → Option Row
  | .execute (.insert table row) | .within _ (.insert table row) =>
    if table.name = policyTable.name then some row else none
  | _ => none

/-- A row shows a policy that was made of one of the drafts. -/
def Row.ShowsOneOf (tenant : TenantId) (drafts : List PolicyDraft) (row : Row) : Prop :=
  ∃ d ∈ drafts, ∃ (u : Uuid) (actor : String) (now : Instant) (p : Policy),
    d.toPolicy ⟨u.render⟩ tenant actor now = .ok p ∧ row = PolicyTable.rowOf p

/-- A call adds no other row than that of a policy that was made of one of the drafts. -/
def Call.AddsOnly (tenant : TenantId) (drafts : List PolicyDraft) (c : Call) : Prop :=
  ∀ row, c.addedRow? = some row → row.ShowsOneOf tenant drafts

theorem Call.addsOnly_of_none {tenant : TenantId} {drafts : List PolicyDraft} {c : Call}
    (hnone : c.addedRow? = none) : c.AddsOnly tenant drafts := by
  intro row hrow
  rw [hnone] at hrow
  cases hrow

namespace PolicyStore

open PolicyTable

variable {α β : Type} {tenant : TenantId} {drafts : List PolicyDraft}

/-! ### What is added -/

/-- All calls of a computation add only rows of policies that were made of the drafts. -/
def Adds (tenant : TenantId) (drafts : List PolicyDraft) (p : SqlProgram α) : Prop :=
  p.Obeys (I := sqlInterface) (fun _ _ => True) (Call.AddsOnly tenant drafts) fun _ => True

namespace Adds

theorem pure (value : α) : Adds tenant drafts (pure value) := trivial

theorem ask {c : Call} (hc : c.AddsOnly tenant drafts) : Adds tenant drafts (ask c) :=
  ⟨hc, fun _ _ => trivial⟩

theorem bind {p : SqlProgram α} {f : α → SqlProgram β} (hp : Adds tenant drafts p)
    (hf : ∀ value, Adds tenant drafts (f value)) : Adds tenant drafts (p >>= f) :=
  Program.Obeys.bind (Program.Obeys.mono (fun value _ => hf value) hp)

theorem fresh_bind {f : PolicyId → SqlProgram β}
    (hf : ∀ u : Uuid, Adds tenant drafts (f ⟨u.render⟩)) : Adds tenant drafts (freshId >>= f) :=
  ⟨Call.addsOnly_of_none rfl, fun u _ => hf u⟩

theorem fresh_bind_except {f : PolicyId → Stored β}
    (hf : ∀ u : Uuid, Adds tenant drafts (f ⟨u.render⟩).run) :
    Adds tenant drafts (ExceptT.lift freshId >>= f : Stored β).run :=
  ⟨Call.addsOnly_of_none rfl, fun u _ => hf u⟩

theorem bind_except {x : Stored α} {f : α → Stored β} (hx : Adds tenant drafts x.run)
    (hf : ∀ value, Adds tenant drafts (f value).run) : Adds tenant drafts (x >>= f).run := by
  rw [ExceptT.run_bind]
  refine hx.bind fun result => ?_
  cases result with
  | ok value => exact hf value
  | error e => exact .pure _

theorem lift {p : SqlProgram α} (hp : Adds tenant drafts p) :
    Adds tenant drafts (ExceptT.lift p : Stored α).run :=
  hp.bind fun _ => .pure _

theorem reading {c : Call} {read : c.Answer → Except StoreError α}
    (hc : c.AddsOnly tenant drafts) : Adds tenant drafts (reading c read).run :=
  (ask hc).bind fun _ => .pure _

theorem reading_none {c : Call} {read : c.Answer → Except StoreError α} (hnone : c.addedRow? = none) :
    Adds tenant drafts (PolicyStore.reading c read).run :=
  reading (Call.addsOnly_of_none hnone)

theorem ask_none {c : Call} (hnone : c.addedRow? = none) : Adds tenant drafts (Sql.ask c) :=
  ask (Call.addsOnly_of_none hnone)

/-- In whatever way a computation runs, every row that it adds is one of those. -/
theorem of_runs {fragile : Call → Prop} {p : SqlProgram α} {trace : List (Exchange sqlInterface)}
    {outcome : Option α} (hp : Adds tenant drafts p) (hrun : Program.Runs fragile p trace outcome) :
    ∀ x ∈ trace, Call.AddsOnly tenant drafts x.call := by
  induction hrun with
  | done value => exact fun x hx => absurd hx List.not_mem_nil
  | unanswered next hfragile =>
    intro x hx
    obtain rfl := List.mem_singleton.1 hx
    exact hp.1
  | answered answer hrest ih =>
    intro x hx
    rcases List.mem_cons.1 hx with rfl | hlater
    · exact hp.1
    · exact ih (hp.2 answer trivial) x hlater

end Adds

theorem adds_record (actor : String) (c : Change) : Adds tenant drafts (record actor c) := by
  refine (Adds.ask_none rfl).bind fun id => (Adds.ask_none rfl).bind fun now => ?_
  refine (Adds.ask_none rfl).bind fun outcome => ?_
  split
  · exact .pure ()
  · exact .ask_none rfl

theorem adds_recordAll (actor : String) (changes : List Change) :
    Adds tenant drafts (recordAll actor changes) := by
  induction changes with
  | nil => exact .pure ()
  | cons c rest ih => exact (adds_record actor c).bind fun _ => ih

theorem addsOnly_insertion {draft : PolicyDraft} (hdraft : draft ∈ drafts) {u : Uuid}
    {actor : String} {now : Instant} {p : Policy}
    (hp : draft.toPolicy ⟨u.render⟩ tenant actor now = .ok p) :
    (Call.execute (insertion p)).AddsOnly tenant drafts ∧
      ∀ t, (Call.within t (insertion p)).AddsOnly tenant drafts := by
  have hrow : (rowOf p).ShowsOneOf tenant drafts := ⟨draft, hdraft, u, actor, now, p, hp, rfl⟩
  constructor
  · rintro row ⟨⟩
    exact hrow
  · rintro t row ⟨⟩
    exact hrow

theorem adds_leaveWith (t : Transaction) (outcome : Except StoreError α) :
    Adds tenant drafts (leaveWith t outcome).run :=
  .reading_none rfl

theorem adds_create {draft : PolicyDraft} (hdraft : draft ∈ drafts) (actor : String) :
    Adds tenant drafts (create tenant draft actor).run := by
  refine .fresh_bind_except fun u => .bind_except (.lift (.ask_none rfl)) fun now => ?_
  split
  · exact .pure _
  · rename_i p hp
    refine .bind_except (.reading_none rfl) fun _ => ?_
    refine .bind_except (.reading (addsOnly_insertion hdraft hp).1) fun _ => ?_
    refine .bind_except (.lift (.ask_none rfl)) fun _ => ?_
    exact .bind_except (.lift (adds_record actor _)) fun _ => .pure _

theorem adds_fetch (id : PolicyId) : Adds tenant drafts (fetch tenant id).run :=
  .bind_except (.reading_none rfl) fun _ => .reading_none rfl

theorem adds_update (id : PolicyId) (patch : PolicyPatch) (actor : String) :
    Adds tenant drafts (update tenant id patch actor).run := by
  refine .bind_except (.reading_none rfl) fun t => ?_
  refine .bind_except (.lift (.ask_none rfl)) fun answered => ?_
  obtain ⟨outcome, t⟩ := answered
  dsimp only
  split
  · exact adds_leaveWith t _
  · exact adds_leaveWith t _
  · split
    · exact adds_leaveWith t _
    · refine .bind_except (.lift (.ask_none rfl)) fun now => ?_
      refine .bind_except (.bind_except (.lift (.ask_none rfl)) fun saving => ?_) fun _ => ?_
      · obtain ⟨outcome, t⟩ := saving
        dsimp only
        split
        · exact adds_leaveWith t _
        · exact .reading_none rfl
      refine .bind_except (.lift (.ask_none rfl)) fun _ => ?_
      exact .bind_except (.lift (adds_record actor _)) fun _ => .pure _

theorem adds_delete (id : PolicyId) (actor : String) :
    Adds tenant drafts (delete tenant id actor).run := by
  refine .bind_except (adds_fetch id) fun found => ?_
  split
  · exact .pure _
  · refine .bind_except (.lift (adds_record actor _)) fun _ => ?_
    refine .bind_except (.reading_none rfl) fun _ => ?_
    exact .bind_except (.lift (.ask_none rfl)) fun _ => .pure _

theorem adds_list (l : Listing) : Adds tenant drafts (list tenant l).run :=
  .bind_except (.reading_none rfl) fun _ => .bind_except (.reading_none rfl) fun _ => .pure _

/-! ### What an import adds -/

theorem adds_importWithin {draft : PolicyDraft} (hdraft : draft ∈ drafts) (t : Transaction)
    (mode : ImportMode) (actor : String) :
    Adds tenant drafts (importWithin t tenant mode actor draft) := by
  refine (Adds.ask_none rfl).bind fun answered => ?_
  obtain ⟨outcome, t⟩ := answered
  dsimp only
  split
  · exact .pure _
  · exact .pure _
  · exact .pure _
  · rename_i p
    rw [replace]
    split
    · exact .pure _
    · refine (Adds.ask_none rfl).bind fun now => (Adds.ask_none rfl).bind fun answered => ?_
      obtain ⟨outcome, t⟩ := answered
      dsimp only
      split
      · exact .pure _
      · exact .pure _
  · refine .fresh_bind fun u => (Adds.ask_none rfl).bind fun now => ?_
    split
    · exact .pure _
    · rename_i p hp
      refine (Adds.ask ((addsOnly_insertion hdraft hp).2 t)).bind fun answered => ?_
      obtain ⟨outcome, t⟩ := answered
      dsimp only
      split
      · exact .pure _
      · exact .pure _

theorem adds_importOne {draft : PolicyDraft} (hdraft : draft ∈ drafts) (t : Transaction)
    (mode : ImportMode) (actor : String) :
    Adds tenant drafts (importOne t tenant mode actor draft) := by
  refine (Adds.ask_none rfl).bind fun marked => ?_
  split
  · exact .pure _
  · refine (adds_importWithin hdraft _ mode actor).bind fun imported => ?_
    obtain ⟨imported, t⟩ := imported
    refine (Adds.ask_none rfl).bind fun settled => ?_
    split
    · exact .pure _
    · exact (Adds.ask_none rfl).bind fun _ => .pure _

theorem adds_importEach {rest : List PolicyDraft} (hrest : rest ⊆ drafts) (t : Transaction)
    (mode : ImportMode) (actor : String) :
    Adds tenant drafts (importEach t tenant mode actor rest) := by
  induction rest generalizing t with
  | nil => exact .pure _
  | cons draft rest ih =>
    obtain ⟨hdraft, hrest⟩ := List.cons_subset.1 hrest
    refine (adds_importOne hdraft t mode actor).bind fun imported => ?_
    exact (ih hrest imported.2).bind fun _ => .pure _

/-- No call to the store adds another row to the table of policies than that of a policy which was made
of a draft of the call. -/
theorem adds_answer (c : StoreCall) : Adds c.tenant c.drafts (answer c) := by
  cases c with
  | create tenant draft actor => exact adds_create List.mem_cons_self actor
  | get tenant id => exact adds_fetch id
  | findByName => exact .bind_except (.reading_none rfl) fun _ => .reading_none rfl
  | list tenant l => exact adds_list l
  | update tenant id patch actor => exact adds_update id patch actor
  | delete tenant id actor => exact adds_delete id actor
  | exportAll => exact (adds_list .everything).bind fun _ => .pure _
  | countTenantTier | revisions | enabledPolicies => exact .reading_none rfl
  | importAll tenant drafts mode actor =>
    refine .bind_except (.reading_none rfl) fun t => ?_
    refine .bind_except (.lift (adds_importEach (List.Subset.refl _) t mode actor)) fun done => ?_
    refine .bind_except (.reading_none rfl) fun _ => ?_
    exact .bind_except (.lift (adds_recordAll actor _)) fun _ => .pure _

/-! ### Loading the policies of a tenant -/

/-- A database that answers with the rows of these policies gives them back, if all of them can be read
back, to each call that loads policies of a tenant. -/
structure Loads (policies : List Policy) : Prop where
  enabled : ∀ (tenant : TenantId) (answers : (c : Call) → c.Answer) (affected : Nat),
    answers (.execute (enabledOf tenant)) = .ok ⟨policies.map rowOf, affected⟩ →
    ((answer (.enabledPolicies tenant)).replay answers).2 = allReadBack policies
  listed : ∀ (tenant : TenantId) (l : Listing) (answers : (c : Call) → c.Answer)
    (affected total : Nat),
    counted (answers (.execute (listingCount tenant l))) = .ok total →
    answers (.execute (listingPage tenant l)) = .ok ⟨policies.map rowOf, affected⟩ →
    ((answer (.list tenant l)).replay answers).2 = (allReadBack policies).map (⟨·, total⟩)
  exported : ∀ (tenant : TenantId) (answers : (c : Call) → c.Answer) (affected total : Nat),
    counted (answers (.execute (listingCount tenant .everything))) = .ok total →
    answers (.execute (listingPage tenant .everything)) = .ok ⟨policies.map rowOf, affected⟩ →
    ((answer (.exportAll tenant)).replay answers).2 = allReadBack policies

section Loading

variable {policies : List Policy} {answers : (c : Call) → c.Answer} {tenant : TenantId}
  {affected : Nat}

theorem list_of_loaded {l : Listing} {total : Nat} {read : Except StoreError (List Policy)}
    (hcount : counted (answers (.execute (listingCount tenant l))) = .ok total)
    (hread : loaded "list policies" ofRow (answers (.execute (listingPage tenant l))) = read) :
    ((list tenant l).run.replay answers).2 = read.map (⟨·, total⟩) := by
  have htotal : ((reading (.execute (listingCount tenant l)) counted).run.replay answers).2 =
      .ok total := hcount
  have hpage : ((reading (.execute (listingPage tenant l))
      (loaded "list policies" ofRow)).run.replay answers).2 = read := hread
  rw [list, ExceptT.run_bind, Program.replay_bind, htotal]
  dsimp only
  rw [ExceptT.run_bind, Program.replay_bind, hpage]
  cases read <;> rfl

theorem loads_of_canonical (hcanonical : ∀ p ∈ policies, p.IsCanonical)
    (htenants : ∀ p ∈ policies, p.tenant.isUsable) : Loads policies := by
  have hloaded (purpose : String) (affected : Nat) :
      loaded purpose ofRow (.ok ⟨policies.map rowOf, affected⟩) = allReadBack policies :=
    loaded_rowsOf hcanonical htenants purpose affected
  constructor
  · intro tenant answers affected hrows
    change loaded "load policies" ofRow (answers (.execute (enabledOf tenant))) = _
    rw [hrows]
    exact hloaded _ affected
  · intro tenant l answers affected total hcount hrows
    exact list_of_loaded hcount (hrows ▸ hloaded _ affected)
  · intro tenant answers affected total hcount hrows
    have hlist := list_of_loaded hcount (hrows ▸ hloaded _ affected)
    change ((do return (← (list tenant .everything).run).map (·.items) :
      SqlProgram (Except StoreError (List Policy))).replay answers).2 = _
    rw [Program.replay_bind, hlist]
    cases allReadBack policies <;> rfl

end Loading

end PolicyStore

end Governance.Sql
