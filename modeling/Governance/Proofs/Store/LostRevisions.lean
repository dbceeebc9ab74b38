import Governance.Proofs.Store.Imports

/-!
# Stores that lose revisions

Whether a revision can be recorded decides nothing but what the histories show. What a call answers and
what it makes of the policies is decided by the policies, and so are the revisions that it writes; a
history goes on with those of them that are not lost.

A revision that is lost draws neither an identifier nor a time, so a store over one clock would go on
differently for having lost one. To tell apart what the loss does and what the clock does, every part of a
call finds surroundings of its own here: each draft of an import, and any other call as a whole.
`answer_eq_answerIn` says that stores answer like that.
-/

namespace Governance

/-! ## What histories show of what was written -/

section Showing

variable {ι κ : Type}

/-- Of revisions that were written at some places, those under an identifier that were not lost. -/
def unlost (loses : ι → Bool) (written : List (ι × Revision)) (id : PolicyId) : List Revision :=
  (written.filter fun w => !loses w.1 && w.2.policy = id).map (·.2)

/-- Every history has gone on with what was written and not lost. -/
def StoreContents.Continues (s' s : StoreContents) (loses : ι → Bool)
    (written : List (ι × Revision)) : Prop :=
  ∀ id, s'.history id = s.history id ++ unlost loses written id

variable {loses loses' : ι → Bool} {written more : List (ι × Revision)} {id : PolicyId}
  {s s' s'' : StoreContents}

theorem unlost_sublist (hloses : ∀ w ∈ written, loses' w.1 → loses w.1) :
    (unlost loses written id).Sublist (unlost loses' written id) := by
  have hfewer : (written.filter fun w => !loses w.1 && w.2.policy = id) =
      (written.filter fun w => !loses' w.1 && w.2.policy = id).filter fun w => !loses w.1 := by
    rw [List.filter_filter]
    apply List.filter_congr
    intro w hw
    have hlost := hloses w hw
    cases hfirst : loses w.1 <;> cases hsecond : loses' w.1 <;> simp_all
  rw [unlost, hfewer]
  exact List.filter_sublist.map _

theorem unlost_map (f : κ → ι) (written : List (κ × Revision)) :
    unlost loses (written.map fun w => (f w.1, w.2)) id = unlost (fun k => loses (f k)) written id := by
  rw [unlost, List.filter_map, List.map_map]
  rfl

namespace StoreContents.Continues

theorem refl (s : StoreContents) (loses : ι → Bool) : s.Continues s loses [] := by
  intro id
  exact (List.append_nil _).symm

theorem trans (hfirst : s'.Continues s loses written) (hsecond : s''.Continues s' loses more) :
    s''.Continues s loses (written ++ more) := by
  intro id
  rw [hsecond id, hfirst id, unlost, unlost, unlost, List.filter_append, List.map_append,
    List.append_assoc]

theorem map {written : List (κ × Revision)} (f : κ → ι)
    (hcontinues : s'.Continues s (fun k => loses (f k)) written) :
    s'.Continues s loses (written.map fun w => (f w.1, w.2)) := by
  intro id
  rw [hcontinues id, unlost_map]

theorem sublist (hfirst : s'.Continues s loses written) (hsecond : s''.Continues s loses' written)
    (hloses : ∀ w ∈ written, loses' w.1 → loses w.1) (id : PolicyId) :
    (s'.history id).Sublist (s''.history id) := by
  rw [hfirst id, hsecond id]
  exact (List.Sublist.refl _).append (unlost_sublist hloses)

end StoreContents.Continues

end Showing

/-! ## Computations that do not heed losses -/

/-- What a part of a run does: its value, the policies that it leaves, and the revision that it writes
if it writes one. -/
structure Effect (α : Type) where
  value : α
  policies : Keyed PolicyId Policy
  revision : Option Revision

/-- Contents with one more revision, unless there is none or it is lost. -/
def StoreContents.noting (s : StoreContents) (loses : Bool) : Option Revision → StoreContents
  | some r => if loses then s else s.append r.policy r
  | none => s

namespace Effect

variable {α : Type}

def on (e : Effect α) (histories : Keyed PolicyId (List Revision)) (loses rejects : Bool) :
    α × MemoryStore :=
  (e.value, ⟨(StoreContents.mk e.policies histories).noting loses e.revision, loses, rejects⟩)

def written (e : Effect α) : List (Nat × Revision) := e.revision.toList.map fun r => (0, r)

theorem policies_on (e : Effect α) (histories : Keyed PolicyId (List Revision))
    (loses rejects : Bool) : (e.on histories loses rejects).2.contents.policies = e.policies := by
  obtain ⟨value, policies, _ | r⟩ := e
  · rfl
  · cases loses <;> rfl

theorem continues_on (e : Effect α) (policies : Keyed PolicyId Policy)
    (histories : Keyed PolicyId (List Revision)) (loses : Nat → Bool) (rejects : Bool) :
    (e.on histories (loses 0) rejects).2.contents.Continues ⟨policies, histories⟩ loses e.written := by
  intro id
  obtain ⟨value, policies', _ | r⟩ := e
  · exact (List.append_nil _).symm
  · cases hloses : loses 0 with
    | true => simp [on, written, StoreContents.noting, unlost, hloses, StoreContents.history]
    | false =>
      change ((StoreContents.mk policies' histories).append r.policy r).history id =
        (StoreContents.mk policies' histories).history id ++ unlost loses [(0, r)] id
      rw [StoreContents.history_append]
      by_cases hid : r.policy = id <;> simp [unlost, hloses, hid]

end Effect

/-- A call that is answered with a history. -/
def StoreCall.asksHistory : StoreCall → Bool
  | .revisions .. => true
  | _ => false

def StoreCall.isImport : StoreCall → Bool
  | .importAll .. => true
  | _ => false

namespace MemoryStore

variable {α β : Type} {policies : Keyed PolicyId Policy}

/-- A computation that sees and changes nothing but policies. -/
def Blind (x : Acting MemoryStore α) (policies : Keyed PolicyId Policy) : Prop :=
  ∀ a, ∃ value policies' a', ∀ histories loses rejects,
    x.run ⟨⟨policies, histories⟩, loses, rejects⟩ a =
      ((value, ⟨⟨policies', histories⟩, loses, rejects⟩), a')

/-- What a computation does is decided by the policies, whatever the histories are and whether or not
the revision that it writes is lost. -/
def Heedless (x : Acting MemoryStore α) (policies : Keyed PolicyId Policy) : Prop :=
  ∀ a, ∃ e : Effect α, ∀ histories loses rejects,
    (x.run ⟨⟨policies, histories⟩, loses, rejects⟩ a).1 = e.on histories loses rejects

/-- A store of which nothing but the policies is known. -/
def showing (policies : Keyed PolicyId Policy) : MemoryStore := ⟨⟨policies, .empty⟩, false, false⟩

namespace Blind

theorem pure (value : α) : Blind (pure value) policies := by
  intro a
  exact ⟨value, policies, a, fun _ _ _ => rfl⟩

theorem lift (x : StateM Ambient α) : Blind (StateT.lift x) policies := by
  intro a
  exact ⟨(x a).1, policies, (x a).2, fun _ _ _ => rfl⟩

theorem change {f : StoreContents → StoreContents}
    (hf : ∀ histories, f ⟨policies, histories⟩ = ⟨(f ⟨policies, .empty⟩).policies, histories⟩) :
    Blind (change f) policies := by
  intro a
  refine ⟨(), (f ⟨policies, .empty⟩).policies, a, fun histories loses rejects => ?_⟩
  rw [← hf]
  rfl

theorem bind {x : Acting MemoryStore α} {f : α → Acting MemoryStore β} (hx : Blind x policies)
    (hf : ∀ value policies', Blind (f value) policies') : Blind (x >>= f) policies := by
  intro a
  obtain ⟨value, policies', a', hrun⟩ := hx a
  obtain ⟨value', policies'', a'', hrest⟩ := hf value policies' a'
  refine ⟨value', policies'', a'', fun histories loses rejects => ?_⟩
  rw [Acting.run_bind (hrun histories loses rejects)]
  exact hrest histories loses rejects

theorem get_bind {f : MemoryStore → Acting MemoryStore β}
    (hf : ∀ histories loses rejects, f ⟨⟨policies, histories⟩, loses, rejects⟩ = f (showing policies))
    (hblind : Blind (f (showing policies)) policies) : Blind (get >>= f) policies := by
  intro a
  obtain ⟨value, policies', a', hrun⟩ := hblind a
  refine ⟨value, policies', a', fun histories loses rejects => ?_⟩
  rw [← hrun histories loses rejects, ← hf histories loses rejects]
  rfl

end Blind

namespace Heedless

theorem of_blind {x : Acting MemoryStore α} (hx : Blind x policies) : Heedless x policies := by
  intro a
  obtain ⟨value, policies', a', hrun⟩ := hx a
  refine ⟨⟨value, policies', none⟩, fun histories loses rejects => ?_⟩
  rw [hrun histories loses rejects]
  rfl

theorem bind {x : Acting MemoryStore α} {f : α → Acting MemoryStore β} (hx : Blind x policies)
    (hf : ∀ value policies', Heedless (f value) policies') : Heedless (x >>= f) policies := by
  intro a
  obtain ⟨value, policies', a', hrun⟩ := hx a
  obtain ⟨e, he⟩ := hf value policies' a'
  refine ⟨e, fun histories loses rejects => ?_⟩
  rw [Acting.run_bind (hrun histories loses rejects)]
  exact he histories loses rejects

theorem get_bind {f : MemoryStore → Acting MemoryStore β}
    (hf : ∀ histories loses rejects, f ⟨⟨policies, histories⟩, loses, rejects⟩ = f (showing policies))
    (hheedless : Heedless (f (showing policies)) policies) : Heedless (get >>= f) policies := by
  intro a
  obtain ⟨e, he⟩ := hheedless a
  refine ⟨e, fun histories loses rejects => ?_⟩
  rw [← he histories loses rejects, ← hf histories loses rejects]
  rfl

/-- What comes after a revision must not draw anything: the surroundings show whether it was lost. -/
theorem record_bind {p : Policy} {kind : ChangeKind} {summary actor : String}
    {f : Unit → Acting MemoryStore β} {value : β}
    (g : Keyed PolicyId Policy → Keyed PolicyId Policy)
    (hf : ∀ s a, ((f ()).run s a).1 =
      (value, { s with contents := ⟨g s.contents.policies, s.contents.histories⟩ })) :
    Heedless (record p kind summary actor >>= f) policies := by
  intro a
  refine ⟨⟨value, g policies, some (.capture (.ofRandom a.draws) a.clock p kind summary actor)⟩, ?_⟩
  intro histories loses rejects
  have hrecord : ((record p kind summary actor).run ⟨⟨policies, histories⟩, loses, rejects⟩ a).1 =
      ((), ⟨(StoreContents.mk policies histories).noting loses
        (some (.capture (.ofRandom a.draws) a.clock p kind summary actor)), loses, rejects⟩) := by
    cases loses <;> rfl
  rw [Acting.run_bind_eq, hf, hrecord]
  cases loses <;> rfl

theorem map {x : Acting MemoryStore α} (hx : Heedless x policies) (g : α → β) :
    Heedless (do return g (← x)) policies := by
  intro a
  obtain ⟨e, he⟩ := hx a
  refine ⟨⟨g e.value, e.policies, e.revision⟩, fun histories loses rejects => ?_⟩
  change (g (x.run _ a).1.1, (x.run _ a).1.2) = _
  rw [he]
  rfl

end Heedless

/-! ### The calls of a store -/

theorem blind_insert (tenant : TenantId) (draft : PolicyDraft) (actor : String)
    (policies : Keyed PolicyId Policy) : Blind (insert tenant draft actor) policies := by
  refine .bind (.lift _) fun fresh policies => .bind (.lift _) fun time policies => ?_
  split
  · exact .pure _
  · refine .get_bind (fun _ _ _ => rfl) ?_
    split
    · exact .pure _
    · exact .bind (.change fun _ => rfl) fun _ _ => .pure _

theorem heedless_create (tenant : TenantId) (draft : PolicyDraft) (actor : String)
    (policies : Keyed PolicyId Policy) : Heedless (create tenant draft actor) policies := by
  refine .bind (blind_insert tenant draft actor policies) ?_
  rintro (e | p) policies
  · exact .of_blind (.pure _)
  · exact .record_bind (fun held => held) fun _ _ => rfl

theorem heedless_update (tenant : TenantId) (id : PolicyId) (patch : PolicyPatch) (actor : String)
    (policies : Keyed PolicyId Policy) : Heedless (update tenant id patch actor) policies := by
  refine .get_bind (fun _ _ _ => rfl) ?_
  split
  · exact .of_blind (.pure _)
  · split
    · exact .of_blind (.pure _)
    · refine .bind (.lift _) fun time policies => .bind (.change fun _ => rfl) fun _ policies => ?_
      exact .record_bind (fun held => held) fun _ _ => rfl

theorem heedless_delete (tenant : TenantId) (id : PolicyId) (actor : String)
    (policies : Keyed PolicyId Policy) : Heedless (delete tenant id actor) policies := by
  refine .get_bind (fun _ _ _ => rfl) ?_
  split
  · exact .of_blind (.pure _)
  · exact .record_bind (·.erase id) fun _ _ => rfl

theorem heedless_replace (p : Policy) (draft : PolicyDraft) (actor : String)
    (policies : Keyed PolicyId Policy) : Heedless (replace p draft actor) policies := by
  refine .get_bind (fun _ _ _ => rfl) ?_
  split
  · exact .of_blind (.pure _)
  · split
    · exact .of_blind (.pure _)
    · refine .bind (.lift _) fun time policies => .bind (.change fun _ => rfl) fun _ policies => ?_
      exact .record_bind (fun held => held) fun _ _ => rfl

theorem heedless_importOne (tenant : TenantId) (mode : ImportMode) (actor : String)
    (draft : PolicyDraft) (policies : Keyed PolicyId Policy) :
    Heedless (importOne tenant mode actor draft) policies := by
  refine .get_bind (fun _ _ _ => rfl) ?_
  split
  · exact .of_blind (.pure _)
  · exact .of_blind (.pure _)
  · exact heedless_replace _ draft actor policies
  · refine .bind (blind_insert tenant draft actor policies) ?_
    rintro (e | p) policies
    · exact .of_blind (.pure _)
    · exact .record_bind (fun held => held) fun _ _ => rfl

theorem heedless_answer {c : StoreCall} (hc : c.asksHistory = false) (hsingle : c.isImport = false)
    (policies : Keyed PolicyId Policy) : Heedless (answer c) policies := by
  cases c with
  | create tenant draft actor => exact heedless_create tenant draft actor policies
  | update tenant id patch actor => exact (heedless_update tenant id patch actor policies).map _
  | delete tenant id actor => exact (heedless_delete tenant id actor policies).map _
  | revisions => cases hc
  | importAll => cases hsingle
  | _ => exact .get_bind (fun _ _ _ => rfl) (.of_blind (.pure _))

end MemoryStore

/-! ## Calls that lose revisions part by part -/

namespace MemoryStore

/-- Imports drafts one after the other. Each finds surroundings of its own, and its revision is lost or
not. -/
def importIn (rejects : Bool) (tenant : TenantId) (mode : ImportMode) (actor : String) :
    List PolicyDraft → (Nat → Ambient) → (Nat → Bool) → StoreContents →
      List ImportOutcome × StoreContents
  | [], _, _, s => ([], s)
  | draft :: rest, around, loses, s =>
    let done := ((importOne tenant mode actor draft).run ⟨s, loses 0, rejects⟩ (around 0)).1
    let others := importIn rejects tenant mode actor rest (fun i => around (i + 1))
      (fun i => loses (i + 1)) done.2.contents
    (done.1 :: others.1, others.2)

/-- Answers a call. An import has as many parts as drafts, every other call is a single one. -/
def answerIn (rejects : Bool) (c : StoreCall) (around : Nat → Ambient) (loses : Nat → Bool)
    (s : StoreContents) : c.Answer × StoreContents :=
  match c with
  | .importAll tenant drafts mode actor =>
    let done := importIn rejects tenant mode actor drafts around loses s
    if rejects then (.error (.transaction "commit rejected"), s)
    else (.ok (.ofOutcomes done.1), done.2)
  | c =>
    let done := ((answer c).run ⟨s, loses 0, rejects⟩ (around 0)).1
    (done.1, done.2.contents)

theorem answerIn_eq {c : StoreCall} (hsingle : c.isImport = false) (rejects : Bool)
    (around : Nat → Ambient) (loses : Nat → Bool) (s : StoreContents) :
    answerIn rejects c around loses s =
      (((answer c).run ⟨s, loses 0, rejects⟩ (around 0)).1.1,
        ((answer c).run ⟨s, loses 0, rejects⟩ (around 0)).1.2.contents) := by
  cases c with
  | importAll => cases hsingle
  | _ => rfl

/-- What is done is decided by the policies: the value, the policies afterwards, and what is written;
histories go on with that, as far as it is not lost. -/
def HeedlessIn {α : Type} (x : (Nat → Bool) → StoreContents → α × StoreContents)
    (policies : Keyed PolicyId Policy) : Prop :=
  ∃ value policies' written, ∀ histories loses,
    (x loses ⟨policies, histories⟩).1 = value ∧
    (x loses ⟨policies, histories⟩).2.policies = policies' ∧
    (x loses ⟨policies, histories⟩).2.Continues ⟨policies, histories⟩ loses written

theorem heedless_importIn (rejects : Bool) (tenant : TenantId) (mode : ImportMode) (actor : String)
    (drafts : List PolicyDraft) (around : Nat → Ambient) (policies : Keyed PolicyId Policy) :
    HeedlessIn (importIn rejects tenant mode actor drafts around) policies := by
  induction drafts generalizing around policies with
  | nil => exact ⟨[], policies, [], fun histories loses => ⟨rfl, rfl, .refl _ loses⟩⟩
  | cons draft rest ih =>
    obtain ⟨e, he⟩ := heedless_importOne tenant mode actor draft policies (around 0)
    obtain ⟨outcomes, policies', more, hrest⟩ := ih (fun i => around (i + 1)) e.policies
    refine ⟨e.value :: outcomes, policies', e.written ++ more.map fun w => (w.1 + 1, w.2), ?_⟩
    intro histories loses
    have hfirst := e.continues_on policies histories loses rejects
    have hpolicies := e.policies_on histories (loses 0) rejects
    rw [importIn, he]
    -- The drafts behind the first one find its policies, but histories that hang on what was lost.
    obtain ⟨first, hcontents⟩ : ∃ first, (e.on histories (loses 0) rejects).2.contents = first :=
      ⟨_, rfl⟩
    rw [hcontents] at hfirst hpolicies ⊢
    obtain ⟨policies₁, histories₁⟩ := first
    obtain rfl : policies₁ = e.policies := hpolicies
    obtain ⟨hvalue, hpolicies', hcontinues⟩ := hrest histories₁ fun i => loses (i + 1)
    refine ⟨?_, hpolicies', hfirst.trans (hcontinues.map (· + 1))⟩
    exact congrArg (e.value :: ·) hvalue

theorem heedless_answerIn {c : StoreCall} (hc : c.asksHistory = false) (rejects : Bool)
    (around : Nat → Ambient) (policies : Keyed PolicyId Policy) :
    HeedlessIn (answerIn rejects c around) policies := by
  cases hsingle : c.isImport with
  | false =>
    obtain ⟨e, he⟩ := heedless_answer hc hsingle policies (around 0)
    refine ⟨e.value, e.policies, e.written, fun histories loses => ?_⟩
    rw [answerIn_eq hsingle, he]
    exact ⟨rfl, e.policies_on histories _ rejects, e.continues_on policies histories loses rejects⟩
  | true =>
    cases c with
    | importAll tenant drafts mode actor =>
      cases rejects with
      | true => exact ⟨_, policies, [], fun histories loses => ⟨rfl, rfl, .refl _ loses⟩⟩
      | false =>
        obtain ⟨outcomes, policies', written, hdone⟩ :=
          heedless_importIn false tenant mode actor drafts around policies
        refine ⟨.ok (.ofOutcomes outcomes), policies', written, fun histories loses => ?_⟩
        obtain ⟨hvalue, hleft⟩ := hdone histories loses
        refine ⟨?_, hleft⟩
        rw [← hvalue]
        rfl
    | _ => cases hsingle

/-! ### Calls of a store that loses all revisions, or none -/

theorem Heedless.run_eq {α : Type} {x : Acting MemoryStore α} {s : MemoryStore}
    (hx : Heedless x s.contents.policies) (a : Ambient) :
    (x.run s a).1 = ((x.run s a).1.1, { s with contents := (x.run s a).1.2.contents }) := by
  obtain ⟨⟨policies, histories⟩, loses, rejects⟩ := s
  obtain ⟨e, he⟩ := hx a
  rw [he]
  rfl

theorem importEach_eq_importIn (tenant : TenantId) (mode : ImportMode) (actor : String)
    (drafts : List PolicyDraft) (s : MemoryStore) (a : Ambient) :
    ∃ around : Nat → Ambient,
      let done := importIn s.rejectsCommits tenant mode actor drafts around
        (fun _ => s.losesRevisions) s.contents
      ((importEach tenant mode actor drafts).run s a).1 = (done.1, { s with contents := done.2 }) := by
  induction drafts generalizing s a with
  | nil => exact ⟨fun _ => a, rfl⟩
  | cons draft rest ih =>
    -- The draft finds what the whole import finds, the others what it has left of that.
    have hcontents :=
      (heedless_importOne tenant mode actor draft s.contents.policies).run_eq a
    obtain ⟨⟨⟨outcome, s₁⟩, a₁⟩, hfirst⟩ :
      ∃ done, (importOne tenant mode actor draft).run s a = done := ⟨_, rfl⟩
    obtain ⟨⟨⟨outcomes, s₂⟩, a₂⟩, hothers⟩ :
      ∃ done, (importEach tenant mode actor rest).run s₁ a₁ = done := ⟨_, rfl⟩
    obtain ⟨around, hrest⟩ := ih s₁ a₁
    refine ⟨Nat.rec a fun i _ => around i, ?_⟩
    rw [hfirst] at hcontents
    rw [hothers, Prod.mk.injEq] at hrest
    have hs₁ : s₁ = { s with contents := s₁.contents } := congrArg (·.2) hcontents
    have hsplit : importIn s.rejectsCommits tenant mode actor (draft :: rest)
        (Nat.rec a fun i _ => around i) (fun _ => s.losesRevisions) s.contents =
          let done := ((importOne tenant mode actor draft).run s a).1
          let others := importIn s.rejectsCommits tenant mode actor rest around
            (fun _ => s.losesRevisions) done.2.contents
          (done.1 :: others.1, others.2) := rfl
    rw [importEach_cons hfirst hothers, hsplit]
    dsimp only
    rw [hfirst, hrest.1, hrest.2, hs₁]

/-- A store answers as if each part of a call found the surroundings that the parts before it have
left. -/
theorem answer_eq_answerIn (c : StoreCall) (s : MemoryStore) (a : Ambient) :
    ∃ around : Nat → Ambient,
      let done := answerIn s.rejectsCommits c around (fun _ => s.losesRevisions) s.contents
      ((answer c).run s a).1 = (done.1, { s with contents := done.2 }) := by
  cases hsingle : c.isImport with
  | false =>
    refine ⟨fun _ => a, ?_⟩
    dsimp only
    rw [answerIn_eq hsingle]
    cases hc : c.asksHistory with
    | false => exact (heedless_answer hc hsingle _).run_eq a
    | true =>
      cases c with
      | revisions => rfl
      | _ => cases hc
  | true =>
    cases c with
    | importAll tenant drafts mode actor =>
      obtain ⟨around, hdone⟩ := importEach_eq_importIn tenant mode actor drafts s a
      refine ⟨around, ?_⟩
      change ((importAll tenant drafts mode actor).run s a).1 = _
      rw [importAll_run, importOutcomes, hdone, answerIn]
      split <;> rfl
    | _ => cases hsingle

end MemoryStore

end Governance
