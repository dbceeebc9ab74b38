import Governance.Proofs.Store.Runs

/-!
# What histories say of policies being switched on and off

A patch is recorded under the kind that its transition has. An import that overwrites a policy does not
look at the transition: what it does is recorded as an update, even when the draft switches the policy
on or off. So one revision to the next names every transition unless such an import made it, and
`transitions_named_unless_overwritten` says which import that was.
-/

namespace Governance

/-- The kind of a revision names the transition from the one before it: a policy was switched off or
on, and an update leaves that as it was. -/
structure Revision.NamesTransition (r r' : Revision) : Prop where
  disable : r.snapshot.enabled = true → r'.snapshot.enabled = false → r'.change = .disable
  enable : r.snapshot.enabled = false → r'.snapshot.enabled = true → r'.change = .enable
  update : r'.change = .update → r'.snapshot.enabled = r.snapshot.enabled

namespace Revision

variable {r r' : Revision}

theorem namesTransition_of_eq (hsame : r'.snapshot.enabled = r.snapshot.enabled) :
    NamesTransition r r' where
  disable hon hoff := by
    rw [hsame, hon] at hoff
    cases hoff
  enable hoff hon := by
    rw [hsame, hoff] at hon
    cases hon
  update _ := hsame

theorem namesTransition_of_ofTransition
    (hchange : r'.change = .ofTransition r.snapshot.enabled r'.snapshot.enabled) :
    NamesTransition r r' where
  disable hon hoff := by rw [hchange, hon, hoff, ChangeKind.ofTransition]
  enable hoff hon := by rw [hchange, hoff, hon, ChangeKind.ofTransition]
  update hupdate := by
    rw [hchange] at hupdate
    revert hupdate
    cases r.snapshot.enabled <;> cases r'.snapshot.enabled <;> simp [ChangeKind.ofTransition]

end Revision

namespace Deed

variable {id : PolicyId} {start live : Option Policy} {deeds : List Deed} {d d' : Deed}

theorem Tale.live_eq (htale : Tale id start deeds live) (hlast : deeds.getLast? = some d) :
    live = d.left := by
  cases htale with
  | start => cases hlast
  | next _ _ _ _ =>
    rw [List.getLast?_concat] at hlast
    rw [Option.some.inj hlast]

/-- Every deed of a tale follows on what the one before has left. -/
theorem Tale.follows {i : Nat} (htale : Tale id start deeds live) (hd : deeds[i]? = some d)
    (hd' : deeds[i + 1]? = some d') :
    d'.Follows d.left ∧ d'.revision.Tells d'.revision.snapshot d'.change := by
  induction htale with
  | start => cases hd
  | @next deeds before last htale _ hfollows htells ih =>
    rcases Nat.lt_or_ge (i + 1) deeds.length with hi | hi
    · rw [List.getElem?_append_left hi] at hd'
      rw [List.getElem?_append_left (by omega)] at hd
      exact ih hd hd'
    · rw [List.getElem?_append_right hi] at hd'
      obtain ⟨hlast, rfl⟩ := List.getElem?_eq_some_iff.1 hd'
      rw [List.length_singleton] at hlast
      rw [List.getElem?_append_left (by omega)] at hd
      have hend : deeds.getLast? = some d := by
        rw [List.getLast?_eq_getElem?, ← hd]
        congr 1
        omega
      rw [List.getElem_singleton, ← htale.live_eq hend]
      exact ⟨hfollows, htells⟩

/-- What a deed leaves behind names the transition, unless it is an overwriting one. -/
theorem namesTransition (hfollows : d'.Follows d.left)
    (htells : d'.revision.Tells d'.revision.snapshot d'.change)
    (hlater : d'.revision.change ≠ .create) :
    d.revision.NamesTransition d'.revision ∨ ∃ old r, d' = .overwrite old r ∧
      old = d.revision.snapshot := by
  cases d' with
  | create r => exact absurd htells.change hlater
  | patch old r =>
    obtain rfl := snapshot_eq_of_left hfollows.1
    exact .inl (Revision.namesTransition_of_ofTransition htells.change)
  | overwrite old r => exact .inr ⟨old, r, rfl, (snapshot_eq_of_left hfollows.1).symm⟩
  | delete r =>
    have hsame := snapshot_eq_of_left hfollows
    exact .inl (Revision.namesTransition_of_eq (congrArg Policy.enabled hsame.symm))

end Deed

/-- Only drafts of an overwriting import overwrite. -/
theorem PolicyDraft.AllDo.of_overwrite {tenant : TenantId} {mode : ImportMode} {actor : String}
    {drafts : List PolicyDraft} {outcomes : List ImportOutcome} {deeds : List Deed}
    (hdo : AllDo tenant mode actor drafts outcomes deeds) {old : Policy} {r : Revision}
    (hmem : .overwrite old r ∈ deeds) :
    mode = .overwrite ∧ ∃ draft ∈ drafts, ∃ now, r.snapshot = old.overwrite draft actor now := by
  induction hdo with
  | nil => cases hmem
  | @cons draft _ _ rest _ _ hdraft _ ih =>
    rcases List.mem_append.1 hmem with hfirst | hrest
    · cases hdraft with
      | created _ => simp at hfirst
      | updated hmode _ hnew =>
        obtain ⟨rfl, rfl⟩ : old = _ ∧ r = _ := by simpa using hfirst
        exact ⟨hmode, draft, List.mem_cons_self, _, hnew⟩
      | skipped => cases hfirst
      | failed _ => cases hfirst
    · obtain ⟨hmode, draft, hdraft, hnew⟩ := ih hrest
      exact ⟨hmode, draft, List.mem_cons_of_mem _ hdraft, hnew⟩

theorem StoreCall.Does.of_overwrite {c : StoreCall} {answer : c.Answer} {deeds : List Deed}
    (hdoes : c.Does answer deeds) {old : Policy} {r : Revision} (hmem : .overwrite old r ∈ deeds) :
    ∃ tenant drafts actor, c = .importAll tenant drafts .overwrite actor ∧
      ∃ draft ∈ drafts, ∃ now, r.snapshot = old.overwrite draft actor now := by
  unfold Does at hdoes
  split at hdoes
  · obtain ⟨_, _, _, rfl⟩ := hdoes
    simp at hmem
  · split at hdoes
    · subst hdoes
      cases hmem
    · obtain ⟨_, _, _, _, _, _, _, rfl⟩ := hdoes
      simp at hmem
  · obtain ⟨_, _, _, rfl⟩ := hdoes
    simp at hmem
  · rename_i tenant drafts mode actor _
    obtain ⟨_, _, hdo⟩ := hdoes
    obtain ⟨rfl, hnew⟩ := hdo.of_overwrite hmem
    exact ⟨tenant, drafts, actor, rfl, hnew⟩
  · subst hdoes
    cases hmem

namespace MemoryStore

variable {s : MemoryStore} {turns : List StoreTurn} {id : PolicyId} {r r' : Revision}

/-- The revision at a place of a history is of a policy that a draft of an overwriting import has
replaced, in a call of the run. -/
def OverwrittenAt (s : MemoryStore) (turns : List StoreTurn) (id : PolicyId) (place : Nat)
    (old : Policy) (r : Revision) : Prop :=
  ∃ earlier tenant drafts actor a,
    earlier ++ [.call (.importAll tenant drafts .overwrite actor) a] <+: turns ∧
    ((s.play earlier).contents.history id).length ≤ place ∧
    place <
      ((s.play (earlier ++ [.call (.importAll tenant drafts .overwrite actor) a])).contents.history
        id).length ∧
    ∃ draft ∈ drafts, ∃ now, r.snapshot = old.overwrite draft actor now

/-- Where no revision is lost, every revision of a policy names the transition from the one before it,
unless an import has overwritten the policy with a draft that switches it on or off. -/
theorem transitions_named_unless_overwritten (hs : s.contents.Indexed)
    (hnew : ∀ id, s.contents.history id = []) (hkeeps : s.losesRevisions = false)
    (hturns : ∀ turn ∈ turns, turn.Keeps) {i : Nat}
    (hr : ((s.play turns).contents.history id)[i]? = some r)
    (hr' : ((s.play turns).contents.history id)[i + 1]? = some r') (hlater : r'.change ≠ .create) :
    r.NamesTransition r' ∨
      r'.change = .update ∧ r'.snapshot.enabled ≠ r.snapshot.enabled ∧
        s.OverwrittenAt turns id (i + 1) r.snapshot r' := by
  obtain ⟨deeds, haccounts⟩ := accounts_play hs hkeeps hturns id
  rw [haccounts.history, hnew, List.nil_append, List.getElem?_map, Option.map_eq_some_iff] at hr hr'
  obtain ⟨d, hd, rfl⟩ := hr
  obtain ⟨d', hd', rfl⟩ := hr'
  obtain ⟨hfollows, htells⟩ := haccounts.tale.follows hd hd'
  rcases Deed.namesTransition hfollows htells hlater with hnames | ⟨old, r, rfl, rfl⟩
  · exact .inl hnames
  -- A policy was overwritten: then an import has done it, at this place of the history.
  by_cases hsame : r.snapshot.enabled = d.revision.snapshot.enabled
  · exact .inl (Revision.namesTransition_of_eq hsame)
  · refine .inr ⟨htells.change, hsame, ?_⟩
    obtain ⟨earlier, c, a, done, hwithin, hdoes, hmem, hfirst, hlast⟩ := haccounts.done _ _ hd'
    obtain ⟨tenant, drafts, actor, rfl, hdraft⟩ := hdoes.of_overwrite hmem
    rw [hnew, List.length_nil, Nat.zero_add] at hfirst hlast
    exact ⟨earlier, tenant, drafts, actor, a, hwithin, hfirst, hlast, hdraft⟩

/-! ### A policy that is switched off -/

/-- The policy is switched off by a patch. -/
def patchingTurns : List StoreTurn :=
  [.call (.create ⟨"acme"⟩ chosenDraft "alice") .initial,
    .call (.update ⟨"acme"⟩ ⟨"p1"⟩
      ⟨none, none, none, none, none, none, some false, none, none⟩ "alice") .initial]

/-- The policy is switched off by an import. -/
def overwritingTurns : List StoreTurn :=
  [.call (.create ⟨"acme"⟩ chosenDraft "alice") .initial,
    .call (.importAll ⟨"acme"⟩ [{ chosenDraft with enabled := false }] .overwrite "alice") .initial]

theorem patchingTurns_named :
    (∀ turn ∈ patchingTurns, turn.Keeps) ∧
    ∃ r r', ((empty.play patchingTurns).contents.history ⟨"p1"⟩)[0]? = some r ∧
      ((empty.play patchingTurns).contents.history ⟨"p1"⟩)[1]? = some r' ∧
      r'.change ≠ .create ∧ r.NamesTransition r' := by
  have hturns : ∀ turn ∈ patchingTurns, turn.Keeps := by
    simp [patchingTurns, StoreTurn.Keeps]
  refine ⟨hturns, _, _, rfl, rfl, by decide, ?_⟩
  have hnames := fun r r' => @transitions_named_unless_overwritten empty patchingTurns ⟨"p1"⟩ r r'
    Keyed.indexed_empty (fun _ => rfl) rfl hturns 0
  rcases hnames _ _ rfl rfl (by decide) with hnames | ⟨hupdate, _⟩
  · exact hnames
  · exact absurd hupdate (by decide)

/-- Not every switch is named: one that an import makes is recorded as an update. -/
theorem overwritingTurns_not_named :
    ¬ ∀ (turns : List StoreTurn) (id : PolicyId) (i : Nat) (r r' : Revision),
      (∀ turn ∈ turns, turn.Keeps) →
      ((empty.play turns).contents.history id)[i]? = some r →
      ((empty.play turns).contents.history id)[i + 1]? = some r' → r'.change ≠ .create →
      r.NamesTransition r' := by
  intro hnamed
  have hturns : ∀ turn ∈ overwritingTurns, turn.Keeps := by
    simp [overwritingTurns, StoreTurn.Keeps]
  have hnames := hnamed overwritingTurns ⟨"p1"⟩ 0 _ _ hturns rfl rfl (by decide)
  exact absurd (hnames.disable rfl rfl) (by decide)

end MemoryStore

end Governance
