import Governance.Proofs.Store.Imports

/-!
# Imports of which every draft comes in or is skipped

An import brings in all of its drafts when their names and identifiers are distinct and free and their
kinds are known, and it skips all of them when their names are taken. The policies that come in stand
behind those that were there, in the order of their drafts.
-/

namespace Governance

open Acting (Ensures)

namespace StoreContents

variable {s s' : StoreContents} {tenant : TenantId} {draft : PolicyDraft}

/-- Nothing keeps a draft from becoming a policy under the identifier that it asks for. -/
structure Awaits (s : StoreContents) (tenant : TenantId) (draft : PolicyDraft) : Prop where
  name : s.named tenant draft.name = none
  kind : (PolicyKind.ofWord? draft.kind).isSome
  id : ∃ id, draft.id = some id ∧ s.policies.get? id = none

/-- A policy of another name and another identifier does not get in the way. -/
theorem Awaits.keep {p : Policy} (hawaits : s.Awaits tenant draft)
    (hfits : (StoreEdit.add p).Fits tenant s) (hname : p.name ≠ draft.name)
    (hid : some p.id ≠ draft.id) : (s.keep p).Awaits tenant draft := by
  obtain ⟨hnamed, hkind, id, hchosen, hfree⟩ := hawaits
  refine ⟨?_, hkind, id, hchosen, ?_⟩
  · have howned : (s.keep p).ownedBy tenant = s.ownedBy tenant ++ [p] := ownedBy_add hfits
    rw [named_eq_none, howned]
    intro q hq
    rcases List.mem_append.1 hq with hold | hnew
    · exact named_eq_none.1 hnamed q hold
    · rw [List.mem_singleton.1 hnew]
      exact hname
  · have hother : p.id ≠ id := by
      rintro rfl
      exact hid hchosen.symm
    exact (Keyed.get?_put _ _ _ _).trans ((if_neg hother).trans hfree)

theorem Awaits.of_policies_eq (hawaits : s.Awaits tenant draft) (hpolicies : s'.policies = s.policies) :
    s'.Awaits tenant draft := by
  obtain ⟨hnamed, hkind, hid⟩ := hawaits
  refine ⟨?_, hkind, hpolicies ▸ hid⟩
  rw [named, ownedBy, hpolicies]
  exact hnamed

end StoreContents

namespace ImportReport

theorem ofOutcomes_created (drafts : List PolicyDraft) :
    ofOutcomes (drafts.map fun d => .created d.name) = ⟨drafts.length, 0, 0, []⟩ := by
  suffices h : ∀ n, (drafts.map fun d => ImportOutcome.created d.name).foldl record ⟨n, 0, 0, []⟩ =
      ⟨n + drafts.length, 0, 0, []⟩ by
    simpa [ofOutcomes, empty] using h 0
  induction drafts with
  | nil => exact fun _ => rfl
  | cons draft rest ih =>
    intro n
    rw [List.length_cons, Nat.add_comm rest.length, ← Nat.add_assoc]
    exact ih (n + 1)

theorem ofOutcomes_skipped (drafts : List PolicyDraft) :
    ofOutcomes (drafts.map fun d => .skipped d.name) = ⟨0, 0, drafts.length, []⟩ := by
  suffices h : ∀ n, (drafts.map fun d => ImportOutcome.skipped d.name).foldl record ⟨0, 0, n, []⟩ =
      ⟨0, 0, n + drafts.length, []⟩ by
    simpa [ofOutcomes, empty] using h 0
  induction drafts with
  | nil => exact fun _ => rfl
  | cons draft rest ih =>
    intro n
    rw [List.length_cons, Nat.add_comm rest.length, ← Nat.add_assoc]
    exact ih (n + 1)

end ImportReport

namespace MemoryStore

variable {s : MemoryStore} {tenant : TenantId} {mode : ImportMode} {actor : String}
  {draft : PolicyDraft} {drafts : List PolicyDraft}

/-! ### Drafts that come in -/

theorem ensures_insert_awaited (hawaits : s.contents.Awaits tenant draft) :
    Ensures (insert tenant draft actor) s fun answer s' => ∃ p, answer = .ok p ∧
      draft.Describes tenant actor p ∧ draft.id = some p.id ∧
      (StoreEdit.add p).Fits tenant s.contents ∧
      s' = { s with contents := s.contents.keep p } := by
  obtain ⟨_, hkind, id, hchosen, hfree⟩ := hawaits
  refine .lift_bind fun fresh => .lift_bind fun now => ?_
  split
  · rename_i word hword
    rw [(PolicyDraft.kind_of_toPolicy_error hword).1] at hkind
    cases hkind
  · rename_i p hp
    have hdescribes : draft.Describes tenant actor p := ⟨fresh, now, hp⟩
    have hid : p.id = id := by
      rw [PolicyDraft.id_of_toPolicy hp, hchosen]
      rfl
    rw [← hid] at hchosen hfree
    refine .get_bind ?_
    rw [hfree]
    exact fun _ => ⟨p, rfl, hdescribes, hchosen, ⟨hfree, hdescribes.tenant_eq⟩, rfl⟩

theorem ensures_importOne_awaited (hawaits : s.contents.Awaits tenant draft) :
    Ensures (importOne tenant mode actor draft) s fun outcome s' => outcome = .created draft.name ∧
      ∃ p, draft.Describes tenant actor p ∧ draft.id = some p.id ∧
        (StoreEdit.add p).Fits tenant s.contents ∧
        s'.contents.policies = (s.contents.keep p).policies := by
  refine .get_bind ?_
  rw [hawaits.name]
  refine .bind ((ensures_insert_awaited hawaits).mono ?_)
  rintro _ s₁ ⟨p, rfl, hdescribes, hid, hfits, rfl⟩
  refine .bind fun a => .pure ?_
  obtain ⟨hpolicies, _⟩ : Acting.Yields (record p .create importSummary actor)
      { s with contents := s.contents.keep p } a _ := yields_record_draws p _ _
  exact ⟨rfl, p, hdescribes, hid, hfits, hpolicies⟩

theorem ensures_importEach_awaited (hnames : (drafts.map (·.name)).Nodup)
    (hids : (drafts.map (·.id)).Nodup) (hawaits : ∀ d ∈ drafts, s.contents.Awaits tenant d) :
    Ensures (importEach tenant mode actor drafts) s fun outcomes s' =>
      outcomes = drafts.map (fun d => .created d.name) ∧
      ∃ arrived, List.Forall₂ (·.Describes tenant actor ·) drafts arrived ∧
        s'.contents.policies.values = s.contents.policies.values ++ arrived := by
  induction drafts generalizing s with
  | nil => exact .pure ⟨rfl, [], .nil, (List.append_nil _).symm⟩
  | cons draft rest ih =>
    obtain ⟨hdraft, hrest⟩ := List.forall_mem_cons.1 hawaits
    obtain ⟨hname, hnames⟩ := List.nodup_cons.1 hnames
    obtain ⟨hid, hids⟩ := List.nodup_cons.1 hids
    refine .bind ((ensures_importOne_awaited hdraft).mono ?_)
    rintro _ s₁ ⟨rfl, p, hdescribes, hchosen, hfits, hpolicies⟩
    -- The others are still awaited, since neither the name nor the identifier is one of theirs.
    have hstill : ∀ d ∈ rest, s₁.contents.Awaits tenant d := by
      intro d hd
      refine ((hrest d hd).keep hfits ?_ ?_).of_policies_eq hpolicies
      · intro hsame
        exact hname (List.mem_map.2 ⟨d, hd, hsame.symm.trans hdescribes.name_eq⟩)
      · intro hsame
        exact hid (List.mem_map.2 ⟨d, hd, hsame.symm.trans hchosen.symm⟩)
    refine .bind ((ih hnames hids hstill).mono ?_)
    rintro _ s₂ ⟨rfl, arrived, harrived, hvalues⟩
    refine .pure ⟨rfl, p :: arrived, .cons hdescribes harrived, ?_⟩
    have hlast : (s.contents.keep p).policies.values = s.contents.policies.values ++ [p] :=
      Keyed.values_put_of_none hfits.1
    rw [hvalues, hpolicies, hlast, List.append_assoc]
    rfl

/-! ### Drafts that are skipped -/

theorem ensures_importEach_skipped
    (hnamed : ∀ d ∈ drafts, s.contents.named tenant d.name ≠ none) :
    Ensures (importEach tenant .skip actor drafts) s fun outcomes s' =>
      outcomes = drafts.map (fun d => .skipped d.name) ∧ s' = s := by
  induction drafts with
  | nil => exact .pure ⟨rfl, rfl⟩
  | cons draft rest ih =>
    obtain ⟨hdraft, hrest⟩ := List.forall_mem_cons.1 hnamed
    obtain ⟨p, hp⟩ := Option.ne_none_iff_exists'.1 hdraft
    have hone : Ensures (importOne tenant .skip actor draft) s fun outcome s' =>
        outcome = .skipped draft.name ∧ s' = s := by
      refine .get_bind ?_
      rw [hp]
      exact .pure ⟨rfl, rfl⟩
    refine .bind (hone.mono ?_)
    rintro _ _ ⟨rfl, rfl⟩
    refine .bind ((ih hrest).mono ?_)
    rintro _ _ ⟨rfl, rfl⟩
    exact .pure ⟨rfl, rfl⟩

end MemoryStore

end Governance
