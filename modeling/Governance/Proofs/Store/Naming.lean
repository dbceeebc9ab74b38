import Governance.Proofs.Store.Deeds

/-!
# Names of policies

An import finds policies by their names. As long as no tenant has two policies of a name, every policy
is the one that is found by its name. Imports and deletions keep it so, because an import brings a policy
in only under a name that is free; creating and patching a policy do not look whether the name is free.
`yields_answer_names` says of every call that it keeps names apart unless it repeats one.
-/

namespace Governance

open Acting (Yields)

namespace StoreContents

variable {s s' : StoreContents} {p old : Policy} {tenant : TenantId}

/-- No tenant has two policies of a name. -/
def NamesUnique (s : StoreContents) : Prop :=
  ∀ p ∈ s.policies.values, ∀ q ∈ s.policies.values, p.tenant = q.tenant → p.name = q.name → p = q

/-- Another policy of the same tenant has the name of a policy. -/
def HasNamesake (s : StoreContents) (p : Policy) : Prop :=
  ∃ q ∈ s.policies.values, q.id ≠ p.id ∧ q.tenant = p.tenant ∧ q.name = p.name

theorem namesUnique_empty : empty.NamesUnique := fun _ hp => absurd hp List.not_mem_nil

theorem namesUnique_congr (hpolicies : s'.policies = s.policies) :
    s'.NamesUnique ↔ s.NamesUnique := by
  unfold NamesUnique
  rw [hpolicies]

/-- Names are unique when every policy is the one that is found by its name. -/
theorem namesUnique_iff_named :
    s.NamesUnique ↔ ∀ p ∈ s.policies.values, s.named p.tenant p.name = some p := by
  constructor
  · intro hunique p hp
    cases hnamed : s.named p.tenant p.name with
    | none => exact absurd rfl (named_eq_none.1 hnamed p (mem_ownedBy.2 ⟨hp, rfl⟩))
    | some q =>
      obtain ⟨hq, hname⟩ := of_named hnamed
      obtain ⟨hq, htenant⟩ := mem_ownedBy.1 hq
      rw [hunique q hq p hp htenant hname]
  · intro hfound p hp q hq htenant hname
    have hsame : some p = some q := by
      rw [← hfound p hp, ← hfound q hq, htenant, hname]
    exact Option.some.inj hsame

theorem not_hasNamesake_of_named (hnamed : s.named p.tenant p.name = none) :
    ¬ s.HasNamesake p := by
  rintro ⟨q, hq, _, htenant, hname⟩
  exact named_eq_none.1 hnamed q (mem_ownedBy.2 ⟨hq, htenant⟩) hname

namespace NamesUnique

theorem keep_iff (hunique : s.NamesUnique) (hs : s.Indexed) :
    (s.keep p).NamesUnique ↔ ¬ s.HasNamesake p := by
  -- What was kept under the identifier before is gone, so it is no namesake.
  have hmem (q : Policy) :
      q ∈ (s.keep p).policies.values ↔ q = p ∨ q ∈ s.policies.values ∧ q.id ≠ p.id :=
    hs.mem_values_put
  constructor
  · rintro hkept ⟨q, hq, hid, htenant, hname⟩
    have hsame : q = p :=
      hkept q ((hmem q).2 (.inr ⟨hq, hid⟩)) p ((hmem p).2 (.inl rfl)) htenant hname
    exact hid (congrArg Policy.id hsame)
  · intro hfree q hq r hr htenant hname
    rcases (hmem q).1 hq with hqnew | ⟨hqold, hqid⟩
    · rcases (hmem r).1 hr with hrnew | ⟨hrold, hrid⟩
      · exact hqnew.trans hrnew.symm
      · subst hqnew
        exact absurd ⟨r, hrold, hrid, htenant.symm, hname.symm⟩ hfree
    · rcases (hmem r).1 hr with hrnew | ⟨hrold, hrid⟩
      · subst hrnew
        exact absurd ⟨q, hqold, hqid, htenant, hname⟩ hfree
      · exact hunique q hqold r hrold htenant hname

theorem not_hasNamesake (hunique : s.NamesUnique) (hs : s.Indexed)
    (hold : s.policies.get? old.id = some old) (hnew : p.Succeeds old) (hname : p.name = old.name) :
    ¬ s.HasNamesake p := by
  rintro ⟨q, hq, hid, htenant, hsame⟩
  have hqold : q = old :=
    hunique q hq old (hs.mem_values.2 hold) (htenant.trans hnew.tenant) (hsame.trans hname)
  apply hid
  rw [hqold, hnew.id]

theorem keep_applyPatch_iff {patch : PolicyPatch} {actor : String} {now : Instant}
    (hunique : s.NamesUnique) (hs : s.Indexed) (hold : s.policies.get? old.id = some old) :
    (s.keep (old.applyPatch patch actor now)).NamesUnique ↔
      ¬ (patch.name.isSome ∧ s.HasNamesake (old.applyPatch patch actor now)) := by
  rw [hunique.keep_iff hs]
  cases hname : patch.name with
  | some name => simp
  | none =>
    have hkept : (old.applyPatch patch actor now).name = old.name := by
      rw [Policy.applyPatch, hname]
      rfl
    have hfree := hunique.not_hasNamesake hs hold (old.succeeds_applyPatch patch actor now) hkept
    exact iff_of_true hfree fun hrepeats => hfree hrepeats.2

theorem remove (hunique : s.NamesUnique) (id : PolicyId) : (s.remove id).NamesUnique := by
  intro p hp q hq
  exact hunique p (Keyed.values_erase_sublist.subset hp) q (Keyed.values_erase_sublist.subset hq)

theorem import_edit {e : StoreEdit} {drafts : List PolicyDraft} {mode : ImportMode}
    {actor : String} (hunique : s.NamesUnique) (hs : s.Indexed) (hfits : e.Fits tenant s)
    (hpermits : (StoreCall.importAll tenant drafts mode actor).Permits s e) :
    (s.edit e).NamesUnique := by
  cases e with
  | add p =>
    obtain ⟨_, rfl⟩ := hfits
    exact (hunique.keep_iff hs).2 (not_hasNamesake_of_named hpermits.1)
  | change old new =>
    obtain ⟨howned, hsucceeds⟩ := hfits
    obtain ⟨_, d, _, hname, now, rfl⟩ := hpermits
    exact (hunique.keep_iff hs).2
      (hunique.not_hasNamesake hs (owned_eq_some.1 howned).1 hsucceeds hname)
  | remove old => cases hpermits
  | record r => exact hunique

end NamesUnique

end StoreContents

theorem PolicyPatch.name_of_isEmpty {patch : PolicyPatch} (hempty : patch.isEmpty) :
    patch.name = none := by
  simp only [isEmpty, Bool.and_eq_true, Option.isNone_iff_eq_none] at hempty
  simp only [hempty]

/-- A policy was created, or got a name by a patch, that another policy of its tenant had. -/
def StoreCall.RepeatsName (s : StoreContents) : (c : StoreCall) → c.Answer → Prop
  | .create .., .ok p => s.HasNamesake p
  | .update _ _ patch _, .ok (some p) => patch.name.isSome ∧ s.HasNamesake p
  | _, _ => False

namespace MemoryStore

open StoreContents

variable {s : MemoryStore} {a : Ambient} {tenant : TenantId} {actor : String}

theorem Performs.names_of_nil {s' : MemoryStore} {a' : Ambient} (hperforms : s.Performs a [] s' a')
    (hunique : s.contents.NamesUnique) : s'.contents.NamesUnique :=
  (namesUnique_congr hperforms.policies).2 hunique

theorem yields_create_names {draft : PolicyDraft} (hs : s.contents.Indexed)
    (hunique : s.contents.NamesUnique) :
    Yields (create tenant draft actor) s a fun answer s' _ =>
      s'.contents.NamesUnique ↔
        ¬ (StoreCall.create tenant draft actor).RepeatsName s.contents answer := by
  refine yields_create.mono ?_
  rintro (e | p) s' a' ⟨deeds, hdoes, hperforms⟩
  · obtain rfl : deeds = [] := hdoes
    exact iff_of_true (hperforms.names_of_nil hunique) not_false
  · obtain ⟨_, r, rfl, rfl⟩ := hdoes
    exact (namesUnique_congr hperforms.policies).trans (hunique.keep_iff hs)

theorem yields_update_names {id : PolicyId} {patch : PolicyPatch} (hs : s.contents.Indexed)
    (hunique : s.contents.NamesUnique) :
    Yields (update tenant id patch actor) s a fun answer s' _ =>
      s'.contents.NamesUnique ↔
        ¬ (StoreCall.update tenant id patch actor).RepeatsName s.contents (.ok answer) := by
  refine (yields_update hs).mono ?_
  rintro (_ | p) s' a' ⟨deeds, hdoes, hperforms⟩
  · obtain rfl : deeds = [] := hdoes
    exact iff_of_true (hperforms.names_of_nil hunique) not_false
  change _ ↔ ¬ (patch.name.isSome ∧ s.contents.HasNamesake p)
  by_cases hempty : patch.isEmpty
  · obtain rfl : deeds = [] := (if_pos hempty).mp hdoes
    refine iff_of_true (hperforms.names_of_nil hunique) ?_
    rw [PolicyPatch.name_of_isEmpty hempty]
    exact fun hrepeats => nomatch hrepeats.1
  · obtain ⟨old, now, r, rfl, rfl, rfl, hsnapshot, rfl⟩ := (if_neg hempty).mp hdoes
    obtain ⟨⟨hold, hsucceeds, _⟩, _⟩ := hperforms.succession
    have hpolicies : s'.contents.policies = (s.contents.keep r.snapshot).policies :=
      hperforms.policies
    rw [namesUnique_congr hpolicies, hsnapshot]
    exact hunique.keep_applyPatch_iff hs (hsucceeds.id ▸ hold)

theorem yields_delete_names {id : PolicyId} (hs : s.contents.Indexed)
    (hunique : s.contents.NamesUnique) :
    Yields (delete tenant id actor) s a fun _ s' _ => s'.contents.NamesUnique := by
  refine (yields_delete hs).mono ?_
  rintro (_ | _) s' a' ⟨deeds, hdoes, hperforms⟩
  · obtain rfl : deeds = [] := hdoes
    exact hperforms.names_of_nil hunique
  · obtain ⟨r, _, _, rfl⟩ := hdoes
    exact (namesUnique_congr hperforms.policies).2 (hunique.remove r.snapshot.id)

theorem ensures_import_names {drafts : List PolicyDraft} {mode : ImportMode}
    (hs : s.contents.Indexed) (hunique : s.contents.NamesUnique) :
    Acting.Ensures (answer (.importAll tenant drafts mode actor)) s
      fun _ s' => s'.contents.NamesUnique := by
  refine (ensures_answer hs _).mono ?_
  rintro _ s' ⟨added, hmakes⟩
  refine hmakes.keeps (fun t e ht hfits hpermits hnames => ?_) hs hunique
  exact hnames.import_edit ht hfits hpermits

/-- Where names are unique, a call keeps them so unless it repeats one. -/
theorem yields_answer_names (hs : s.contents.Indexed) (hunique : s.contents.NamesUnique)
    (c : StoreCall) : Yields (answer c) s a fun answer s' _ =>
      s'.contents.NamesUnique ↔ ¬ c.RepeatsName s.contents answer := by
  cases c with
  | create => exact yields_create_names hs hunique
  | update => exact .bind (yields_update_names hs hunique)
  | delete =>
    refine .bind ((yields_delete_names hs hunique).mono ?_)
    exact fun _ _ _ hkept => iff_of_true hkept not_false
  | importAll => exact iff_of_true (ensures_import_names hs hunique a) not_false
  | _ => exact iff_of_true hunique not_false

end MemoryStore

end Governance
