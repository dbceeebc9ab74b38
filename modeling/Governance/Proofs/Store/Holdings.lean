import Mathlib.Data.Finset.Card
import Governance.Proofs.Store.Edits

/-!
# How many policies a tenant holds

A policy that comes in is one more, a policy that changes stays one, and so what a call adds to the
policies of its tenant is what it brings in. An import brings a policy in only under a name of a draft
that its tenant has no policy of yet, and from then on there is one; so it uses up the names that are
free, one for every policy. Neither the identifiers in the drafts nor the mode nor names that occur
twice make a difference.
-/

namespace Governance

namespace StoreContents

/-- How many policies of its own tier a tenant holds. -/
def held (s : StoreContents) (tenant : TenantId) : Nat :=
  ((s.ownedBy tenant).filter fun p => p.tier = .tenant).length

/-- The names under which a tenant has policies, whatever their tiers. -/
def names (s : StoreContents) (tenant : TenantId) : Finset String :=
  ((s.ownedBy tenant).map (·.name)).toFinset

/-- The names in drafts under which a tenant has no policy yet. -/
def freeNames (s : StoreContents) (tenant : TenantId) (drafts : List PolicyDraft) :
    Finset String :=
  (drafts.map (·.name)).toFinset \ s.names tenant

variable {s : StoreContents} {tenant : TenantId} {p old new : Policy}

theorem held_of_ownedBy_eq {s' : StoreContents} (h : s'.ownedBy tenant = s.ownedBy tenant) :
    s'.held tenant = s.held tenant := by
  rw [held, h, held]

theorem names_of_ownedBy_eq {s' : StoreContents} (h : s'.ownedBy tenant = s.ownedBy tenant) :
    s'.names tenant = s.names tenant := by
  rw [names, h, names]

theorem mem_names {name : String} : name ∈ s.names tenant ↔ s.named tenant name ≠ none := by
  rw [ne_eq, named_eq_none]
  simp [names]

theorem mem_freeNames {drafts : List PolicyDraft} {name : String} :
    name ∈ s.freeNames tenant drafts ↔
      name ∈ drafts.map (·.name) ∧ s.named tenant name = none := by
  rw [freeNames, Finset.mem_sdiff, mem_names, not_not, List.mem_toFinset]

theorem freeNames_cons_of_none {d : PolicyDraft} {drafts : List PolicyDraft}
    (hnamed : s.named tenant d.name = none) :
    s.freeNames tenant (d :: drafts) = insert d.name (s.freeNames tenant drafts) := by
  ext name
  rw [mem_freeNames, Finset.mem_insert, mem_freeNames, List.map_cons, List.mem_cons, or_and_right]
  refine or_congr_left ⟨And.left, ?_⟩
  rintro rfl
  exact ⟨rfl, hnamed⟩

theorem freeNames_cons_of_some {d : PolicyDraft} {drafts : List PolicyDraft}
    (hnamed : s.named tenant d.name = some p) :
    s.freeNames tenant (d :: drafts) = s.freeNames tenant drafts := by
  ext name
  rw [mem_freeNames, mem_freeNames, List.map_cons, List.mem_cons, or_and_right]
  refine or_iff_right ?_
  rintro ⟨rfl, hnone⟩
  rw [hnamed] at hnone
  cases hnone

/-! ### Single edits -/

theorem ownedBy_add (hfits : (StoreEdit.add p).Fits tenant s) :
    (s.edit (.add p)).ownedBy tenant = s.ownedBy tenant ++ [p] := by
  change (s.policies.put p.id p).values.filter _ = _
  rw [Keyed.values_put_of_none hfits.1, List.filter_append, ownedBy]
  simp [hfits.2]

/-- What does not tell a policy from the one that it became does not tell the policies of the tenant
from what they were. -/
theorem map_ownedBy_change {β : Type} (f : Policy → β)
    (hfits : (StoreEdit.change old new).Fits tenant s) (hsame : f new = f old) :
    ((s.edit (.change old new)).ownedBy tenant).map f = (s.ownedBy tenant).map f := by
  obtain ⟨howned, hid, htenant, _⟩ := hfits
  refine Keyed.map_filter_values_put f ?_ (by rw [htenant]) hsame
  rw [hid]
  exact (owned_eq_some.1 howned).1

theorem names_add (hfits : (StoreEdit.add p).Fits tenant s) :
    (s.edit (.add p)).names tenant = insert p.name (s.names tenant) := by
  rw [names, ownedBy_add hfits, List.map_append, List.toFinset_append, Finset.union_comm]
  rfl

theorem names_change (hfits : (StoreEdit.change old new).Fits tenant s)
    (hname : new.name = old.name) : (s.edit (.change old new)).names tenant = s.names tenant :=
  congrArg List.toFinset (map_ownedBy_change (·.name) hfits hname)

theorem held_edit {e : StoreEdit} (hfits : e.Fits tenant s) :
    (s.edit e).held tenant ≤ s.held tenant + if e.isAdd then 1 else 0 := by
  cases e with
  | add p =>
    rw [held, ownedBy_add hfits, List.filter_append, List.length_append]
    exact Nat.add_le_add_left (List.length_filter_le _ [p]) _
  | change old new =>
    have htiers := map_ownedBy_change (·.tier) hfits hfits.2.tier
    have hcount (l : List Policy) : (l.filter fun p => p.tier = .tenant).length =
        (l.map (·.tier)).countP (· = .tenant) := by
      rw [List.countP_map, List.countP_eq_length_filter]
      rfl
    rw [held, hcount, htiers, ← hcount]
    exact Nat.le_refl _
  | remove old => exact ((Keyed.values_erase_sublist.filter _).filter _).length_le
  | record r => exact Nat.le_refl _

/-! ### Edits of calls that bring policies in -/

theorem names_edit {c : StoreCall} {e : StoreEdit} (hbrings : c.brings)
    (hfits : e.Fits c.tenant s) (hpermits : c.Permits s e) :
    s.names c.tenant ⊆ (s.edit e).names c.tenant := by
  cases e with
  | add p =>
    rw [names_add hfits]
    exact Finset.subset_insert _ _
  | change old new =>
    cases c with
    | importAll tenant drafts mode actor =>
      obtain ⟨_, d, _, hname, now, rfl⟩ := hpermits
      rw [names_change hfits hname]
    | create => cases hpermits
    | _ => cases hbrings
  | remove old =>
    cases c with
    | create | importAll => cases hpermits
    | _ => cases hbrings
  | record r => exact Finset.Subset.refl _

section Import

variable {drafts : List PolicyDraft} {mode : ImportMode} {actor : String} {e : StoreEdit}

theorem length_ownedBy_import (hfits : e.Fits tenant s)
    (hpermits : (StoreCall.importAll tenant drafts mode actor).Permits s e) :
    ((s.edit e).ownedBy tenant).length =
      (s.ownedBy tenant).length + if e.isAdd then 1 else 0 := by
  cases e with
  | add p =>
    rw [ownedBy_add hfits, List.length_append]
    rfl
  | change old new =>
    have hunits := congrArg List.length (map_ownedBy_change (fun _ => ()) hfits rfl)
    rwa [List.length_map, List.length_map] at hunits
  | remove old => cases hpermits
  | record r => rfl

/-- A policy that comes in takes a name that was free. -/
theorem card_freeNames_import (hfits : e.Fits tenant s)
    (hpermits : (StoreCall.importAll tenant drafts mode actor).Permits s e) :
    ((s.edit e).freeNames tenant drafts).card + (if e.isAdd then 1 else 0) =
      (s.freeNames tenant drafts).card := by
  cases e with
  | add p =>
    obtain ⟨hnamed, d, hd, hdescribes⟩ := hpermits
    have hfree : p.name ∈ s.freeNames tenant drafts :=
      mem_freeNames.2 ⟨List.mem_map.2 ⟨d, hd, hdescribes.name_eq.symm⟩, hnamed⟩
    have hafter : (s.edit (.add p)).freeNames tenant drafts =
        (s.freeNames tenant drafts).erase p.name := by
      rw [freeNames, freeNames, names_add hfits, Finset.sdiff_insert]
    rw [hafter]
    exact Finset.card_erase_add_one hfree
  | change old new =>
    obtain ⟨_, d, _, hname, now, rfl⟩ := hpermits
    rw [freeNames, names_change hfits hname]
    rfl
  | remove old => cases hpermits
  | record r => rfl

end Import

end StoreContents

/-! ### Whole calls -/

namespace StoreCall.Makes

variable {c : StoreCall} {s s' : MemoryStore} {added : Nat}

theorem held_le (hmakes : c.Makes added s s') (hs : s.contents.Indexed) :
    s'.contents.held c.tenant ≤ s.contents.held c.tenant + added := by
  refine hmakes.induct (R := fun n t t' => t'.held c.tenant ≤ t.held c.tenant + n)
    (fun _ => Nat.le_refl _) ?_ hs
  intro n t e t' _ hfits _ hrest
  have hedit := StoreContents.held_edit hfits
  omega

theorem names_subset (hmakes : c.Makes added s s') (hs : s.contents.Indexed)
    (hbrings : c.brings) : s.contents.names c.tenant ⊆ s'.contents.names c.tenant := by
  refine hmakes.induct (R := fun _ t t' => t.names c.tenant ⊆ t'.names c.tenant)
    (fun _ => Finset.Subset.refl _) ?_ hs
  intro n t e t' _ hfits hpermits hrest
  exact (StoreContents.names_edit hbrings hfits hpermits).trans hrest

/-- An import reports truly how many policies it brought in, and uses up a free name for each. -/
theorem of_import {tenant : TenantId} {drafts : List PolicyDraft} {mode : ImportMode}
    {actor : String} (hmakes : (StoreCall.importAll tenant drafts mode actor).Makes added s s')
    (hs : s.contents.Indexed) :
    (s'.contents.ownedBy tenant).length = (s.contents.ownedBy tenant).length + added ∧
    (s'.contents.freeNames tenant drafts).card + added =
      (s.contents.freeNames tenant drafts).card := by
  refine hmakes.induct (R := fun n t t' =>
    (t'.ownedBy tenant).length = (t.ownedBy tenant).length + n ∧
      (t'.freeNames tenant drafts).card + n = (t.freeNames tenant drafts).card)
    (fun _ => ⟨rfl, rfl⟩) ?_ hs
  rintro n t e t' _ hfits hpermits ⟨hlength, hcard⟩
  have hedit : ((t.edit e).ownedBy tenant).length =
      (t.ownedBy tenant).length + if e.isAdd then 1 else 0 :=
    StoreContents.length_ownedBy_import hfits hpermits
  have hfree : ((t.edit e).freeNames tenant drafts).card + (if e.isAdd then 1 else 0) =
      (t.freeNames tenant drafts).card :=
    StoreContents.card_freeNames_import hfits hpermits
  omega

theorem added_eq_zero (hmakes : c.Makes added s s') (hs : s.contents.Indexed)
    (hbrings : c.brings = false) : added = 0 := by
  refine hmakes.induct (R := fun n _ _ => n = 0) (fun _ => rfl) ?_ hs
  rintro n t e t' _ _ hpermits rfl
  cases e with
  | add p =>
    cases c with
    | create | importAll => cases hbrings
    | _ => cases hpermits
  | _ => rfl

end StoreCall.Makes

end Governance
