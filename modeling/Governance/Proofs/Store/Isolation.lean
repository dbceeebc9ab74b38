import Mathlib.Data.List.Perm.Basic
import Governance.Proofs.Listing.Order
import Governance.Proofs.Store.Edits

/-!
# Tenants in a store do not concern each other

Identifiers are shared by all tenants, and whoever drafts a policy may choose one. Still an edit on
behalf of one tenant leaves the policies and the revisions of every other tenant as they are: a policy
comes in only under an identifier that is free, and only the tenant's own policies change or go. What
is read on behalf of a tenant hangs only on the policies of the tenant and on the revisions that show
one of them, and on the order of policies only where two of them have the same name.
-/

namespace Governance

/-! ### Policies in no particular order -/

/-- The same policies, and those of one name in the same order. -/
def AlikeOrdered (l l' : List Policy) : Prop :=
  ∀ name, (l.filter fun p => p.name = name) = l'.filter fun p => p.name = name

namespace AlikeOrdered

variable {l l' : List Policy}

theorem mem_iff (h : AlikeOrdered l l') {p : Policy} : p ∈ l ↔ p ∈ l' := by
  have hname := congrArg (p ∈ ·) (h p.name)
  simpa [List.mem_filter] using hname

theorem filter (h : AlikeOrdered l l') (q : Policy → Bool) :
    AlikeOrdered (l.filter q) (l'.filter q) := by
  intro name
  rw [List.filter_comm, h name, List.filter_comm]

theorem perm (h : AlikeOrdered l l') (hl : l.Nodup) (hl' : l'.Nodup) : l.Perm l' :=
  (List.perm_ext_iff_of_nodup hl hl').2 fun _ => h.mem_iff

theorem find_eq (h : AlikeOrdered l l') (name : String) :
    (l.find? fun p => p.name = name) = l'.find? fun p => p.name = name := by
  rw [← List.head?_filter, ← List.head?_filter, h name]

/-- The order of assessment tells policies of different names apart. -/
theorem assessmentOrder_eq (h : AlikeOrdered l l') : assessmentOrder l = assessmentOrder l' := by
  refine mergeSort_eq_of_groupOf_eq Policy.precedes_total Policy.precedes_trans fun a => ?_
  have hgroup (m : List Policy) : groupOf Policy.precedes a m =
      (m.filter fun p => p.name = a.name).filter fun b => a.precedes b && b.precedes a := by
    rw [groupOf, List.filter_filter]
    refine List.filter_congr fun b _ => ?_
    by_cases hname : b.name = a.name
    · simp [hname]
    · have hapart : (a.precedes b && b.precedes a) = false := by
        rw [Bool.eq_false_iff, ne_eq, Bool.and_eq_true]
        exact fun h => hname (Policy.precedes_antisymm h.2 h.1)
      simp [hapart]
  rw [hgroup, hgroup, h a.name]

/-- A decision does not hang on anything else than what the order of assessment leaves. -/
theorem ofPolicies_eq (h : AlikeOrdered l l') (r : Request) :
    Decision.ofPolicies l r = Decision.ofPolicies l' r := by
  unfold Decision.ofPolicies
  rw [h.assessmentOrder_eq]

/-- A listing tells policies of different identifiers apart. -/
theorem select_eq (h : AlikeOrdered l l') (hl : l.Nodup) (hl' : l'.Nodup)
    (hids : ∀ p ∈ l, ∀ q ∈ l, p.id = q.id → p = q) (listing : Listing) :
    listing.select l = listing.select l' :=
  listing.select_eq_of_perm (h.perm hl hl') hids

end AlikeOrdered

namespace StoreContents

/-- The revisions under an identifier that show a policy of a tenant, the first one first. -/
def recorded (s : StoreContents) (tenant : TenantId) (id : PolicyId) : List Revision :=
  (s.history id).filter fun r => r.snapshot.tenant = tenant

variable {s s' : StoreContents} {tenant other : TenantId}

/-! ### Edits for another tenant -/

/-- The policies and the revisions of a tenant are as they were. -/
structure KeepsFor (tenant : TenantId) (s s' : StoreContents) : Prop where
  policies : s'.ownedBy tenant = s.ownedBy tenant
  revisions : ∀ id, s'.recorded tenant id = s.recorded tenant id

theorem ownedBy_edit (hs : s.Indexed) {e : StoreEdit} (hfits : e.Fits other s)
    (hother : other ≠ tenant) : (s.edit e).ownedBy tenant = s.ownedBy tenant := by
  have hforeign {p : Policy} (hp : p.tenant = other) : decide (p.tenant = tenant) = false :=
    decide_eq_false fun h => hother (hp.symm.trans h)
  cases e with
  | add p =>
    refine Keyed.filter_values_put (hforeign hfits.2) fun old hold => ?_
    rw [hfits.1] at hold
    cases hold
  | change old new =>
    obtain ⟨howned, hid, htenant, _⟩ := hfits
    obtain ⟨hget, hold⟩ := owned_eq_some.1 howned
    refine Keyed.filter_values_put (hforeign (htenant.trans hold)) fun p hp => ?_
    rw [hid, hget] at hp
    obtain rfl := Option.some.inj hp
    exact hforeign hold
  | remove old =>
    obtain ⟨hget, hold⟩ := owned_eq_some.1 hfits
    refine hs.filter_values_erase fun p hp => ?_
    rw [hget] at hp
    obtain rfl := Option.some.inj hp
    exact hforeign hold
  | record r => rfl

theorem recorded_edit {e : StoreEdit} (hfits : e.Fits other s) (hother : other ≠ tenant)
    (id : PolicyId) : (s.edit e).recorded tenant id = s.recorded tenant id := by
  cases e with
  | record r =>
    have hforeign : r.snapshot.tenant ≠ tenant := by
      rw [(owned_eq_some.1 hfits).2]
      exact hother
    rw [recorded, edit, history_append]
    split
    · rename_i hid
      rw [hid, List.filter_append]
      simp [recorded, hforeign]
    · rfl
  | _ => rfl

end StoreContents

/-- Whatever is done on behalf of a call, the policies and the revisions of other tenants stay. -/
theorem StoreCall.Makes.keepsFor {tenant : TenantId} {c : StoreCall} {s s' : MemoryStore}
    {added : Nat} (hmakes : c.Makes added s s') (hs : s.contents.Indexed)
    (hother : c.tenant ≠ tenant) : s.contents.KeepsFor tenant s'.contents := by
  refine hmakes.keeps (P := fun t => s.contents.KeepsFor tenant t) ?_ hs ⟨rfl, fun _ => rfl⟩
  rintro t e ht hfits _ ⟨hpolicies, hrevisions⟩
  refine ⟨(StoreContents.ownedBy_edit ht hfits hother).trans hpolicies, fun id => ?_⟩
  exact (StoreContents.recorded_edit hfits hother id).trans (hrevisions id)

/-! ### Reading for a tenant -/

namespace StoreContents

variable {s s' : StoreContents} {tenant : TenantId}

/-- Two contents hold the same policies of a tenant, those of one name in the same order, and the same
revisions that show one of them. -/
structure AgreesFor (tenant : TenantId) (s s' : StoreContents) : Prop where
  policies : AlikeOrdered (s.ownedBy tenant) (s'.ownedBy tenant)
  revisions : ∀ id, s.recorded tenant id = s'.recorded tenant id

theorem Indexed.nodup_ownedBy (hs : s.Indexed) : (s.ownedBy tenant).Nodup :=
  hs.nodup_values.filter _

theorem Indexed.eq_of_id_eq (hs : s.Indexed) {p q : Policy} (hp : p ∈ s.ownedBy tenant)
    (hq : q ∈ s.ownedBy tenant) (hid : p.id = q.id) : p = q := by
  rw [hs.mem_ownedBy] at hp hq
  rw [hid, hq] at hp
  exact (Option.some.inj hp).symm

namespace AgreesFor

variable (hagrees : AgreesFor tenant s s') (hs : s.Indexed) (hs' : s'.Indexed)

include hagrees hs hs'

theorem owned_eq (id : PolicyId) : s.owned tenant id = s'.owned tenant id := by
  have hfound {t t' : StoreContents} (ht : t.Indexed) (ht' : t'.Indexed)
      (hmem : ∀ p ∈ t.ownedBy tenant, p ∈ t'.ownedBy tenant) {p : Policy}
      (hp : t.owned tenant id = some p) : t'.owned tenant id = some p := by
    obtain rfl := ht.id_of_owned hp
    exact ht'.mem_ownedBy.1 (hmem p (ht.mem_ownedBy.2 hp))
  ext p
  exact ⟨hfound hs hs' fun _ => hagrees.policies.mem_iff.1,
    hfound hs' hs fun _ => hagrees.policies.mem_iff.2⟩

theorem pageOf_eq (listing : Listing) :
    listing.pageOf (s.ownedBy tenant) = listing.pageOf (s'.ownedBy tenant) := by
  unfold Listing.pageOf
  rw [hagrees.policies.select_eq hs.nodup_ownedBy hs'.nodup_ownedBy
    (fun p hp q hq => hs.eq_of_id_eq hp hq) listing]

theorem length_filter_eq (q : Policy → Bool) :
    ((s.ownedBy tenant).filter q).length = ((s'.ownedBy tenant).filter q).length :=
  ((hagrees.policies.perm hs.nodup_ownedBy hs'.nodup_ownedBy).filter q).length_eq

end AgreesFor

end StoreContents

/-- The same answer. The enabled policies are answered in the order in which they are kept, of which
only that of policies of one name counts. -/
def StoreCall.SameAnswer : (c : StoreCall) → c.Answer → c.Answer → Prop
  | .enabledPolicies _, .ok policies, .ok policies' => AlikeOrdered policies policies'
  | _, answer, answer' => answer = answer'

namespace MemoryStore

variable {s s' : MemoryStore} {tenant : TenantId}

/-- Reading for a tenant shows the same in stores that agree for it. -/
theorem sameAnswer_of_agreesFor (hs : s.contents.Indexed) (hs' : s'.contents.Indexed)
    (hagrees : s.contents.AgreesFor tenant s'.contents) {c : StoreCall} (hread : c.isRead)
    (htenant : c.tenant = tenant) (a a' : Ambient) :
    c.SameAnswer ((answer c).run s a).1.1 ((answer c).run s' a').1.1 := by
  subst htenant
  cases c with
  | create | update | delete | importAll => cases hread
  | get tenant id => exact congrArg Except.ok (hagrees.owned_eq hs hs' id)
  | findByName tenant name => exact congrArg Except.ok (hagrees.policies.find_eq name)
  | list tenant listing => exact congrArg Except.ok (hagrees.pageOf_eq hs hs' listing)
  | countTenantTier tenant => exact congrArg Except.ok (hagrees.length_filter_eq hs hs' _)
  | revisions tenant id =>
    exact congrArg (fun l => Except.ok (l.mergeSort StoreContents.isLater)) (hagrees.revisions id)
  | exportAll tenant =>
    exact congrArg (fun page => Except.ok page.items) (hagrees.pageOf_eq hs hs' .everything)
  | enabledPolicies tenant => exact hagrees.policies.filter _

theorem answer_eq_of_ownedBy_eq (hs : s.contents.Indexed) (hs' : s'.contents.Indexed)
    (hagrees : s.contents.AgreesFor tenant s'.contents)
    (hpolicies : s.contents.ownedBy tenant = s'.contents.ownedBy tenant) {c : StoreCall}
    (hread : c.isRead) (htenant : c.tenant = tenant) (a a' : Ambient) :
    ((answer c).run s a).1.1 = ((answer c).run s' a').1.1 := by
  have hsame := sameAnswer_of_agreesFor hs hs' hagrees hread htenant a a'
  subst htenant
  cases c with
  | enabledPolicies tenant => exact congrArg (fun l => Except.ok (l.filter (·.enabled))) hpolicies
  | create | update | delete | importAll => cases hread
  | _ => exact hsame

end MemoryStore

end Governance
