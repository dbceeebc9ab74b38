import Mathlib.Algebra.Order.Floor.Div
import Governance.Proofs.Service.Isolation

/-!
# The pages of a listing

However the policies of a tenant lie in a store, a listing has them in one order only, since identifiers
settle equal keys. Its pages cut that list into pieces of one size: nothing is lost or shown twice where
one page ends and the next begins, the last page takes what is left, and there is nothing behind it.
-/

namespace Governance

/-! ### Cutting a list into pages -/

section Cutting

variable {α : Type} {size page : Nat} {found : List α}

/-- What stands on a page of a list, pages being counted from one. -/
def onPage (size page : Nat) (found : List α) : List α := (found.drop ((page - 1) * size)).take size

theorem flatMap_onPage (size count : Nat) (found : List α) :
    ((List.range count).flatMap fun i => onPage size (i + 1) found) =
      found.take (count * size) := by
  induction count with
  | zero => simp
  | succ count ih =>
    rw [List.range_succ, List.flatMap_append, ih, Nat.succ_mul, List.take_add]
    simp [onPage]

theorem pages_le_iff (hsize : 0 < size) (count : Nat) :
    found.length ⌈/⌉ size ≤ count ↔ found.length ≤ count * size := by
  rw [ceilDiv_le_iff_le_mul hsize, Nat.mul_comm]

theorem flatMap_onPage_all (hsize : 0 < size) (found : List α) :
    ((List.range (found.length ⌈/⌉ size)).flatMap fun i => onPage size (i + 1) found) = found := by
  rw [flatMap_onPage]
  exact List.take_of_length_le ((pages_le_iff hsize _).1 (Nat.le_refl _))

theorem length_onPage : (onPage size page found).length =
    min size (found.length - (page - 1) * size) := by
  rw [onPage, List.length_take, List.length_drop]

theorem length_onPage_of_lt (hsize : 0 < size) (hfirst : 1 ≤ page)
    (hpage : page < found.length ⌈/⌉ size) : (onPage size page found).length = size := by
  have hmore : page * size < found.length := by
    rw [← Nat.not_le, ← pages_le_iff hsize]
    exact Nat.not_le.2 hpage
  have hsplit : page * size = (page - 1) * size + size := by
    rw [← Nat.succ_mul, Nat.succ_eq_add_one, Nat.sub_add_cancel hfirst]
  rw [length_onPage]
  omega

theorem onPage_ne_nil (hsize : 0 < size) (hfirst : 1 ≤ page)
    (hpage : page ≤ found.length ⌈/⌉ size) : onPage size page found ≠ [] := by
  have hmore : (page - 1) * size < found.length := by
    rw [← Nat.not_le, ← pages_le_iff hsize]
    omega
  rw [← List.length_pos_iff_ne_nil, length_onPage]
  omega

theorem onPage_eq_nil (hsize : 0 < size) (hpage : found.length ⌈/⌉ size < page) :
    onPage size page found = [] := by
  have hless : found.length ≤ (page - 1) * size := by
    rw [← pages_le_iff hsize]
    omega
  rw [onPage, List.drop_eq_nil_of_le hless, List.take_nil]

end Cutting

/-! ### Listings and their pages -/

theorem pageOf_eq {k : Nat} (hfirst : 1 ≤ k) (hk : k < UInt32.size) :
    pageOf (some k) = UInt32.ofNat k := by
  rw [pageOf, if_pos]
  · rfl
  · simp only [Bool.and_eq_true, decide_eq_true_eq]
    omega

theorem one_le_pageOf (page : Option Int) : 1 ≤ (pageOf page).toNat := by
  cases page with
  | none => decide
  | some page =>
    rw [pageOf]
    split
    · rename_i hpage
      simp only [Bool.and_eq_true, decide_eq_true_eq] at hpage
      rw [UInt32.toNat_ofNat_of_lt' (by omega)]
      omega
    · decide

theorem pageSizeOf_pos (size : Option Int) : 0 < (pageSizeOf size).toNat := by
  cases size with
  | none => decide
  | some size =>
    rw [pageSizeOf]
    split
    · rename_i hsize
      rw [Bool.and_eq_true, decide_eq_true_eq, decide_eq_true_eq] at hsize
      have hlargest : largestPageSize = 100 := rfl
      have hlt : size.toNat < 2 ^ 32 := by omega
      rw [UInt32.toNat_ofNat_of_lt' hlt]
      omega
    · decide

/-- The query for another page of the same listing. -/
def ListingQuery.turnedTo (q : ListingQuery) (page : Nat) : ListingQuery :=
  { q with page := some page }

theorem ListingQuery.normalize_turnedTo (q : ListingQuery) {k : Nat} (hfirst : 1 ≤ k)
    (hk : k < UInt32.size) :
    (q.turnedTo k).normalize = { q.normalize with page := UInt32.ofNat k } := by
  rw [turnedTo, normalize, pageOf_eq hfirst hk]
  rfl

namespace Listing

variable {l : Listing} {a b : Policy}

/-- The offset of a page is exact, in the numbers that the machine has. -/
theorem toNat_offset (hpage : 1 ≤ l.page.toNat) :
    l.offset.toNat = (l.page.toNat - 1) * l.pageSize.toNat := by
  have hsub : (l.page - 1).toNat = l.page.toNat - 1 :=
    UInt32.toNat_sub_of_le _ _ (UInt32.le_iff_toNat_le.2 hpage)
  have hpageMax := l.page.toNat_lt
  have hsizeMax := l.pageSize.toNat_lt
  have hfits : (l.page.toNat - 1) * l.pageSize.toNat < 2 ^ 64 := by
    calc (l.page.toNat - 1) * l.pageSize.toNat
        ≤ (2 ^ 32 - 1) * (2 ^ 32 - 1) := Nat.mul_le_mul (by omega) (by omega)
      _ < 2 ^ 64 := by decide
  rw [offset, UInt64.toNat_mul, UInt32.toNat_toUInt64, UInt32.toNat_toUInt64, hsub]
  exact Nat.mod_eq_of_lt hfits

/-- A policy comes sooner than another one if its key is smaller, or the keys are equal and its
identifier is smaller. -/
def Sooner (key : SortKey) (a b : Policy) : Prop :=
  keyBefore key a b ∨ keyBefore key b a = false ∧ a.id.text < b.id.text

/-- A policy stands before another one in a listing: it comes sooner, or later if the listing is
descending. -/
def Before (l : Listing) (a b : Policy) : Prop :=
  if l.ascending then Sooner l.sort a b else Sooner l.sort b a

theorem not_sooner_of_sooner {key : SortKey} (hab : Sooner key a b) : ¬ Sooner key b a := by
  have hasymm := (isWeakOrder_keyBefore key).asymm
  rintro (hba | ⟨hba, hid⟩)
  · rcases hab with hab | ⟨hab, _⟩
    · exact Bool.false_ne_true ((hasymm a b hab).symm.trans hba)
    · exact Bool.false_ne_true (hab.symm.trans hba)
  · rcases hab with hab | ⟨_, hid'⟩
    · exact Bool.false_ne_true (hba.symm.trans hab)
    · exact lt_asymm hid hid'

theorem not_before_of_before (hab : l.Before a b) : ¬ l.Before b a := by
  unfold Before at hab ⊢
  split
  · rename_i hway
    rw [if_pos hway] at hab
    exact not_sooner_of_sooner hab
  · rename_i hway
    rw [if_neg hway] at hab
    exact not_sooner_of_sooner hab

theorem sooner_of_ordered {key : SortKey} (hab : ordered key a b) (hid : a.id ≠ b.id) :
    Sooner key a b := by
  rw [ordered_iff] at hab
  obtain ⟨hba, htie⟩ := hab
  cases hkey : keyBefore key a b with
  | true => exact .inl hkey
  | false =>
    refine .inr ⟨hba, lt_of_le_of_ne (htie hkey) fun htext => hid ?_⟩
    exact congrArg Identifier.mk htext

theorem before_of_precedes (hab : l.precedes a b) (hid : a.id ≠ b.id) : l.Before a b := by
  unfold precedes at hab
  unfold Before
  split
  · rename_i hway
    rw [if_pos hway] at hab
    exact sooner_of_ordered hab hid
  · rename_i hway
    rw [if_neg hway] at hab
    exact sooner_of_ordered hab hid.symm

theorem pairwise_select (l : Listing) {policies : List Policy} (hnodup : policies.Nodup)
    (hids : ∀ p ∈ policies, ∀ q ∈ policies, p.id = q.id → p = q) :
    (l.select policies).Pairwise l.Before := by
  have hperm : (l.select policies).Perm (policies.filter l.accepts) := List.mergeSort_perm _ _
  have hsorted : (l.select policies).Pairwise fun p q => l.precedes p q :=
    List.pairwise_mergeSort l.precedes_trans l.precedes_total _
  have hother : (l.select policies).Nodup := hperm.nodup_iff.2 (hnodup.filter _)
  refine (hsorted.and hother).imp_of_mem fun hp hq hpq => before_of_precedes hpq.1 fun hid => hpq.2 ?_
  exact hids _ (List.mem_of_mem_filter (hperm.subset hp)) _
    (List.mem_of_mem_filter (hperm.subset hq)) hid

end Listing

/-- What a listing finds among policies: those of the tenant that it accepts, each of them once, and in
order. -/
structure Listing.Finds (l : Listing) (tenant : TenantId) (policies found : List Policy) : Prop where
  mem_iff : ∀ p, p ∈ found ↔ p ∈ policies ∧ p.tenant = tenant ∧ l.accepts p
  nodup : found.Nodup
  inOrder : found.Pairwise l.Before

theorem Listing.Finds.unique {l : Listing} {tenant : TenantId} {policies found other : List Policy}
    (hfound : l.Finds tenant policies found) (hother : l.Finds tenant policies other) :
    found = other := by
  have hperm : found.Perm other :=
    (List.perm_ext_iff_of_nodup hfound.nodup hother.nodup).2 fun p =>
      (hfound.mem_iff p).trans (hother.mem_iff p).symm
  refine List.Perm.eq_of_pairwise ?_ hfound.inOrder hother.inOrder hperm
  exact fun p q _ _ hpq hqp => absurd hqp (Listing.not_before_of_before hpq)

/-- The page of a listing that shows its part of what is found. -/
def Listing.shownOn (l : Listing) (found : List Policy) (k : Nat) : ListedPolicies :=
  ⟨onPage l.pageSize.toNat k found, .ofNat k, l.pageSize, .ofNat found.length,
    .ofNat (found.length ⌈/⌉ l.pageSize.toNat)⟩

/-- Pages show all of what a listing has found, one after the other. All of them but the last are full,
the last is not empty, and those behind it are. -/
structure Listing.Paged (l : Listing) (found : List Policy) (page : Nat → ListedPolicies) : Prop where
  place : ∀ k, (page k).pagination = ⟨.ofNat k, l.pageSize, .ofNat found.length,
    .ofNat (found.length ⌈/⌉ l.pageSize.toNat)⟩
  all : ((List.range (found.length ⌈/⌉ l.pageSize.toNat)).flatMap fun i =>
    (page (i + 1)).policies) = found
  full : ∀ k, 1 ≤ k → k < found.length ⌈/⌉ l.pageSize.toNat →
    (page k).policies.length = l.pageSize.toNat
  last : ∀ k, 1 ≤ k → k ≤ found.length ⌈/⌉ l.pageSize.toNat → (page k).policies ≠ []
  beyond : ∀ k, found.length ⌈/⌉ l.pageSize.toNat < k → (page k).policies = []

theorem Listing.paged_shownOn (l : Listing) (hsize : 0 < l.pageSize.toNat) (found : List Policy) :
    l.Paged found (l.shownOn found) where
  place _ := rfl
  all := flatMap_onPage_all hsize found
  full _ := length_onPage_of_lt hsize
  last _ := onPage_ne_nil hsize
  beyond _ := onPage_eq_nil hsize

theorem StoreContents.Indexed.finds {s : StoreContents} (hs : s.Indexed) (tenant : TenantId)
    (l : Listing) : l.Finds tenant s.policies.values (l.select (s.ownedBy tenant)) := by
  have hperm : (l.select (s.ownedBy tenant)).Perm ((s.ownedBy tenant).filter l.accepts) :=
    List.mergeSort_perm _ _
  refine ⟨fun p => ?_, hperm.nodup_iff.2 (hs.nodup_ownedBy.filter _),
    l.pairwise_select hs.nodup_ownedBy fun p hp q hq => hs.eq_of_id_eq hp hq⟩
  rw [hperm.mem_iff, List.mem_filter, StoreContents.mem_ownedBy, and_assoc]

/-- The service answers every page of a listing out of the same list, in whichever order a store
holds its policies. -/
theorem Service.run_list_turnedTo {s t : MemoryStore} (hs : s.contents.Indexed)
    (hsame : t.contents.policies.values.Perm s.contents.policies.values) (tenant : TenantId)
    (q : ListingQuery) {k : Nat} (hfirst : 1 ≤ k) (hk : k < UInt32.size) (a : Ambient) :
    (Service.run (Service.list tenant (q.turnedTo k))).run t a =
      ((.ok (q.normalize.shownOn (q.normalize.select (s.contents.ownedBy tenant)) k), t), a) := by
  let turned : Listing := { q.normalize with page := .ofNat k }
  have hselect : turned.select (t.contents.ownedBy tenant) =
      q.normalize.select (s.contents.ownedBy tenant) := by
    refine (q.normalize.select_eq_of_perm (hsame.filter _).symm fun p hp q hq => ?_).symm
    exact hs.eq_of_id_eq hp hq
  have hpage : turned.page.toNat = k := UInt32.toNat_ofNat_of_lt' hk
  have hoffset : turned.offset.toNat = (k - 1) * q.normalize.pageSize.toNat := by
    rw [turned.toNat_offset (by rw [hpage]; exact hfirst), hpage]
  have hrun : (Service.run (Service.list tenant (q.turnedTo k))).run t a =
      ((.ok ⟨((q.turnedTo k).normalize.pageOf (t.contents.ownedBy tenant)).items,
        ((q.turnedTo k).normalize.pageOf (t.contents.ownedBy tenant)).pagination
          (q.turnedTo k).normalize⟩, t), a) := rfl
  rw [hrun, q.normalize_turnedTo hfirst hk, Listing.pageOf, hselect, hoffset, Listing.shownOn,
    Page.pagination, Nat.ceilDiv_eq_add_pred_div]
  rfl

/-- The pages of a listing partition what it finds, and the service answers every page that can be asked
for, in whichever order the store holds its policies. A page begins where it should, in numbers that the
machine has. -/
theorem pages_partition_matches {s : MemoryStore} (hs : s.Reachable) (tenant : TenantId)
    (q : ListingQuery) :
    let l := q.normalize
    1 ≤ l.page.toNat ∧ l.offset.toNat = (l.page.toNat - 1) * l.pageSize.toNat ∧
    ∃ found, l.Finds tenant s.contents.policies.values found ∧ l.Paged found (l.shownOn found) ∧
      ∀ k, 1 ≤ k → k < UInt32.size →
        ∀ t : MemoryStore, t.contents.policies.values.Perm s.contents.policies.values → ∀ a,
          (Service.run (Service.list tenant (q.turnedTo k))).run t a =
            ((.ok (l.shownOn found k), t), a) := by
  intro l
  have hpage : 1 ≤ l.page.toNat := one_le_pageOf q.page
  refine ⟨hpage, l.toNat_offset hpage, _, hs.indexed.finds tenant l,
    l.paged_shownOn (pageSizeOf_pos q.pageSize) _, ?_⟩
  intro k hfirst hk t hsame a
  exact Service.run_list_turnedTo hs.indexed hsame tenant q hfirst hk a

/-- The same rule under another identifier. -/
def acmeRuleAs (id : String) : Policy := { acmeRule with id := ⟨id⟩ }

def equalRules : List Policy := [acmeRuleAs "p1", acmeRuleAs "p2", acmeRuleAs "p3"]

def storeOfRules (first second third : String) : MemoryStore :=
  ((MemoryStore.empty.seed (acmeRuleAs first)).seed (acmeRuleAs second)).seed (acmeRuleAs third)

/-- Two to a page, the least urgent first. -/
def twoToAPage : ListingQuery :=
  { ListingQuery.blank with sortBy := some "priority", sortOrder := some "ASC", pageSize := some 2 }

/-- Where all keys are equal, two stores that got the policies in another order show the same pages. -/
theorem equalRules_paged :
    let shown := twoToAPage.normalize.shownOn equalRules
    (shown 1).policies = [acmeRuleAs "p1", acmeRuleAs "p2"] ∧
      (shown 2).policies = [acmeRuleAs "p3"] ∧ (shown 3).policies = [] ∧
      (shown 2).pagination = ⟨2, 2, 3, 2⟩ ∧
      ∀ k, 1 ≤ k → k < UInt32.size → ∀ a,
        ((Service.run (Service.list ⟨"acme"⟩ (twoToAPage.turnedTo k))).run
          (storeOfRules "p1" "p2" "p3") a).1.1 = .ok (shown k) ∧
        ((Service.run (Service.list ⟨"acme"⟩ (twoToAPage.turnedTo k))).run
          (storeOfRules "p2" "p3" "p1") a).1.1 = .ok (shown k) := by
  have hs : (storeOfRules "p1" "p2" "p3").Reachable :=
    ((MemoryStore.Reachable.empty.seed _).seed _).seed _
  have hother : (storeOfRules "p2" "p3" "p1").contents.policies.values.Perm
      (storeOfRules "p1" "p2" "p3").contents.policies.values := by
    have hturned : ([acmeRuleAs "p2", acmeRuleAs "p3"] ++ [acmeRuleAs "p1"]).Perm
      ([acmeRuleAs "p1"] ++ [acmeRuleAs "p2", acmeRuleAs "p3"]) := List.perm_append_comm
    exact hturned
  have hselect : twoToAPage.normalize.select
      ((storeOfRules "p1" "p2" "p3").contents.ownedBy ⟨"acme"⟩) = equalRules := by
    have hsorted : equalRules.Pairwise fun p q => twoToAPage.normalize.precedes p q := by
      decide +kernel
    exact List.mergeSort_of_pairwise hsorted
  obtain ⟨_, _, found, hfinds, hpaged, hanswer⟩ := pages_partition_matches hs ⟨"acme"⟩ twoToAPage
  have hrules := hfinds.unique (hs.indexed.finds ⟨"acme"⟩ twoToAPage.normalize)
  rw [hselect] at hrules
  subst hrules
  refine ⟨rfl, rfl, hpaged.beyond 3 (by decide), rfl, fun k hfirst hk a => ?_⟩
  rw [hanswer k hfirst hk _ (.refl _), hanswer k hfirst hk _ hother]
  exact ⟨rfl, rfl⟩

end Governance
