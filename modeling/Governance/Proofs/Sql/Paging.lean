import Governance.Proofs.Listing.Order
import Governance.Proofs.Sql.PolicyStore
import Governance.Proofs.Sql.Searching
import Governance.Proofs.Store.Isolation

/-!
# Pages of a listing

A table ranks the policies of a listing like the listing itself, by a key and then by their identifiers. They
part where the listing is descending and policies have equal keys: a listing turns its whole order round, the
table only that of the keys. So a listing has the same pages in both stores if it is ascending or no two
policies on it have equal keys; otherwise policies change places, also across pages.
-/

namespace Governance

/-- A policy with its times as a database keeps them. -/
def Policy.stored (p : Policy) : Policy :=
  { p with createdAt := Sql.kept p.createdAt, updatedAt := Sql.kept p.updatedAt }

namespace Sql

/-! ### Which of two policies comes first -/

theorem inOrder_text_isLE (s t : String) :
    (inOrder (fun a b : String => decide (a < b)) s t).isLE = decide (s ≤ t) := by
  unfold inOrder
  rcases lt_trichotomy s t with hlt | rfl | hgt
  · simp [hlt, hlt.le]
  · simp
  · simp [hgt, hgt.not_gt]

namespace PolicyTable

variable {l : Listing} {a b : Policy}

theorem compare?_sortKey (key : SortKey) (a b : Policy) :
    ((rowOf a).value key.word).compare? ((rowOf b).value key.word) =
      some (inOrder (Listing.keyBefore key) a.stored b.stored) := by
  cases key with
  | name | createdAt | updatedAt => rfl
  | priority =>
    change some (inOrder (fun m n : Int => decide (m < n)) a.priority.toInt b.priority.toInt) = _
    simp only [inOrder, Listing.keyBefore, Policy.stored, Int32.lt_iff_toInt_lt]

theorem compareBy_listingOrder (l : Listing) (a b : Policy) :
    compareBy (listingOrder l) (rowOf a) (rowOf b) =
      (if l.ascending then inOrder (Listing.keyBefore l.sort) a.stored b.stored
        else (inOrder (Listing.keyBefore l.sort) a.stored b.stored).swap).then
      (inOrder (fun s t : String => decide (s < t)) a.id.text b.id.text) := by
  have hid : ((rowOf a).value "id").compare? ((rowOf b).value "id") =
      some (inOrder (fun s t : String => decide (s < t)) a.id.text b.id.text) := rfl
  simp only [listingOrder, compareBy, OrderKey.compare, compare?_sortKey, hid, Option.getD_some]
  cases l.ascending <;> simp

/-- Whether a policy may stand before another one in an answer of the table. -/
def ranks (l : Listing) (a b : Policy) : Bool := (compareBy (listingOrder l) (rowOf a) (rowOf b)).isLE

/-- The table ranks policies like the listing, and the other way round if the listing is descending and their
keys are equal. -/
theorem ranks_eq (l : Listing) (a b : Policy) : ranks l a b =
    if l.ascending || Listing.keyBefore l.sort a.stored b.stored ||
      Listing.keyBefore l.sort b.stored a.stored
    then l.precedes a.stored b.stored else l.precedes b.stored a.stored := by
  have hasymm := (Listing.isWeakOrder_keyBefore l.sort).asymm a.stored b.stored
  have hid : a.stored.id = a.id ∧ b.stored.id = b.id := ⟨rfl, rfl⟩
  rw [ranks, compareBy_listingOrder, Listing.precedes, Listing.precedes, Listing.ordered,
    Listing.ordered, hid.1, hid.2, inOrder]
  cases hab : Listing.keyBefore l.sort a.stored b.stored with
  | true =>
    rw [hasymm hab]
    cases l.ascending <;> rfl
  | false =>
    cases hba : Listing.keyBefore l.sort b.stored a.stored with
    | true => cases l.ascending <;> rfl
    | false =>
      have htied := inOrder_text_isLE a.id.text b.id.text
      cases l.ascending <;> simpa using htied

/-! ### Pages -/

theorem only_rowOf (p : Policy) : Row.only policyTable.columnNames (rowOf p) = rowOf p := rfl

/-- The policies of a listing among others, in no particular order. -/
def wanted (tenant : TenantId) (l : Listing) (policies : List Policy) : List Policy :=
  (policies.filter fun p => p.tenant = tenant).filter l.accepts

variable {tenant : TenantId} {policies : List Policy}

theorem mem_wanted {p : Policy} :
    p ∈ wanted tenant l policies ↔ p ∈ policies ∧ p.tenant = tenant ∧ l.accepts p := by
  rw [wanted, List.mem_filter, List.mem_filter, decide_eq_true_eq, and_assoc]

theorem passing_listingTests (hplain : ∀ text ∈ l.search, Like.isPlain text) :
    passing (listingTests tenant l) (policies.map rowOf) = (wanted tenant l policies).map rowOf := by
  have hselects (p : Policy) : selects tenant l p = (decide (p.tenant = tenant) && l.accepts p) := by
    rw [← escapedSearch_eq_self hplain, selects_escapedSearch, escapedSearch_eq_self hplain]
  have hpassing : passing (listingTests tenant l) (policies.map rowOf) =
      (policies.filter (selects tenant l)).map rowOf := List.filter_map
  rw [hpassing, wanted, List.filter_filter]
  congr 1
  refine List.filter_congr fun p _ => ?_
  rw [hselects, Bool.and_comm]

/-- No two policies that are wanted have equal keys, unless the listing is ascending. -/
def Separates (tenant : TenantId) (l : Listing) (policies : List Policy) : Prop :=
  l.ascending = false → ∀ a ∈ wanted tenant l policies, ∀ b ∈ wanted tenant l policies,
    a.id ≠ b.id → Listing.keyBefore l.sort a b ∨ Listing.keyBefore l.sort b a

/-- Policies that a table gives back as they are, each with an identifier of its own. -/
structure Faithful (policies : List Policy) : Prop where
  canonical : ∀ p ∈ policies, p.IsCanonical
  usable : ∀ p ∈ policies, p.id.isUsable ∧ p.tenant.isUsable
  stored : ∀ p ∈ policies, p.stored = p
  distinct : ∀ p ∈ policies, ∀ q ∈ policies, p.id = q.id → p = q

theorem ranks_eq_precedes (hfaithful : Faithful policies) (hseparates : Separates tenant l policies)
    (ha : a ∈ wanted tenant l policies) (hb : b ∈ wanted tenant l policies) :
    ranks l a b = l.precedes a b := by
  have hina := (mem_wanted.1 ha).1
  have hinb := (mem_wanted.1 hb).1
  rw [ranks_eq, hfaithful.stored a hina, hfaithful.stored b hinb]
  split
  · rfl
  · rename_i htied
    simp only [Bool.or_eq_true, not_or, Bool.not_eq_true] at htied
    obtain ⟨⟨hdescending, hab⟩, hba⟩ := htied
    have hid : a.id = b.id := by
      by_contra hne
      rcases hseparates hdescending a ha b hb hne with h | h
      · exact Bool.false_ne_true (hab.symm.trans h)
      · exact Bool.false_ne_true (hba.symm.trans h)
    rw [hfaithful.distinct a hina b hinb hid]

theorem sorted_eq {sorted : List Row} (hfaithful : Faithful policies)
    (hseparates : Separates tenant l policies)
    (hperm : sorted.Perm ((wanted tenant l policies).map rowOf))
    (hsorted : sorted.Pairwise fun a b => (compareBy (listingOrder l) a b).isLE) :
    sorted = (l.select (policies.filter fun p => p.tenant = tenant)).map rowOf := by
  have hselect : (l.select (policies.filter fun p => p.tenant = tenant)).Perm
      (wanted tenant l policies) := List.mergeSort_perm ..
  have hrows : ((l.select (policies.filter fun p => p.tenant = tenant)).map rowOf).Pairwise
      fun a b => (compareBy (listingOrder l) a b).isLE := by
    rw [List.pairwise_map]
    have hselected : (l.select (policies.filter fun p => p.tenant = tenant)).Pairwise (l.precedes · ·) :=
      List.pairwise_mergeSort l.precedes_trans l.precedes_total _
    refine hselected.imp_of_mem fun ha hb hab => ?_
    change ranks l _ _
    rwa [ranks_eq_precedes hfaithful hseparates (hselect.mem_iff.1 ha) (hselect.mem_iff.1 hb)]
  refine List.Perm.eq_of_pairwise ?_ hsorted hrows (hperm.trans (hselect.map rowOf).symm)
  intro x y hx hy hxy hyx
  obtain ⟨a, ha, rfl⟩ := List.mem_map.1 (hperm.mem_iff.1 hx)
  obtain ⟨b, hb, rfl⟩ := List.mem_map.1 hy
  rw [hselect.mem_iff] at hb
  change ranks l a b at hxy
  change ranks l b a at hyx
  rw [ranks_eq_precedes hfaithful hseparates ha hb] at hxy
  rw [ranks_eq_precedes hfaithful hseparates hb ha] at hyx
  rw [hfaithful.distinct a (mem_wanted.1 ha).1 b (mem_wanted.1 hb).1 (l.precedes_antisymm hxy hyx)]

theorem pageSizeOf_le (size : Option Int) : (pageSizeOf size).toNat ≤ 100 := by
  unfold pageSizeOf
  split
  · split
    · rename_i size hsize
      rw [Bool.and_eq_true, decide_eq_true_eq, decide_eq_true_eq] at hsize
      have hlargest : largestPageSize = 100 := rfl
      have hmod : (UInt32.ofNat size.toNat).toNat ≤ size.toNat := Nat.mod_le ..
      omega
    · decide
  · decide

/-- Nobody can ask for a page that begins beyond what a command can pass over. -/
theorem offset_le (q : ListingQuery) : q.normalize.offset.toNat ≤ largestOffset := by
  have hsize : q.normalize.pageSize.toNat ≤ 100 := pageSizeOf_le q.pageSize
  have hpage : (q.normalize.page - 1).toNat < 2 ^ 32 := (q.normalize.page - 1).toNat_lt
  have hoffset : q.normalize.offset.toNat ≤
      (q.normalize.page - 1).toNat * q.normalize.pageSize.toNat := Nat.mod_le ..
  have hlargest : 2 ^ 32 * 100 ≤ largestOffset := by decide
  exact hoffset.trans ((Nat.mul_le_mul hpage.le hsize).trans hlargest)

/-- What the table answers to a listing is its page of the policies. -/
theorem rows_of_listingPage {q : ListingQuery} {found : List Row}
    (hplain : ∀ text ∈ q.normalize.search, Like.isPlain text) (hfaithful : Faithful policies)
    (hseparates : Separates tenant q.normalize policies)
    (hfound : (listingPage tenant q.normalize).IsAnswer (policies.map rowOf) found) :
    found = (q.normalize.pageOf (policies.filter fun p => p.tenant = tenant)).items.map rowOf := by
  obtain ⟨sorted, hperm, hsorted, rfl⟩ := hfound
  have hperm' : sorted.Perm ((wanted tenant q.normalize policies).map rowOf) := by
    rwa [← passing_listingTests hplain]
  obtain rfl := sorted_eq hfaithful hseparates hperm' hsorted
  have honly : Row.only policyTable.columnNames ∘ rowOf = rowOf := funext only_rowOf
  have hoffset : min q.normalize.offset.toNat largestOffset = q.normalize.offset.toNat :=
    min_eq_left (offset_le q)
  change ((((q.normalize.select _).map rowOf).drop (min _ largestOffset)).take _).map _ = _
  rw [hoffset, ← List.map_drop, ← List.map_take, List.map_map]
  exact congrArg (fun f => List.map f _) honly

end PolicyTable

namespace PolicyStore

open PolicyTable

variable {tenant : TenantId} {policies : List Policy} {q : ListingQuery}

/-- Whether a command that reads a table is answered as it is meant. -/
def IsMet (table : List Row) (answers : (c : Call) → c.Answer) (c : Command) : Prop :=
  ∃ r, answers (.execute c) = .ok r ∧ c.IsAnswer table r.rows

theorem mem_of_mem_pageOf {l : Listing} {p : Policy}
    (hp : p ∈ (l.pageOf (policies.filter fun p => p.tenant = tenant)).items) : p ∈ policies := by
  have hselected := List.mem_of_mem_drop (List.mem_of_mem_take hp)
  have hwanted : p ∈ wanted tenant l policies := (List.mergeSort_perm ..).mem_iff.1 hselected
  exact (mem_wanted.1 hwanted).1

/-- Pages are read off the table as they would be taken from the policies themselves. -/
theorem list_eq_pageOf {answers : (c : Call) → c.Answer} (hfaithful : Faithful policies)
    (hplain : ∀ text ∈ q.normalize.search, Like.isPlain text)
    (hseparates : Separates tenant q.normalize policies)
    (hcount : IsMet (policies.map rowOf) answers (listingCount tenant q.normalize))
    (hpage : IsMet (policies.map rowOf) answers (listingPage tenant q.normalize)) :
    ((list tenant q.normalize).run.replay answers).2 =
      .ok (q.normalize.pageOf (policies.filter fun p => p.tenant = tenant)) := by
  obtain ⟨⟨counts, affected⟩, hcounts, hnumber⟩ := hcount
  obtain ⟨⟨found, affected'⟩, hfound, hrows⟩ := hpage
  obtain rfl := rows_of_listingPage hplain hfaithful hseparates hrows
  have htotal : (passing (listingTests tenant q.normalize) (policies.map rowOf)).length =
      (q.normalize.pageOf (policies.filter fun p => p.tenant = tenant)).total := by
    rw [passing_listingTests hplain, List.length_map]
    exact (List.mergeSort_perm ..).length_eq.symm
  have hcounted : counted (answers (.execute (listingCount tenant q.normalize))) =
      .ok (q.normalize.pageOf (policies.filter fun p => p.tenant = tenant)).total := by
    rw [hcounts, ← htotal]
    change counts = _ at hnumber
    rw [hnumber]
    rfl
  have hitems : ∀ p ∈ (q.normalize.pageOf (policies.filter fun p => p.tenant = tenant)).items,
      p ∈ policies := fun p hp => mem_of_mem_pageOf hp
  have hread : loaded "list policies" ofRow (answers (.execute (listingPage tenant q.normalize))) =
      .ok (q.normalize.pageOf (policies.filter fun p => p.tenant = tenant)).items := by
    rw [hfound, loaded_rowsOf (fun p hp => hfaithful.canonical p (hitems p hp))
      (fun p hp => (hfaithful.usable p (hitems p hp)).2), allReadBack, if_pos]
    exact List.all_eq_true.2 fun p hp => (hfaithful.usable p (hitems p hp)).1
  rw [list_of_loaded hcounted hread]
  rfl

/-- The table ranks policies like the listing of policies that are held, but for equal keys of a descending
listing; and where these do not occur, both stores answer to a query with the same page. -/
theorem listings_alike (l : Listing) :
    (∀ a b : Policy, ranks l a b =
      if l.ascending || Listing.keyBefore l.sort a.stored b.stored ||
        Listing.keyBefore l.sort b.stored a.stored
      then l.precedes a.stored b.stored else l.precedes b.stored a.stored) ∧
    ∀ q : ListingQuery, q.normalize = l → ∀ (s : MemoryStore) (tenant : TenantId)
      (answers : (c : Call) → c.Answer), Faithful s.contents.policies.values →
      (∀ text ∈ l.search, Like.isPlain text) → Separates tenant l s.contents.policies.values →
      IsMet (s.contents.policies.values.map rowOf) answers (listingCount tenant l) →
      IsMet (s.contents.policies.values.map rowOf) answers (listingPage tenant l) →
      ∀ a, ((answer (.list tenant l)).replay answers).2 =
        ((MemoryStore.answer (.list tenant l)).run s a).1.1 := by
  refine ⟨ranks_eq l, ?_⟩
  rintro q rfl s tenant answers hfaithful hplain hseparates hcount hpage a
  exact list_eq_pageOf hfaithful hplain hseparates hcount hpage

/-- A database that has only a count and some rows to answer with. -/
def answersWith (count : Nat) (rows : List Row) : (c : Call) → c.Answer
  | .execute (.count ..) => .ok ⟨[[(Command.countColumn, .integer count)]], 1⟩
  | .execute _ => .ok ⟨rows, rows.length⟩
  | .connect => .ok ()
  | .start => .error .closed
  | .finish .. => .error .closed
  | .abandon _ => ()
  | .within t _ => (.error .closed, t)
  | .prepare t _ => (.error .closed, t)
  | .mark t => (.error .closed, t)
  | .settle _ t => (.error .closed, t)
  | .leave t => t
  | .now => ⟨0, 0⟩
  | .uuid => ⟨0⟩
  | .report _ => ()

def urgentRule : Policy := { draftedRule with id := ⟨"p2"⟩, name := "Account numbers", priority := 5 }

/-- The policies of a store in memory. -/
def twoRules : MemoryStore := ⟨⟨⟨[(⟨"p1"⟩, draftedRule), (⟨"p2"⟩, urgentRule)]⟩, .empty⟩, false, false⟩

/-- What has the highest priority. -/
def mostUrgent : ListingQuery :=
  { ListingQuery.blank with sortBy := some "priority", pageSize := some 1 }

theorem wanted_mostUrgent : wanted ⟨"acme"⟩ mostUrgent.normalize twoRules.contents.policies.values =
    [draftedRule, urgentRule] := rfl

theorem faithful_twoRules : Faithful twoRules.contents.policies.values := by
  have hvalues : twoRules.contents.policies.values = [draftedRule, urgentRule] := rfl
  rw [hvalues]
  constructor
  · rintro p hp
    simp only [List.mem_cons, List.not_mem_nil, or_false] at hp
    rcases hp with rfl | rfl <;> exact ⟨nofun, nofun⟩
  · decide
  · rintro p hp
    simp only [List.mem_cons, List.not_mem_nil, or_false] at hp
    rcases hp with rfl | rfl <;> rfl
  · simp [draftedRule, urgentRule]

theorem separates_twoRules :
    Separates ⟨"acme"⟩ mostUrgent.normalize twoRules.contents.policies.values := by
  intro _ a ha b hb hne
  rw [wanted_mostUrgent] at ha hb
  simp only [List.mem_cons, List.not_mem_nil, or_false] at ha hb
  rcases ha with rfl | rfl <;> rcases hb with rfl | rfl
  · exact absurd rfl hne
  · exact .inl (by decide)
  · exact .inr (by decide)
  · exact absurd rfl hne

/-- Of two priorities the higher one stands on the first page. -/
theorem mostUrgent_listed :
    Faithful twoRules.contents.policies.values ∧
    (∀ text ∈ mostUrgent.normalize.search, Like.isPlain text) ∧
    Separates ⟨"acme"⟩ mostUrgent.normalize twoRules.contents.policies.values ∧
    IsMet (twoRules.contents.policies.values.map rowOf) (answersWith 2 [rowOf urgentRule])
      (listingCount ⟨"acme"⟩ mostUrgent.normalize) ∧
    IsMet (twoRules.contents.policies.values.map rowOf) (answersWith 2 [rowOf urgentRule])
      (listingPage ⟨"acme"⟩ mostUrgent.normalize) ∧
    ((answer (.list ⟨"acme"⟩ mostUrgent.normalize)).replay (answersWith 2 [rowOf urgentRule])).2 =
      ((MemoryStore.answer (.list ⟨"acme"⟩ mostUrgent.normalize)).run twoRules .initial).1.1 := by
  have hplain : ∀ text ∈ mostUrgent.normalize.search, Like.isPlain text := nofun
  have hpassing : passing (listingTests ⟨"acme"⟩ mostUrgent.normalize)
      (twoRules.contents.policies.values.map rowOf) = [draftedRule, urgentRule].map rowOf := by
    rw [passing_listingTests hplain, wanted_mostUrgent]
  have hcount : IsMet (twoRules.contents.policies.values.map rowOf) (answersWith 2 [rowOf urgentRule])
      (listingCount ⟨"acme"⟩ mostUrgent.normalize) := by
    refine ⟨_, rfl, ?_⟩
    change [[(Command.countColumn, Value.integer 2)]] = [[(Command.countColumn, .integer _)]]
    rw [hpassing]
    rfl
  have hpage : IsMet (twoRules.contents.policies.values.map rowOf) (answersWith 2 [rowOf urgentRule])
      (listingPage ⟨"acme"⟩ mostUrgent.normalize) := by
    refine ⟨_, rfl, [rowOf urgentRule, rowOf draftedRule], ?_, by decide, rfl⟩
    change List.Perm _ (passing (listingTests _ _) _)
    rw [hpassing]
    exact List.Perm.swap ..
  exact ⟨faithful_twoRules, hplain, separates_twoRules, hcount, hpage,
    (listings_alike mostUrgent.normalize).2 mostUrgent rfl twoRules ⟨"acme"⟩ _ faithful_twoRules hplain
      separates_twoRules hcount hpage .initial⟩

/-- A policy with the same priority as the rule that was drafted. -/
def tiedRule : Policy := { urgentRule with priority := 0 }

/-- Two policies of one priority stand in one order in the table and in the other one in memory, and so each
store has another one on the first page. -/
theorem tied_policies_change_places :
    (ranks mostUrgent.normalize draftedRule tiedRule = true ∧
      mostUrgent.normalize.precedes draftedRule tiedRule = false) ∧
    (listingPage ⟨"acme"⟩ mostUrgent.normalize).IsAnswer ([draftedRule, tiedRule].map rowOf)
      [rowOf draftedRule] ∧
    (mostUrgent.normalize.pageOf [draftedRule, tiedRule]).items = [tiedRule] := by
  have hway : mostUrgent.normalize.precedes draftedRule tiedRule = false := by decide
  have hsorted : mostUrgent.normalize.select [draftedRule, tiedRule] = [tiedRule, draftedRule] := by
    have hfilter : [draftedRule, tiedRule].filter mostUrgent.normalize.accepts =
        [draftedRule, tiedRule] := rfl
    rw [Listing.select, hfilter]
    simp [List.mergeSort, List.MergeSort.Internal.splitInTwo, hway]
  refine ⟨⟨by decide, hway⟩, ?_, ?_⟩
  · exact ⟨[draftedRule, tiedRule].map rowOf, List.Perm.of_eq rfl, by decide, rfl⟩
  · rw [Listing.pageOf, hsorted]
    rfl

end PolicyStore

end Sql

end Governance
