import Mathlib.Data.String.Basic
import Governance.Decision.Engine
import Governance.Listing.Basic

/-!
# Sorted policies

Policies are sorted in two places: a listing sorts them by a key and then by their identifiers, and
the engine by their priorities and then by their names. Both sorts keep the order of policies that
neither key tells apart. So what comes out is determined by these groups alone: lists that hold the
same groups, each in the same order, are sorted alike.
-/

namespace Governance

section Sorting

variable {α : Type} {le : α → α → Bool} {l l' : List α}

/-- The members of a list that an order does not tell apart from `a`, in their order. -/
def groupOf (le : α → α → Bool) (a : α) (l : List α) : List α :=
  l.filter fun b => le a b && le b a

theorem mem_groupOf {a b : α} : b ∈ groupOf le a l ↔ b ∈ l ∧ le a b ∧ le b a := by
  rw [groupOf, List.mem_filter, Bool.and_eq_true]

theorem groupOf_cons_of {a b : α} (hab : le a b) (hba : le b a) (l : List α) :
    groupOf le a (b :: l) = b :: groupOf le a l :=
  List.filter_cons_of_pos (by rw [hab, hba]; rfl)

theorem groupOf_cons_self (htotal : ∀ a b, le a b || le b a) (a : α) (l : List α) :
    groupOf le a (a :: l) = a :: groupOf le a l := by
  have hrefl : le a a := by simpa using htotal a a
  exact groupOf_cons_of hrefl hrefl l

theorem eq_of_groupOf_eq (htotal : ∀ a b, le a b || le b a)
    (hsorted : l.Pairwise (le · ·)) (hsorted' : l'.Pairwise (le · ·))
    (hgroups : ∀ a, groupOf le a l = groupOf le a l') : l = l' := by
  induction l generalizing l' with
  | nil =>
    cases l' with
    | nil => rfl
    | cons y rest =>
      have hempty := hgroups y
      rw [groupOf_cons_self htotal] at hempty
      cases hempty
  | cons x rest ih =>
    have hx : x ∈ l' := by
      have hmem : x ∈ groupOf le x l' := by
        rw [← hgroups x, groupOf_cons_self htotal]
        exact List.mem_cons_self
      exact (mem_groupOf.1 hmem).1
    cases l' with
    | nil => cases hx
    | cons y rest' =>
      have hrefl (a : α) : le a a := by simpa using htotal a a
      have hy : y ∈ x :: rest := by
        have hmem : y ∈ groupOf le y (x :: rest) := by
          rw [hgroups y, groupOf_cons_self htotal]
          exact List.mem_cons_self
        exact (mem_groupOf.1 hmem).1
      -- Both heads are least, so they are of one group, and the first of it.
      have hxy : le x y := by
        rcases List.mem_cons.1 hy with rfl | hlater
        · exact hrefl y
        · exact (List.pairwise_cons.1 hsorted).1 y hlater
      have hyx : le y x := by
        rcases List.mem_cons.1 hx with rfl | hlater
        · exact hrefl x
        · exact (List.pairwise_cons.1 hsorted').1 x hlater
      obtain rfl : x = y := by
        have hfirst := hgroups x
        rw [groupOf_cons_self htotal, groupOf_cons_of hxy hyx] at hfirst
        exact (List.cons.inj hfirst).1
      congr 1
      refine ih (List.pairwise_cons.1 hsorted).2 (List.pairwise_cons.1 hsorted').2 fun a => ?_
      have hgroup := hgroups a
      unfold groupOf at hgroup ⊢
      rw [List.filter_cons, List.filter_cons] at hgroup
      split at hgroup
      · exact (List.cons.inj hgroup).2
      · exact hgroup

theorem groupOf_mergeSort (htotal : ∀ a b, le a b || le b a)
    (htrans : ∀ a b c, le a b → le b c → le a c) (a : α) (l : List α) :
    groupOf le a (l.mergeSort le) = groupOf le a l := by
  have hgroup : (groupOf le a l).Pairwise (le · ·) := by
    rw [List.pairwise_iff_forall_sublist]
    intro b c hsub
    have hb := mem_groupOf.1 (hsub.subset (List.mem_cons_self : b ∈ [b, c]))
    have hc := mem_groupOf.1 (hsub.subset (List.mem_cons_of_mem b (List.mem_singleton_self c)))
    exact htrans b a c hb.2.2 hc.2.1
  have hsub : (groupOf le a l).Sublist (l.mergeSort le) :=
    List.sublist_mergeSort htrans htotal hgroup List.filter_sublist
  have hsub' : (groupOf le a l).Sublist (groupOf le a (l.mergeSort le)) := by
    have hfiltered := hsub.filter fun b => le a b && le b a
    rwa [show (groupOf le a l).filter (fun b => le a b && le b a) = groupOf le a l by
      rw [groupOf, List.filter_filter]
      simp only [Bool.and_self]] at hfiltered
  refine (hsub'.eq_of_length ?_).symm
  exact (((List.mergeSort_perm l le).filter _).length_eq).symm

/-- Lists with the same groups are sorted alike. -/
theorem mergeSort_eq_of_groupOf_eq (htotal : ∀ a b, le a b || le b a)
    (htrans : ∀ a b c, le a b → le b c → le a c)
    (hgroups : ∀ a, groupOf le a l = groupOf le a l') : l.mergeSort le = l'.mergeSort le := by
  refine eq_of_groupOf_eq htotal (List.pairwise_mergeSort htrans htotal l)
    (List.pairwise_mergeSort htrans htotal l') fun a => ?_
  rw [groupOf_mergeSort htotal htrans, groupOf_mergeSort htotal htrans, hgroups]

end Sorting

/-! ### The order of a listing -/

/-- Two values that are not apart in `lt` stand in the same place. -/
structure IsWeakOrder {α : Type} (lt : α → α → Bool) : Prop where
  asymm : ∀ a b, lt a b → lt b a = false
  negTrans : ∀ a b c, lt a b = false → lt b c = false → lt a c = false

theorem Instant.isWeakOrder_lt : IsWeakOrder Instant.lt := by
  constructor
  · intro a b hab
    simp only [lt, Bool.or_eq_true, Bool.and_eq_true, decide_eq_true_eq, Bool.or_eq_false_iff,
      Bool.and_eq_false_iff, decide_eq_false_iff_not] at hab ⊢
    omega
  · intro a b c hab hbc
    simp only [lt, Bool.or_eq_false_iff, Bool.and_eq_false_iff, decide_eq_false_iff_not]
      at hab hbc ⊢
    omega

namespace Listing

theorem isWeakOrder_keyBefore (key : SortKey) : IsWeakOrder (keyBefore key) := by
  cases key with
  | name =>
    constructor
    · intro a b hab
      simp only [keyBefore, decide_eq_true_eq, decide_eq_false_iff_not, not_lt] at hab ⊢
      exact hab.le
    · intro a b c hab hbc
      simp only [keyBefore, decide_eq_false_iff_not, not_lt] at hab hbc ⊢
      exact hbc.trans hab
  | priority =>
    constructor
    · intro a b hab
      simp only [keyBefore, decide_eq_true_eq, decide_eq_false_iff_not, Int32.lt_iff_toInt_lt]
        at hab ⊢
      omega
    · intro a b c hab hbc
      simp only [keyBefore, decide_eq_false_iff_not, Int32.lt_iff_toInt_lt] at hab hbc ⊢
      omega
  | createdAt =>
    exact ⟨fun a b => Instant.isWeakOrder_lt.asymm _ _,
      fun a b c => Instant.isWeakOrder_lt.negTrans _ _ _⟩
  | updatedAt =>
    exact ⟨fun a b => Instant.isWeakOrder_lt.asymm _ _,
      fun a b c => Instant.isWeakOrder_lt.negTrans _ _ _⟩

theorem ordered_iff {key : SortKey} {a b : Policy} : ordered key a b ↔
    keyBefore key b a = false ∧ (keyBefore key a b = false → a.id.text ≤ b.id.text) := by
  have hasymm := (isWeakOrder_keyBefore key).asymm a b
  unfold ordered
  cases hab : keyBefore key a b with
  | true => simpa using hasymm hab
  | false => simp

theorem ordered_total (key : SortKey) (a b : Policy) : ordered key a b || ordered key b a := by
  rw [Bool.or_eq_true, ordered_iff, ordered_iff]
  cases hab : keyBefore key a b with
  | true => exact .inl ⟨(isWeakOrder_keyBefore key).asymm a b hab, nofun⟩
  | false =>
    cases hba : keyBefore key b a with
    | true => exact .inr ⟨rfl, nofun⟩
    | false =>
      exact (le_total a.id.text b.id.text).imp (fun h => ⟨rfl, fun _ => h⟩) fun h => ⟨rfl, fun _ => h⟩

theorem ordered_trans (key : SortKey) (a b c : Policy) (hab : ordered key a b)
    (hbc : ordered key b c) : ordered key a c := by
  have horder := isWeakOrder_keyBefore key
  rw [ordered_iff] at hab hbc ⊢
  refine ⟨horder.negTrans c b a hbc.1 hab.1, fun hac => ?_⟩
  -- Where the keys of the ends are not apart, those in between are not either.
  have hid : a.id.text ≤ b.id.text := hab.2 (horder.negTrans a c b hac hbc.1)
  exact hid.trans (hbc.2 (horder.negTrans b a c hab.1 hac))

theorem ordered_antisymm {key : SortKey} {a b : Policy} (hab : ordered key a b)
    (hba : ordered key b a) : a.id = b.id := by
  rw [ordered_iff] at hab hba
  have htext : a.id.text = b.id.text := le_antisymm (hab.2 hba.1) (hba.2 hab.1)
  cases ha : a.id
  cases hb : b.id
  rw [ha, hb] at htext
  exact congrArg _ htext

variable (l : Listing)

theorem precedes_total (a b : Policy) : l.precedes a b || l.precedes b a := by
  unfold precedes
  cases l.ascending with
  | true => exact ordered_total l.sort a b
  | false => exact ordered_total l.sort b a

theorem precedes_trans (a b c : Policy) (hab : l.precedes a b) (hbc : l.precedes b c) :
    l.precedes a c := by
  unfold precedes at hab hbc ⊢
  cases hway : l.ascending with
  | true =>
    rw [hway] at hab hbc
    exact ordered_trans l.sort a b c hab hbc
  | false =>
    rw [hway] at hab hbc
    exact ordered_trans l.sort c b a hbc hab

theorem precedes_antisymm {a b : Policy} (hab : l.precedes a b) (hba : l.precedes b a) :
    a.id = b.id := by
  unfold precedes at hab hba
  cases hway : l.ascending with
  | true =>
    rw [hway] at hab hba
    exact ordered_antisymm hab hba
  | false =>
    rw [hway] at hab hba
    exact ordered_antisymm hba hab

/-- Policies with identifiers of their own are listed alike in whichever order they come. -/
theorem select_eq_of_perm {policies policies' : List Policy} (hperm : policies.Perm policies')
    (hids : ∀ p ∈ policies, ∀ q ∈ policies, p.id = q.id → p = q) :
    l.select policies = l.select policies' := by
  have hsorted (m : List Policy) : (m.mergeSort l.precedes).Pairwise fun p q => l.precedes p q :=
    List.pairwise_mergeSort l.precedes_trans l.precedes_total _
  refine List.Perm.eq_of_pairwise ?_ (hsorted _) (hsorted _)
    ((List.mergeSort_perm _ _).trans ((hperm.filter _).trans (List.mergeSort_perm _ _).symm))
  intro p q hp hq hpq hqp
  have hp' : p ∈ policies := List.mem_of_mem_filter (List.mem_mergeSort.1 hp)
  have hq' : q ∈ policies :=
    hperm.mem_iff.2 (List.mem_of_mem_filter (List.mem_mergeSort.1 hq))
  exact hids p hp' q hq' (l.precedes_antisymm hpq hqp)

end Listing

/-! ### The order of an assessment -/

namespace Policy

theorem precedes_iff {a b : Policy} : a.precedes b ↔
    b.priority.toInt < a.priority.toInt ∨
      (a.priority.toInt = b.priority.toInt ∧ a.name ≤ b.name) := by
  rw [precedes, Bool.or_eq_true, Bool.and_eq_true, decide_eq_true_iff, decide_eq_true_iff,
    decide_eq_true_iff, Int32.lt_iff_toInt_lt, Int32.toInt_inj]

theorem precedes_total (a b : Policy) : a.precedes b || b.precedes a := by
  rw [Bool.or_eq_true, precedes_iff, precedes_iff]
  rcases lt_trichotomy a.priority.toInt b.priority.toInt with hlt | heq | hgt
  · exact .inr (.inl hlt)
  · exact (le_total a.name b.name).imp (fun h => .inr ⟨heq, h⟩) fun h => .inr ⟨heq.symm, h⟩
  · exact .inl (.inl hgt)

theorem precedes_trans (a b c : Policy) (hab : a.precedes b) (hbc : b.precedes c) :
    a.precedes c := by
  rw [precedes_iff] at hab hbc ⊢
  rcases hab with hab | ⟨hab, hname⟩
  · left
    rcases hbc with hbc | ⟨hbc, _⟩ <;> omega
  · rcases hbc with hbc | ⟨hbc, hname'⟩
    · left
      omega
    · exact .inr ⟨hab.trans hbc, hname.trans hname'⟩

theorem precedes_antisymm {a b : Policy} (hab : a.precedes b) (hba : b.precedes a) :
    a.name = b.name := by
  rw [precedes_iff] at hab hba
  rcases hab with hab | ⟨_, hname⟩
  · rcases hba with hba | ⟨hba, _⟩ <;> omega
  · rcases hba with hba | ⟨_, hname'⟩
    · omega
    · exact le_antisymm hname hname'

end Policy

end Governance
