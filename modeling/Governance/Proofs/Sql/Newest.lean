import Mathlib.Data.List.Perm.Subperm
import Governance.Proofs.Listing.Order
import Governance.Proofs.Sql.AuditRows
import Governance.Proofs.Sql.Searching
import Governance.Proofs.Time.Calendar

/-!
# The newest audit entries

A search for audit entries is answered from a list in memory and from a table. In memory the order of
the answer is fixed: equal times stand as they were committed. A table only promises the order of the
times, so its answer is the same up to the choice and the order among entries of one time, and every such
list is an answer.
-/

namespace Governance

/-- Whether an instant falls on a microsecond. -/
def Instant.IsWhole (t : Instant) : Prop := ∃ micros < 1000000, t.nanos = micros * 1000

theorem Instant.IsWhole.kept_eq {t : Instant} (h : t.IsWhole) : Sql.kept t = t := by
  obtain ⟨micros, hmicros, hnanos⟩ := h
  obtain ⟨seconds, nanos⟩ := t
  subst hnanos
  exact Sql.kept_eq_self seconds micros hmicros

theorem Instant.not_lt_eq (a b : Instant) : (!a.lt b) = b.le a := by
  rw [Bool.eq_iff_iff, Bool.not_eq_true', ← Bool.not_eq_true, lt_iff, le_iff]
  omega

namespace Criteria

variable {c : Criteria} {committed found chosen : List AuditEntry}

/-! ### In memory -/

theorem notOlder_total (a b : AuditEntry) : notOlder a b || notOlder b a := by
  rw [Bool.or_eq_true]
  exact Instant.le_total b.timestamp a.timestamp

theorem notOlder_trans (a b d : AuditEntry) (hab : notOlder a b) (hbd : notOlder b d) :
    notOlder a d :=
  Instant.le_trans hbd hab

/-- Times from new to old. -/
def NewestFirst (times : List Instant) : Prop := times.Pairwise fun t u => u.le t

theorem newestFirst_map : NewestFirst (found.map (·.timestamp)) ↔ found.Pairwise (notOlder · ·) :=
  List.pairwise_map

theorem NewestFirst.eq_of_perm {times times' : List Instant} (hfirst : NewestFirst times)
    (hfirst' : NewestFirst times') (hperm : times.Perm times') : times = times' :=
  List.Perm.eq_of_pairwise (fun _ _ _ _ htu hut => Instant.le_antisymm hut htu) hfirst hfirst' hperm

/-- The entries that agree with criteria, as they were committed. -/
def agreeing (c : Criteria) (committed : List AuditEntry) : List AuditEntry :=
  committed.filter c.admits

/-- How many of some entries a search returns. -/
def share (c : Criteria) (total : Nat) : Nat := c.cap.elim total (min · total)

theorem share_of_unlimited (hlimit : c.limit = none ∨ c.limit = some 0) (total : Nat) :
    c.share total = total := by
  have hcap : c.cap = none := by
    rcases hlimit with h | h <;> simp [cap, h]
  rw [share, hcap]
  rfl

theorem share_of_limited {n : Nat} (hlimit : c.limit = some n) (hn : 0 < n) (total : Nat) :
    c.share total = min n total := by
  have hcap : c.cap = some n := by simp [cap, hlimit, hn]
  rw [share, hcap]
  rfl

theorem select_eq_take (c : Criteria) (committed : List AuditEntry) : c.select committed =
    ((c.agreeing committed).mergeSort notOlder).take (c.share (c.agreeing committed).length) := by
  have hlength : ((c.agreeing committed).mergeSort notOlder).length =
      (c.agreeing committed).length := (List.mergeSort_perm _ _).length_eq
  rw [select, share]
  cases c.cap with
  | none => exact (List.take_of_length_le hlength.le).symm
  | some n => rw [Option.elim_some, ← hlength, ← List.take_eq_take_min]; rfl

/-- Sorting leaves the entries of one time as they stand. -/
theorem filter_timestamp_mergeSort (entries : List AuditEntry) (t : Instant) :
    (entries.mergeSort notOlder).filter (·.timestamp = t) = entries.filter (·.timestamp = t) := by
  by_cases hsome : ∃ e ∈ entries, e.timestamp = t
  · obtain ⟨e, -, rfl⟩ := hsome
    have hgroup (l : List AuditEntry) :
        groupOf notOlder e l = l.filter fun b => b.timestamp = e.timestamp := by
      refine List.filter_congr fun b _ => ?_
      rw [Bool.eq_iff_iff, Bool.and_eq_true, decide_eq_true_eq]
      refine ⟨fun h => Instant.le_antisymm h.1 h.2, fun h => ?_⟩
      simp only [notOlder, h]
      exact ⟨Instant.le_refl _, Instant.le_refl _⟩
    rw [← hgroup, ← hgroup]
    exact groupOf_mergeSort notOlder_total notOlder_trans e entries
  · have hnone (l : List AuditEntry) (hl : l.Perm entries) : l.filter (·.timestamp = t) = [] := by
      rw [List.filter_eq_nil_iff]
      intro e he
      rw [decide_eq_true_eq]
      exact fun h => hsome ⟨e, hl.mem_iff.1 he, h⟩
    rw [hnone _ (List.mergeSort_perm _ _), hnone _ (List.Perm.refl _)]

/-- Entries are the newest of those that agree with criteria: from new to old, equal times as they were
committed, all of them or as many as the limit says, and none that is left out is newer. -/
structure FindsNewest (c : Criteria) (committed found : List AuditEntry) : Prop where
  agree : ∀ e ∈ found, c.admits e
  newestFirst : NewestFirst (found.map (·.timestamp))
  inCommitOrder : ∀ t, found.filter (·.timestamp = t) <+:
    (c.agreeing committed).filter (·.timestamp = t)
  unlimited : c.limit = none ∨ c.limit = some 0 → found.Perm (c.agreeing committed)
  limited : ∀ n, c.limit = some n → 0 < n → found.length = min n (c.agreeing committed).length
  noneNewer : ∃ omitted, (found ++ omitted).Perm (c.agreeing committed) ∧
    ∀ e ∈ found, ∀ o ∈ omitted, o.timestamp.le e.timestamp

theorem findsNewest_select (c : Criteria) (committed : List AuditEntry) :
    c.FindsNewest committed (c.select committed) := by
  have hsorted : ((c.agreeing committed).mergeSort notOlder).Pairwise (notOlder · ·) :=
    List.pairwise_mergeSort notOlder_trans notOlder_total _
  have hperm := List.mergeSort_perm (c.agreeing committed) notOlder
  rw [select_eq_take]
  generalize hk : c.share (c.agreeing committed).length = k
  constructor
  · intro e he
    have hagrees : e ∈ c.agreeing committed := hperm.mem_iff.1 (List.mem_of_mem_take he)
    exact (List.mem_filter.1 hagrees).2
  · exact newestFirst_map.2 (hsorted.sublist (List.take_sublist k _))
  · intro t
    rw [← filter_timestamp_mergeSort (c.agreeing committed)]
    exact (List.take_prefix k _).filter _
  · intro hlimit
    rw [← hk, share_of_unlimited hlimit, List.take_of_length_le hperm.length_eq.le]
    exact hperm
  · intro n hlimit hn
    rw [List.length_take, hperm.length_eq, ← hk, share_of_limited hlimit hn, Nat.min_assoc,
      Nat.min_self]
  · refine ⟨((c.agreeing committed).mergeSort notOlder).drop k, ?_, ?_⟩
    · rwa [List.take_append_drop]
    · rw [← List.take_append_drop k ((c.agreeing committed).mergeSort notOlder)] at hsorted
      exact (List.pairwise_append.1 hsorted).2.2

theorem FindsNewest.length_eq (h : c.FindsNewest committed found) :
    found.length = c.share (c.agreeing committed).length := by
  unfold share cap
  cases hlimit : c.limit with
  | none => exact (h.unlimited (.inl hlimit)).length_eq
  | some n =>
    cases n with
    | zero => exact (h.unlimited (.inr hlimit)).length_eq
    | succ n => exact h.limited (n + 1) hlimit (Nat.succ_pos n)

/-! ### Up to equal times -/

/-- Entries are chosen from the same as others and have the same times in the same order. -/
def AlikeButForTies (among chosen others : List AuditEntry) : Prop :=
  chosen.Subperm among ∧ chosen.map (·.timestamp) = others.map (·.timestamp)

/-- The beginnings of sorted entries are those that are alike but for ties. -/
theorem alikeButForTies_iff (h : c.FindsNewest committed found) :
    AlikeButForTies (c.agreeing committed) chosen found ↔
      ∃ sorted : List AuditEntry, sorted.Perm (c.agreeing committed) ∧
        sorted.Pairwise (notOlder · ·) ∧
        chosen = sorted.take (c.share (c.agreeing committed).length) := by
  obtain ⟨omitted, homitted, hnewer⟩ := h.noneNewer
  constructor
  · rintro ⟨hsubperm, htimes⟩
    obtain ⟨l, hl, hsub⟩ := hsubperm
    obtain ⟨rest, hrest⟩ := hsub.exists_perm_append
    have hall : (chosen ++ rest).Perm (c.agreeing committed) :=
      (hl.symm.append_right rest).trans hrest.symm
    -- What is left out here has the times of what is left out there.
    have hleft : (rest.map (·.timestamp)).Perm (omitted.map (·.timestamp)) := by
      have hboth := (hall.trans homitted.symm).map (·.timestamp)
      rw [List.map_append, List.map_append, htimes, List.perm_append_left_iff] at hboth
      exact hboth
    have hsort := List.mergeSort_perm rest notOlder
    refine ⟨chosen ++ rest.mergeSort notOlder, (hsort.append_left chosen).trans hall, ?_, ?_⟩
    · refine List.pairwise_append.2 ⟨?_, List.pairwise_mergeSort notOlder_trans notOlder_total _, ?_⟩
      · rw [← newestFirst_map, htimes]
        exact h.newestFirst
      · intro e he o ho
        have htime : e.timestamp ∈ found.map (·.timestamp) := by
          rw [← htimes]
          exact List.mem_map_of_mem he
        have hother : o.timestamp ∈ omitted.map (·.timestamp) :=
          hleft.mem_iff.1 (List.mem_map_of_mem (hsort.mem_iff.1 ho))
        obtain ⟨e', he', hee⟩ := List.mem_map.1 htime
        obtain ⟨o', ho', hoo⟩ := List.mem_map.1 hother
        show o.timestamp.le e.timestamp
        rw [← hee, ← hoo]
        exact hnewer e' he' o' ho'
    · have hlength : chosen.length = c.share (c.agreeing committed).length := by
        have hmapped := congrArg List.length htimes
        rw [List.length_map, List.length_map] at hmapped
        exact hmapped.trans h.length_eq
      exact (List.take_left' hlength).symm
  · rintro ⟨sorted, hperm, hsorted, rfl⟩
    refine ⟨(List.take_sublist _ _).subperm.trans hperm.subperm, ?_⟩
    -- Both are the beginnings of all times from new to old.
    have hothers : NewestFirst ((found ++ omitted.mergeSort notOlder).map (·.timestamp)) := by
      rw [newestFirst_map]
      refine List.pairwise_append.2 ⟨newestFirst_map.1 h.newestFirst,
        List.pairwise_mergeSort notOlder_trans notOlder_total _, ?_⟩
      intro e he o ho
      exact hnewer e he o ((List.mergeSort_perm _ _).mem_iff.1 ho)
    have hsame := (newestFirst_map.2 hsorted).eq_of_perm hothers ((hperm.trans
      (((List.mergeSort_perm omitted notOlder).append_left found).trans homitted).symm).map _)
    rw [List.map_take, hsame, ← List.map_take, List.take_left' h.length_eq]

end Criteria

/-! ### In a table -/

namespace Sql

theorem inOrder_isGE {α : Type} (lt : α → α → Bool) (a b : α) : (inOrder lt a b).isGE = !lt a b := by
  unfold inOrder
  cases lt a b <;> cases lt b a <;> rfl

theorem inOrder_instant_isLE (a b : Instant) : (inOrder Instant.lt a b).isLE = a.le b := by
  rw [← Instant.not_lt_eq]
  have hasymm := Instant.isWeakOrder_lt.asymm a b
  unfold inOrder
  cases hab : a.lt b with
  | true => rw [hasymm hab]; rfl
  | false => cases b.lt a <;> rfl

namespace AuditTable

open Criteria (notOlder agreeing AlikeButForTies)

variable {c : Criteria} {committed : List AuditEntry} {rows : List Row}

theorem only_rowOf (e : AuditEntry) : Row.only auditTable.columnNames (rowOf e) = rowOf e := rfl

theorem holds_client (e : AuditEntry) (s : String) :
    (Test.compare "client_id" .equal (.bound (.text s))).holds (rowOf e) =
      decide (e.client = some s) := by
  cases hclient : e.client with
  | none =>
    have hvalue : (rowOf e).value "client_id" = .null := by
      show Value.ofOption .text e.client = .null
      rw [hclient]
      rfl
    rw [Test.holds, hvalue]
    rfl
  | some client =>
    have hvalue : (rowOf e).value "client_id" = .text client := by
      show Value.ofOption .text e.client = .text client
      rw [hclient]
      rfl
    simp [Test.holds_equal_text hvalue]

theorem holds_start {e : AuditEntry} {t : Instant} (he : e.timestamp.IsWhole) (ht : t.IsWhole) :
    (Test.compare "timestamp" .atLeast (.bound (.instant t))).holds (rowOf e) = t.le e.timestamp := by
  show (inOrder Instant.lt (kept e.timestamp) (kept t)).isGE = _
  rw [inOrder_isGE, Instant.not_lt_eq, he.kept_eq, ht.kept_eq]

theorem holds_finish {e : AuditEntry} {t : Instant} (he : e.timestamp.IsWhole) (ht : t.IsWhole) :
    (Test.compare "timestamp" .atMost (.bound (.instant t))).holds (rowOf e) = e.timestamp.le t := by
  show (inOrder Instant.lt (kept e.timestamp) (kept t)).isLE = _
  rw [inOrder_instant_isLE, he.kept_eq, ht.kept_eq]

theorem all_testIfSome {α : Type} {row : Row} {column : String} {relation : Relation}
    {encode : α → Value} {given : Option α} {agrees : α → Bool}
    (hholds : ∀ a ∈ given, (Test.compare column relation (.bound (encode a))).holds row = agrees a) :
    (testIfSome column relation encode given).all (·.holds row) = given.all agrees := by
  rw [testIfSome, all_map_toList]
  cases given with
  | none => rfl
  | some a => exact hholds a rfl

theorem holds_searchTests {e : AuditEntry} (he : e.timestamp.IsWhole)
    (hstart : ∀ t ∈ c.start, t.IsWhole) (hfinish : ∀ t ∈ c.finish, t.IsWhole) :
    (searchTests c).all (·.holds (rowOf e)) = c.admits e := by
  have htext (column s : String) (hvalue : (rowOf e).value column = .text s) (given : Option String) :
      (testIfSome column .equal .text given).all (·.holds (rowOf e)) = given.all (s = ·) :=
    all_testIfSome fun t _ => Test.holds_equal_text hvalue t
  rw [searchTests, List.cons_append, List.cons_append, List.cons_append, List.cons_append,
    List.all_cons, List.all_append, List.all_append, List.all_append, List.all_append,
    htext "user_email" e.actor.email rfl, htext "request_type" e.requestKind rfl,
    all_testIfSome fun s _ => holds_client e s, all_testIfSome fun t ht => holds_start he (hstart t ht),
    all_testIfSome fun t ht => holds_finish he (hfinish t ht)]
  rfl

theorem passing_searchTests (hwhole : ∀ e ∈ committed, e.timestamp.IsWhole)
    (hstart : ∀ t ∈ c.start, t.IsWhole) (hfinish : ∀ t ∈ c.finish, t.IsWhole) :
    passing (searchTests c) (committed.map rowOf) = (c.agreeing committed).map rowOf := by
  rw [passing, List.filter_map, agreeing]
  congr 1
  exact List.filter_congr fun e he => holds_searchTests (hwhole e he) hstart hfinish

theorem compareBy_timestamp {a b : AuditEntry} (ha : a.timestamp.IsWhole) (hb : b.timestamp.IsWhole) :
    (compareBy [⟨"timestamp", some .descending⟩] (rowOf a) (rowOf b)).isLE = notOlder a b := by
  show (((inOrder Instant.lt (kept a.timestamp) (kept b.timestamp)).swap).then .eq).isLE = _
  rw [ha.kept_eq, hb.kept_eq, Ordering.then_eq, Ordering.isLE_swap, inOrder_isGE, Instant.not_lt_eq]
  rfl

theorem exists_of_perm_map {sorted : List Row} {entries : List AuditEntry}
    (hperm : sorted.Perm (entries.map rowOf)) :
    ∃ entries' : List AuditEntry, entries'.Perm entries ∧ sorted = entries'.map rowOf := by
  have hrows : List.Forall₂ (fun row e => row = rowOf e) (entries.map rowOf) entries := by
    rw [List.forall₂_map_left_iff]
    exact List.forall₂_same.2 fun _ _ => rfl
  obtain ⟨entries', hsorted, hentries⟩ := List.perm_comp_forall₂ hperm hrows
  refine ⟨entries', hentries, ?_⟩
  rwa [← List.forall₂_eq_eq_eq, List.forall₂_map_right_iff]

/-- The limit is one that can be sent, or there are not more entries than can be asked for. -/
def CanAskFor (c : Criteria) (committed : List AuditEntry) : Prop :=
  committed.length ≤ largest ∨ ∀ n ∈ c.limit, n ≤ largest

/-- A table returns as many rows as there are in the share of a search. -/
theorem part_searching {sorted : List AuditEntry} (hask : CanAskFor c committed)
    (hperm : sorted.Perm (c.agreeing committed)) :
    Selection.part { Selection.all auditTable (searchTests c) with
      order := [⟨"timestamp", some .descending⟩]
      limit := c.cap.map fun n => .bound (min n largest) } (sorted.map rowOf) =
    (sorted.take (c.share (c.agreeing committed).length)).map rowOf := by
  have honly : Row.only auditTable.columnNames ∘ rowOf = rowOf := funext only_rowOf
  have hmap (l : List AuditEntry) :
      (l.map rowOf).map (Row.only auditTable.columnNames) = l.map rowOf := by
    rw [List.map_map, honly]
  have hlength := hperm.length_eq
  have hle : (c.agreeing committed).length ≤ committed.length := List.length_filter_le _ _
  unfold Selection.part Criteria.share
  cases hcap : c.cap with
  | none =>
    show (sorted.map rowOf).map (Row.only auditTable.columnNames) = (sorted.take _).map rowOf
    rw [hmap, Option.elim_none, ← hlength, List.take_length]
  | some n =>
    show ((sorted.map rowOf).take (min n largest)).map (Row.only auditTable.columnNames) = _
    rw [← List.map_take, hmap, Option.elim_some, List.take_eq_take_min]
    congr 2
    rcases hask with hfew | hsmall
    · omega
    · have hlimit := hsmall n (Option.filter_eq_some_iff.1 hcap).1
      omega

/-- A search returns the newest entries that agree with its criteria. From a table of the same entries, whole
microseconds being kept as they are, the statement of the search returns the rows of these entries but for the
choice and the order among equal times. -/
theorem newest_found (c : Criteria) (committed : List AuditEntry) :
    c.FindsNewest committed (c.select committed) ∧
    ((∀ e ∈ committed, e.timestamp.IsWhole) → (∀ t ∈ c.start, t.IsWhole) →
      (∀ t ∈ c.finish, t.IsWhole) → CanAskFor c committed →
      ∀ rows, (searching c).IsAnswer (committed.map rowOf) rows ↔ ∃ chosen, rows = chosen.map rowOf ∧
        AlikeButForTies (c.agreeing committed) chosen (c.select committed)) := by
  have hnewest := Criteria.findsNewest_select c committed
  refine ⟨hnewest, fun hwhole hstart hfinish hask rows => ?_⟩
  have hpassing := passing_searchTests hwhole hstart hfinish
  have hagree {l : List AuditEntry} (hperm : l.Perm (c.agreeing committed)) :
      ∀ e ∈ l, e.timestamp.IsWhole :=
    fun e he => hwhole e (List.mem_of_mem_filter (hperm.mem_iff.1 he))
  constructor
  · rintro ⟨sorted, hperm, hsorted, rfl⟩
    rw [show Selection.tests _ = searchTests c from rfl, hpassing] at hperm
    obtain ⟨entries, hentries, rfl⟩ := exists_of_perm_map hperm
    refine ⟨_, part_searching hask hentries, ?_⟩
    rw [Criteria.alikeButForTies_iff hnewest]
    refine ⟨entries, hentries, ?_, rfl⟩
    rw [List.pairwise_map] at hsorted
    refine hsorted.imp_of_mem fun {a b} ha hb hab => ?_
    rwa [← compareBy_timestamp (hagree hentries a ha) (hagree hentries b hb)]
  · rintro ⟨chosen, rfl, halike⟩
    obtain ⟨entries, hentries, hsorted, rfl⟩ := (Criteria.alikeButForTies_iff hnewest).1 halike
    refine ⟨entries.map rowOf, ?_, ?_, (part_searching hask hentries).symm⟩
    · rw [show Selection.tests _ = searchTests c from rfl, hpassing]
      exact hentries.map rowOf
    · rw [List.pairwise_map]
      refine hsorted.imp_of_mem fun {a b} ha hb hab => ?_
      show (compareBy [⟨"timestamp", some .descending⟩] (rowOf a) (rowOf b)).isLE
      rwa [compareBy_timestamp (hagree hentries a ha) (hagree hentries b hb)]

def tiedEntry : AuditEntry := { endlessEntry with id := ⟨"a2"⟩ }

/-- Two entries of one client at the same time, and a later one of no client. -/
def threeEntries : List AuditEntry :=
  [endlessEntry, { endlessEntry with client := none, timestamp := ⟨1, 0⟩ }, tiedEntry]

def oneOfConsole : Criteria := { Criteria.all with client := some "console", limit := some 1 }

/-- In memory the entry is found that was committed first; a table may also return the other one. -/
theorem newest_of_console :
    (∀ e ∈ threeEntries, e.timestamp.IsWhole) ∧ (∀ t ∈ oneOfConsole.start, t.IsWhole) ∧
    (∀ t ∈ oneOfConsole.finish, t.IsWhole) ∧ CanAskFor oneOfConsole threeEntries ∧
    oneOfConsole.FindsNewest threeEntries [endlessEntry] ∧
    (searching oneOfConsole).IsAnswer (threeEntries.map rowOf) [rowOf tiedEntry] := by
  have hwhole : ∀ e ∈ threeEntries, e.timestamp.IsWhole := by
    intro e he
    refine ⟨0, by decide, ?_⟩
    simp only [threeEntries, List.mem_cons, List.not_mem_nil, or_false] at he
    rcases he with rfl | rfl | rfl <;> rfl
  have hask : CanAskFor oneOfConsole threeEntries := .inl (by decide)
  have hagreeing : oneOfConsole.agreeing threeEntries = [endlessEntry, tiedEntry] := rfl
  have hselect : oneOfConsole.select threeEntries = [endlessEntry] := by
    have htied : notOlder endlessEntry tiedEntry := Instant.le_refl _
    have hsorted : [endlessEntry, tiedEntry].mergeSort notOlder = [endlessEntry, tiedEntry] := by
      simp [List.mergeSort, List.MergeSort.Internal.splitInTwo, htied]
    rw [Criteria.select_eq_take, hagreeing, hsorted]
    rfl
  have hnewest := newest_found oneOfConsole threeEntries
  rw [hselect] at hnewest
  refine ⟨hwhole, nofun, nofun, hask, hnewest.1, ?_⟩
  refine (hnewest.2 hwhole nofun nofun hask _).2 ⟨[tiedEntry], rfl, ?_, rfl⟩
  rw [hagreeing]
  exact (List.sublist_cons_self _ _).subperm

end AuditTable

end Sql

end Governance
