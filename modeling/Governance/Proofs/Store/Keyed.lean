import Mathlib.Data.List.Nodup
import Governance.Store.Keyed

/-!
# The values of keyed collections

A collection is indexed when its keys are distinct and every value says under which key it is kept.
Then the values are exactly those that `get?` finds, and what an operation does to the values of some
kind is said without their keys: a value of another kind that comes, goes or is replaced does not
change them, nor their order.
-/

namespace Governance.Keyed

variable {κ α : Type} {key : α → κ} {s : Keyed κ α} {k : κ} {v old : α}

/-- The keys are distinct, and every value is kept under its own. -/
structure Indexed (key : α → κ) (s : Keyed κ α) : Prop where
  distinct : (s.entries.map (·.1)).Nodup
  own : ∀ e ∈ s.entries, key e.2 = e.1

theorem indexed_empty : Indexed key (empty : Keyed κ α) :=
  ⟨List.nodup_nil, fun _ he => absurd he List.not_mem_nil⟩

theorem Indexed.nodup_keys (hs : s.Indexed key) : (s.values.map key).Nodup := by
  have hkeys : s.values.map key = s.entries.map (·.1) := by
    rw [values, List.map_map]
    exact List.map_congr_left hs.own
  rw [hkeys]
  exact hs.distinct

theorem Indexed.nodup_values (hs : s.Indexed key) : s.values.Nodup :=
  hs.nodup_keys.of_map key

variable [DecidableEq κ]

theorem mem_of_find {entries : List (κ × α)} (hfind : find k entries = some v) :
    (k, v) ∈ entries := by
  induction entries with
  | nil => cases hfind
  | cons e rest ih =>
    obtain ⟨other, value⟩ := e
    rw [find] at hfind
    split at hfind
    · rename_i hsame
      obtain rfl := Option.some.inj hfind
      rw [hsame]
      exact List.mem_cons_self
    · exact List.mem_cons_of_mem _ (ih hfind)

theorem find_of_mem {entries : List (κ × α)} (hdistinct : (entries.map (·.1)).Nodup)
    (hmem : (k, v) ∈ entries) : find k entries = some v := by
  induction entries with
  | nil => cases hmem
  | cons e rest ih =>
    obtain ⟨hnew, hrest⟩ := List.nodup_cons.1 hdistinct
    rcases List.mem_cons.1 hmem with rfl | hlater
    · simp [find]
    · have hother : e.1 ≠ k := by
        rintro rfl
        exact hnew (List.mem_map.2 ⟨_, hlater, rfl⟩)
      rw [find, if_neg hother]
      exact ih hrest hlater

theorem Indexed.mem_values (hs : s.Indexed key) : v ∈ s.values ↔ s.get? (key v) = some v := by
  constructor
  · intro hmem
    obtain ⟨⟨k, v'⟩, he, rfl⟩ := List.mem_map.1 hmem
    rw [hs.own _ he]
    exact find_of_mem hs.distinct he
  · intro hget
    exact List.mem_map_of_mem (mem_of_find hget)

theorem Indexed.key_of_get (hs : s.Indexed key) (hget : s.get? k = some v) : key v = k :=
  hs.own _ (mem_of_find hget)

/-! ### Putting a value -/

theorem mem_enter {entries : List (κ × α)} {e : κ × α} (hmem : e ∈ enter k v entries) :
    e = (k, v) ∨ e ∈ entries := by
  induction entries with
  | nil => exact .inl (List.mem_singleton.1 hmem)
  | cons e' rest ih =>
    rw [enter] at hmem
    split at hmem
    · rcases List.mem_cons.1 hmem with rfl | hrest
      · exact .inl rfl
      · exact .inr (List.mem_cons_of_mem _ hrest)
    · rcases List.mem_cons.1 hmem with rfl | hrest
      · exact .inr List.mem_cons_self
      · exact (ih hrest).imp id (List.mem_cons_of_mem _)

theorem mem_values_put {w : α} (hmem : w ∈ (s.put k v).values) : w = v ∨ w ∈ s.values := by
  obtain ⟨e, he, rfl⟩ := List.mem_map.1 hmem
  rcases mem_enter he with rfl | hold
  · exact .inl rfl
  · exact .inr (List.mem_map_of_mem hold)

theorem nodup_enter {entries : List (κ × α)} (hdistinct : (entries.map (·.1)).Nodup) :
    ((enter k v entries).map (·.1)).Nodup := by
  induction entries with
  | nil => exact List.nodup_singleton k
  | cons e rest ih =>
    obtain ⟨hnew, hrest⟩ := List.nodup_cons.1 hdistinct
    rw [enter]
    split
    · rename_i hsame
      exact List.nodup_cons.2 ⟨hsame ▸ hnew, hrest⟩
    · rename_i hother
      refine List.nodup_cons.2 ⟨?_, ih hrest⟩
      intro hmem
      obtain ⟨e', he', hkey⟩ := List.mem_map.1 hmem
      rcases mem_enter he' with rfl | hold
      · exact hother hkey.symm
      · exact hnew (hkey ▸ List.mem_map_of_mem hold)

theorem Indexed.put (hs : s.Indexed key) (hown : key v = k) : (s.put k v).Indexed key := by
  refine ⟨nodup_enter hs.distinct, ?_⟩
  intro e he
  rcases mem_enter he with rfl | hold
  · exact hown
  · exact hs.own e hold

theorem Indexed.mem_values_put (hs : s.Indexed key) {w : α} :
    w ∈ (s.put (key v) v).values ↔ w = v ∨ w ∈ s.values ∧ key w ≠ key v := by
  rw [(hs.put rfl).mem_values, hs.mem_values, get?_put]
  by_cases hkey : key v = key w
  · rw [if_pos hkey, Option.some.injEq]
    constructor
    · exact fun hsame => .inl hsame.symm
    · rintro (hsame | ⟨_, hother⟩)
      · exact hsame.symm
      · exact absurd hkey.symm hother
  · rw [if_neg hkey]
    constructor
    · exact fun hget => .inr ⟨hget, fun hsame => hkey hsame.symm⟩
    · rintro (rfl | ⟨hget, _⟩)
      · exact absurd rfl hkey
      · exact hget

theorem values_put_of_none (hget : s.get? k = none) : (s.put k v).values = s.values ++ [v] := by
  obtain ⟨entries⟩ := s
  change (enter k v entries).map (·.2) = entries.map (·.2) ++ [v]
  change find k entries = none at hget
  induction entries with
  | nil => rfl
  | cons e rest ih =>
    rw [find] at hget
    split at hget
    · cases hget
    · rename_i hother
      rw [enter, if_neg hother, List.map_cons, ih hget, List.map_cons, List.cons_append]

/-- A value under a key that was there takes the place of the old one. -/
theorem values_put_of_some (hget : s.get? k = some old) :
    ∃ before after, s.values = before ++ old :: after ∧
      (s.put k v).values = before ++ v :: after := by
  obtain ⟨entries⟩ := s
  change ∃ before after, entries.map (·.2) = before ++ old :: after ∧
    (enter k v entries).map (·.2) = before ++ v :: after
  change find k entries = some old at hget
  induction entries with
  | nil => cases hget
  | cons e rest ih =>
    rw [find] at hget
    rw [enter]
    split at hget
    · rename_i hsame
      obtain rfl := Option.some.inj hget
      rw [if_pos hsame]
      exact ⟨[], rest.map (·.2), rfl, rfl⟩
    · rename_i hother
      obtain ⟨before, after, hbefore, hafter⟩ := ih hget
      rw [if_neg hother, List.map_cons, List.map_cons, hbefore, hafter]
      exact ⟨e.2 :: before, after, rfl, rfl⟩

/-- Values of one kind do not change when a value of another kind comes in or replaces one. -/
theorem filter_values_put {q : α → Bool} (hnew : q v = false)
    (hold : ∀ old, s.get? k = some old → q old = false) :
    (s.put k v).values.filter q = s.values.filter q := by
  cases hget : s.get? k with
  | none => simp [values_put_of_none hget, hnew]
  | some old =>
    obtain ⟨before, after, hbefore, hafter⟩ := values_put_of_some (v := v) hget
    rw [hbefore, hafter]
    simp [hnew, hold old hget]

/-- What replaces a value of the same kind takes its place among those of that kind. -/
theorem map_filter_values_put {β : Type} {q : α → Bool} (f : α → β) (hget : s.get? k = some old)
    (hkind : q v = q old) (hsame : f v = f old) :
    ((s.put k v).values.filter q).map f = (s.values.filter q).map f := by
  obtain ⟨before, after, hbefore, hafter⟩ := values_put_of_some (v := v) hget
  rw [hbefore, hafter]
  simp only [List.filter_append, List.map_append, List.filter_cons, hkind]
  split
  · rw [List.map_cons, List.map_cons, hsame]
  · rfl

/-! ### Taking a value away -/

theorem Indexed.erase (hs : s.Indexed key) : (s.erase k).Indexed key :=
  ⟨hs.distinct.sublist (List.filter_sublist.map _), fun e he => hs.own e (List.mem_of_mem_filter he)⟩

theorem values_erase_sublist : (s.erase k).values.Sublist s.values := List.filter_sublist.map _

/-- Values of one kind do not change when a value of another kind is taken away. -/
theorem Indexed.filter_values_erase (hs : s.Indexed key) {q : α → Bool}
    (hold : ∀ old, s.get? k = some old → q old = false) :
    (s.erase k).values.filter q = s.values.filter q := by
  change ((s.entries.filter fun e => e.1 ≠ k).map (·.2)).filter q =
    (s.entries.map (·.2)).filter q
  rw [List.filter_map, List.filter_map, List.filter_filter]
  congr 1
  apply List.filter_congr
  intro e he
  by_cases hkey : e.1 = k
  · have hget : s.get? k = some e.2 := find_of_mem hs.distinct (hkey ▸ he)
    simp [hold e.2 hget]
  · simp [hkey]

end Governance.Keyed
