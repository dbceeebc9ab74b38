import Mathlib.Data.List.Forall2
import Mathlib.Logic.Equiv.Basic
import Governance.Proofs.Store.Imports

/-!
# Stores that are alike up to what runs draw

Two runs that do the same draw different identifiers and read different times. A likeness says which
identifiers stand for one another, as a permutation of all of them, and since when each run has read its
clock. Stores that are alike match policy by policy and revision by revision. When each of the two draws
an identifier that is new to its store, the likeness goes on with the two exchanged for one another, and
what matched before still does: `Contents.exchange` is where newness is needed.
-/

namespace Governance

open List (Forall₂)

namespace Keyed

variable {κ α β : Type} {f : κ → κ} {R : α → β → Prop} {s : Keyed κ α} {t : Keyed κ β}

/-- Two collections match along a function of their keys. -/
def Matches (f : κ → κ) (R : α → β → Prop) (s : Keyed κ α) (t : Keyed κ β) : Prop :=
  Forall₂ (fun e e' => e'.1 = f e.1 ∧ R e.2 e'.2) s.entries t.entries

theorem Matches.values (hmatches : s.Matches f R t) : Forall₂ R s.values t.values := by
  refine List.forall₂_map_left_iff.2 (List.forall₂_map_right_iff.2 ?_)
  exact hmatches.imp fun _ _ h => h.2

theorem Matches.imp {g : κ → κ} {S : α → β → Prop} (hmatches : s.Matches f R t)
    (hkey : ∀ e ∈ s.entries, ∀ e' ∈ t.entries, e'.1 = f e.1 → g e.1 = f e.1)
    (hvalue : ∀ e ∈ s.entries, ∀ e' ∈ t.entries, e'.1 = f e.1 → R e.2 e'.2 → S e.2 e'.2) :
    s.Matches g S t := by
  obtain ⟨hlength, hzip⟩ := List.forall₂_iff_zip.1 hmatches
  refine List.forall₂_iff_zip.2 ⟨hlength, fun {e e'} hmem => ?_⟩
  obtain ⟨hsame, hrelated⟩ := hzip hmem
  obtain ⟨he, he'⟩ := List.of_mem_zip hmem
  exact ⟨hsame.trans (hkey e he e' he' hsame).symm, hvalue e he e' he' hsame hrelated⟩

variable [DecidableEq κ] {k : κ}

theorem Matches.get? (hmatches : s.Matches f R t) (hf : f.Injective) (k : κ) :
    Option.Rel R (s.get? k) (t.get? (f k)) := by
  obtain ⟨entries⟩ := s
  obtain ⟨entries'⟩ := t
  change Option.Rel R (find k entries) (find (f k) entries')
  change Forall₂ _ entries entries' at hmatches
  induction hmatches with
  | nil => exact .none
  | @cons e e' rest rest' hentry _ ih =>
    obtain ⟨hkey, hvalue⟩ := hentry
    rw [find, find, hkey]
    by_cases hk : e.1 = k
    · rw [if_pos hk, if_pos (congrArg f hk)]
      exact .some hvalue
    · rw [if_neg hk, if_neg (hf.ne hk)]
      exact ih

theorem Matches.put (hmatches : s.Matches f R t) (hf : f.Injective) {v : α} {v' : β}
    (hvalue : R v v') : (s.put k v).Matches f R (t.put (f k) v') := by
  obtain ⟨entries⟩ := s
  obtain ⟨entries'⟩ := t
  change Forall₂ _ (enter k v entries) (enter (f k) v' entries')
  change Forall₂ _ entries entries' at hmatches
  induction hmatches with
  | nil => exact .cons ⟨rfl, hvalue⟩ .nil
  | @cons e e' rest rest' hentry hrest ih =>
    rw [enter, enter, hentry.1]
    by_cases hk : e.1 = k
    · rw [if_pos hk, if_pos (congrArg f hk)]
      exact .cons ⟨rfl, hvalue⟩ hrest
    · rw [if_neg hk, if_neg (hf.ne hk)]
      exact .cons ⟨rfl, hentry.2⟩ ih

end Keyed

/-- What stands for what in two runs: one identifier for another, and any time that one has read since
it began for any that the other has. -/
structure Likeness where
  ids : Equiv.Perm PolicyId
  since : Instant
  since' : Instant

namespace Likeness

variable {l : Likeness} {s s' : StoreContents} {p p' : Policy} {r r' : Revision}

/-- The same time, or times that the runs have read. -/
def Times (l : Likeness) (t t' : Instant) : Prop := t = t' ∨ l.since.le t ∧ l.since'.le t'

/-- The same policy but for its identifier and its times. -/
structure Policies (l : Likeness) (p p' : Policy) : Prop where
  id : p'.id = l.ids p.id
  content : p' = { p with id := p'.id, createdAt := p'.createdAt, updatedAt := p'.updatedAt }
  createdAt : l.Times p.createdAt p'.createdAt
  updatedAt : l.Times p.updatedAt p'.updatedAt

/-- The same revision but for the identifiers of its policy, times, and its own identifier where it was
recorded by the runs. -/
structure Revisions (l : Likeness) (r r' : Revision) : Prop where
  policy : r'.policy = l.ids r.policy
  snapshot : l.Policies r.snapshot r'.snapshot
  content : r' = { r with
    id := r'.id, policy := r'.policy, snapshot := r'.snapshot, changedAt := r'.changedAt }
  changedAt : l.Times r.changedAt r'.changedAt
  id : r.id = r'.id ∨ l.since.le r.changedAt ∧ l.since'.le r'.changedAt

/-- The same policies in the same order, and the same histories. -/
structure Contents (l : Likeness) (s s' : StoreContents) : Prop where
  policies : s.policies.Matches l.ids l.Policies s'.policies
  histories : ∀ id, Forall₂ l.Revisions (s.history id) (s'.history (l.ids id))

/-! ### Where runs begin -/

theorem policies_refl (start start' : Instant) (p : Policy) :
    Policies ⟨.refl _, start, start'⟩ p p :=
  ⟨rfl, rfl, .inl rfl, .inl rfl⟩

theorem contents_refl (start start' : Instant) (s : StoreContents) :
    Contents ⟨.refl _, start, start'⟩ s s := by
  refine ⟨List.forall₂_same.2 fun e _ => ⟨rfl, policies_refl start start' e.2⟩, fun id => ?_⟩
  refine List.forall₂_same.2 fun r _ => ?_
  exact ⟨rfl, policies_refl start start' r.snapshot, rfl, .inl rfl, .inl rfl⟩

/-! ### What both runs do -/

theorem Policies.name_eq (halike : l.Policies p p') : p'.name = p.name := by
  rw [halike.content]

theorem Policies.tenant_eq (halike : l.Policies p p') : p'.tenant = p.tenant := by
  rw [halike.content]

theorem Policies.tier_eq (halike : l.Policies p p') : p'.tier = p.tier := by
  rw [halike.content]

theorem Policies.version_eq (halike : l.Policies p p') : p'.version = p.version := by
  rw [halike.content]

/-- Policies stay alike when both are overwritten with one draft. -/
theorem Policies.overwrite (halike : l.Policies p p') (draft : PolicyDraft) (actor : String)
    {now now' : Instant} (hnow : l.since.le now) (hnow' : l.since'.le now') :
    l.Policies (p.overwrite draft actor now) (p'.overwrite draft actor now') := by
  refine ⟨halike.id, ?_, halike.createdAt, .inr ⟨hnow, hnow'⟩⟩
  rw [halike.content]
  rfl

theorem Policies.capture (halike : l.Policies p p') (id id' : Uuid) (kind : ChangeKind)
    (summary actor : String) {time time' : Instant} (htime : l.since.le time)
    (htime' : l.since'.le time') :
    l.Revisions (.capture id time p kind summary actor)
      (.capture id' time' p' kind summary actor) := by
  refine ⟨halike.id, halike, ?_, .inr ⟨htime, htime'⟩, .inr ⟨htime, htime'⟩⟩
  rw [Revision.capture, halike.version_eq]
  rfl

theorem Contents.keep (hcontents : l.Contents s s') (halike : l.Policies p p') :
    l.Contents (s.keep p) (s'.keep p') := by
  refine ⟨?_, hcontents.histories⟩
  have hput := hcontents.policies.put (k := p.id) l.ids.injective halike
  rwa [← halike.id] at hput

theorem Contents.append (hcontents : l.Contents s s') (halike : l.Revisions r r') :
    l.Contents (s.append r.policy r) (s'.append r'.policy r') := by
  refine ⟨hcontents.policies, fun id => ?_⟩
  rw [StoreContents.history_append, StoreContents.history_append, halike.policy]
  by_cases hid : r.policy = id
  · rw [if_pos hid, if_pos (congrArg l.ids hid)]
    exact List.rel_append (hcontents.histories r.policy) (.cons halike .nil)
  · rw [if_neg hid, if_neg (l.ids.injective.ne hid)]
    exact hcontents.histories id

theorem Contents.after {s s' : MemoryStore} (hcontents : l.Contents s.contents s'.contents)
    (hloses : s'.losesRevisions = s.losesRevisions) (halike : l.Revisions r r') :
    l.Contents (s.after r).contents (s'.after r').contents := by
  have hkept := hcontents.keep halike.snapshot
  unfold MemoryStore.after
  rw [hloses]
  split
  · exact hkept
  · exact hkept.append halike

/-! ### What both runs look at -/

/-- Under a name that a tenant has in one of the stores, it has a policy that is alike in the other. -/
theorem Contents.named (hcontents : l.Contents s s') (tenant : TenantId) (name : String) :
    Option.Rel l.Policies (s.named tenant name) (s'.named tenant name) := by
  unfold StoreContents.named StoreContents.ownedBy
  have hvalues := hcontents.policies.values
  generalize s.policies.values = values at hvalues
  generalize s'.policies.values = values' at hvalues
  induction hvalues with
  | nil => exact .none
  | @cons p p' rest rest' halike _ ih =>
    rw [List.filter_cons, List.filter_cons, halike.tenant_eq]
    split
    · rw [List.find?_cons, List.find?_cons, halike.name_eq]
      split
      · exact .some halike
      · exact ih
    · exact ih

theorem Contents.holds_eq (hcontents : l.Contents s s') (id : PolicyId) :
    s'.holds (l.ids id) = s.holds id := by
  unfold StoreContents.holds
  have hfound := hcontents.policies.get? l.ids.injective id
  generalize s.policies.get? id = found at hfound
  generalize s'.policies.get? (l.ids id) = found' at hfound
  cases hfound <;> rfl

theorem Contents.seenAlike (hcontents : l.Contents s s') (tenant : TenantId)
    {asked : List PolicyId} (hasked : ∀ id ∈ asked, l.ids id = id) :
    s.SeenAlike tenant asked s' := by
  refine ⟨fun name => ?_, fun id hid => ?_⟩
  · unfold StoreContents.tierOf
    have hnamed := hcontents.named tenant name
    generalize s.named tenant name = found at hnamed
    generalize s'.named tenant name = found' at hnamed
    cases hnamed with
    | none => rfl
    | some halike => rw [Option.map_some, Option.map_some, halike.tier_eq]
  · rw [← hcontents.holds_eq id, hasked id hid]

/-! ### What the runs draw -/

/-- A likeness goes on with other identifiers, and with the same beginnings. -/
structure Continues (l' l : Likeness) : Prop where
  since : l'.since = l.since
  since' : l'.since' = l.since'

theorem Continues.refl (l : Likeness) : l.Continues l := ⟨rfl, rfl⟩

theorem Continues.trans {l' l'' : Likeness} (hsecond : l''.Continues l') (hfirst : l'.Continues l) :
    l''.Continues l :=
  ⟨hsecond.since.trans hfirst.since, hsecond.since'.trans hfirst.since'⟩

/-- One new identifier stands for the other from now on. -/
def exchange (l : Likeness) (x y : PolicyId) : Likeness :=
  { l with ids := l.ids.trans (Equiv.swap (l.ids x) y) }

theorem exchange_self (l : Likeness) (x y : PolicyId) : (l.exchange x y).ids x = y :=
  Equiv.swap_apply_left _ _

theorem exchange_of_ne {x y id : PolicyId} (hx : id ≠ x) (hy : l.ids id ≠ y) :
    (l.exchange x y).ids id = l.ids id :=
  Equiv.swap_apply_of_ne_of_ne (l.ids.injective.ne hx) hy

/-- Only the two, and what was exchanged before, stands for another identifier. -/
theorem moved_of_exchange {x y id : PolicyId} (hmoved : (l.exchange x y).ids id ≠ id) :
    id = x ∨ id = y ∨ l.ids id ≠ id := by
  by_cases hx : id = x
  · exact .inl hx
  by_cases hy : l.ids id = y
  · by_cases hid : l.ids id = id
    · exact .inr (.inl (hid.symm.trans hy))
    · exact .inr (.inr hid)
  · rw [exchange_of_ne hx hy] at hmoved
    exact .inr (.inr hmoved)

theorem Policies.exchange {x y : PolicyId} (halike : l.Policies p p') (hx : p.id ≠ x)
    (hy : p'.id ≠ y) : (l.exchange x y).Policies p p' := by
  refine ⟨?_, halike.content, halike.createdAt, halike.updatedAt⟩
  rw [exchange_of_ne hx (halike.id ▸ hy)]
  exact halike.id

/-- Stores stay alike when each run draws an identifier under which its store has neither a policy nor a
history. -/
theorem Contents.exchange {x y : PolicyId} (hcontents : l.Contents s s') (hs : s.Indexed)
    (hs' : s'.Indexed) (hfiled : s.Filed) (hfree : s.holds x = false) (hunrecorded : s.history x = [])
    (hfree' : s'.holds y = false) (hunrecorded' : s'.history y = []) :
    (l.exchange x y).Contents s s' := by
  have hheld {t : StoreContents} (ht : t.Indexed) {z : PolicyId} (hz : t.holds z = false)
      {e : PolicyId × Policy} (he : e ∈ t.policies.entries) : e.1 ≠ z := by
    intro hkey
    have hget : t.policies.get? e.1 = some e.2 := Keyed.find_of_mem ht.distinct he
    rw [hkey, StoreContents.holds_eq_false.1 hz] at hget
    cases hget
  refine ⟨hcontents.policies.imp ?_ ?_, fun id => ?_⟩
  · intro e he e' he' hkey
    exact exchange_of_ne (hheld hs hfree he) (hkey ▸ hheld hs' hfree' he')
  · intro e he e' he' _ halike
    refine halike.exchange ?_ ?_
    · exact hs.own e he ▸ hheld hs hfree he
    · exact hs'.own e' he' ▸ hheld hs' hfree' he'
  · have hhistory := hcontents.histories id
    by_cases hx : id = x
    · rw [hx, exchange_self, hunrecorded, hunrecorded']
      exact .nil
    by_cases hy : l.ids id = y
    · -- Nothing is recorded under this one, and so nothing under what `x` has stood for.
      have hother := hcontents.histories x
      rw [hunrecorded, List.forall₂_nil_left_iff] at hother
      rw [hy, hunrecorded', List.forall₂_nil_right_iff] at hhistory
      have hnow : (l.exchange x y).ids id = l.ids x := by
        rw [← hy]
        exact Equiv.swap_apply_right _ _
      rw [hnow, hhistory, hother]
      exact .nil
    · rw [exchange_of_ne hx hy]
      obtain ⟨hlength, hzip⟩ := List.forall₂_iff_zip.1 hhistory
      refine List.forall₂_iff_zip.2 ⟨hlength, fun {r r'} hmem => ?_⟩
      have halike : l.Revisions r r' := hzip hmem
      obtain ⟨hpolicy, hsnapshot⟩ := hfiled id r (List.of_mem_zip hmem).1
      refine ⟨?_, halike.snapshot.exchange ?_ ?_, halike.content, halike.changedAt, halike.id⟩
      · rw [hpolicy, exchange_of_ne hx hy, ← hpolicy]
        exact halike.policy
      · exact hsnapshot ▸ hx
      · rw [halike.snapshot.id, hsnapshot]
        exact hy

end Likeness

end Governance
