import Governance.Proofs.Service.Turns
import Governance.Proofs.Store.Edits

/-!
# Policies of the system are immutable

The check whether a policy may be changed and the change are two calls of the store, and an import
finds policies by their names. Still no policy of the system is ever changed, removed or added, and
no revision of one is recorded. For what a check has seen of the policies of the system stays true
until the change, whoever takes turns with it, because nobody changes them; an import looks at the tier
of every policy that it finds.
-/

namespace Governance

/-- The policies of the system, in the order in which they are kept. -/
def StoreContents.systems (s : StoreContents) : List Policy := s.policies.values.filter (·.isSystem)

/-- An edit that does not concern a policy of the system. -/
def StoreEdit.SparesSystem : StoreEdit → Prop
  | .add p => p.isSystem = false
  | .change old _ => old.isSystem = false
  | .remove old => old.isSystem = false
  | .record r => r.snapshot.isSystem = false

namespace StoreContents

variable {s : StoreContents} {tenant : TenantId}

theorem Indexed.mem_systems (hs : s.Indexed) {p : Policy} :
    p ∈ s.systems ↔ s.policies.get? p.id = some p ∧ p.isSystem := by
  rw [systems, List.mem_filter, hs.mem_values]

theorem systems_edit (hs : s.Indexed) {e : StoreEdit} (hfits : e.Fits tenant s)
    (hspares : e.SparesSystem) : (s.edit e).systems = s.systems := by
  cases e with
  | add p =>
    refine Keyed.filter_values_put hspares fun old hold => ?_
    rw [hfits.1] at hold
    cases hold
  | change old new =>
    obtain ⟨howned, hid, _, htier⟩ := hfits
    refine Keyed.filter_values_put ?_ fun p hp => ?_
    · rw [Policy.isSystem, htier]
      exact hspares
    · rw [hid, (owned_eq_some.1 howned).1] at hp
      obtain rfl := Option.some.inj hp
      exact hspares
  | remove old =>
    refine hs.filter_values_erase fun p hp => ?_
    rw [(owned_eq_some.1 hfits).1] at hp
    obtain rfl := Option.some.inj hp
    exact hspares
  | record r => rfl

theorem history_edit (hs : s.Indexed) {e : StoreEdit} (hfits : e.Fits tenant s)
    (hspares : e.SparesSystem) {p : Policy} (hp : p ∈ s.systems) :
    (s.edit e).history p.id = s.history p.id := by
  cases e with
  | record r =>
    -- A revision shows the policy under its identifier, and that is not one of the system.
    have hother : r.policy ≠ p.id := by
      intro hid
      obtain ⟨hget, hsystem⟩ := hs.mem_systems.1 hp
      rw [← hid, (owned_eq_some.1 hfits).1] at hget
      obtain rfl := Option.some.inj hget
      rw [hspares] at hsystem
      cases hsystem
    exact (history_append _ _ _).trans (if_neg hother)
  | _ => rfl

end StoreContents

/-- A call that spares the policies of the system makes only edits that do. -/
theorem StoreCall.Spares.edit {c : StoreCall} {s : StoreContents} {e : StoreEdit}
    (hs : s.Indexed) (hspares : c.Spares s.systems) (hfits : e.Fits c.tenant s)
    (hpermits : c.Permits s e) : e.SparesSystem := by
  have hdescribed {d : PolicyDraft} {tenant : TenantId} {actor : String} {p : Policy}
      (htier : d.effectiveTier ≠ .system) (hp : d.Describes tenant actor p) :
      p.isSystem = false := by
    rw [Policy.isSystem, hp.tier_eq]
    exact decide_eq_false htier
  have howned {tenant : TenantId} {id : PolicyId} {p : Policy} (hp : s.owned tenant id = some p)
      (hother : ∀ q ∈ s.systems, q.tenant = tenant → q.id ≠ id) : p.isSystem = false := by
    rw [Bool.eq_false_iff]
    intro hsystem
    have hid := hs.id_of_owned hp
    obtain ⟨hget, htenant⟩ := StoreContents.owned_eq_some.1 hp
    exact hother p (hs.mem_systems.2 ⟨hid ▸ hget, hsystem⟩) htenant hid
  cases c with
  | create tenant draft actor =>
    cases e with
    | add p => exact hdescribed hspares hpermits
    | record r => exact hdescribed hspares hpermits
    | _ => cases hpermits
  | update tenant id patch actor =>
    cases e with
    | change old new =>
      obtain ⟨rfl, _⟩ := hpermits
      exact howned hfits.1 hspares
    | record r =>
      obtain rfl : r.policy = id := hpermits
      exact howned hfits hspares
    | _ => cases hpermits
  | delete tenant id actor =>
    cases e with
    | remove old =>
      obtain rfl : old.id = id := hpermits
      exact howned hfits hspares
    | record r =>
      obtain rfl : r.policy = id := hpermits
      exact howned hfits hspares
    | _ => cases hpermits
  | importAll tenant drafts mode actor =>
    cases e with
    | add p =>
      obtain ⟨_, d, hd, hp⟩ := hpermits
      exact hdescribed (hspares d hd) hp
    | change old new => exact hpermits.1
    | record r =>
      rcases hpermits with hother | ⟨d, hd, hp⟩
      · exact hother
      · exact hdescribed (hspares d hd) hp
    | remove old => cases hpermits
  | _ => cases e <;> cases hpermits

namespace MemoryStore

/-- The policies of the system and their histories are those of some contents. -/
structure SystemsOf (before : StoreContents) (s : MemoryStore) : Prop where
  indexed : s.contents.Indexed
  systems : s.contents.systems = before.systems
  histories : ∀ p ∈ before.systems, s.contents.history p.id = before.history p.id

variable {before : StoreContents} {s : MemoryStore}

/-- The policies of the system stay through every call that spares them, and who asks for one of them
is shown it. -/
theorem SystemsOf.ensures_answer {c : StoreCall} (hspares : c.Spares before.systems)
    (hs : s.SystemsOf before) :
    (answer c).Ensures s fun answer s' => c.Shows before.systems answer ∧ s'.SystemsOf before := by
  have hedits {s' : MemoryStore} (hmakes : ∃ added, c.Makes added s s') : s'.SystemsOf before := by
    obtain ⟨_, hmakes⟩ := hmakes
    suffices hkept : s'.contents.systems = before.systems ∧
        ∀ p ∈ before.systems, s'.contents.history p.id = before.history p.id from
      ⟨hmakes.indexed hs.indexed, hkept.1, hkept.2⟩
    refine hmakes.keeps (P := fun t => t.systems = before.systems ∧
      ∀ p ∈ before.systems, t.history p.id = before.history p.id) ?_ hs.indexed
      ⟨hs.systems, hs.histories⟩
    rintro t e hindexed hfits hpermits ⟨hsystems, hhistories⟩
    have hedit : e.SparesSystem := (hsystems ▸ hspares).edit hindexed hfits hpermits
    refine ⟨(StoreContents.systems_edit hindexed hfits hedit).trans hsystems, ?_⟩
    intro p hp
    rw [StoreContents.history_edit hindexed hfits hedit (hsystems ▸ hp)]
    exact hhistories p hp
  intro a
  refine ⟨?_, hedits (MemoryStore.ensures_answer hs.indexed c a)⟩
  cases c with
  | get tenant id =>
    rintro p hp rfl rfl
    rw [← hs.systems, hs.indexed.mem_systems] at hp
    exact congrArg _ (StoreContents.owned_eq_some.2 ⟨hp.1, rfl⟩)
  | _ => trivial

end MemoryStore

namespace LivePolicies

/-- However the calls to the service take turns, the policies of the system and their histories stay
exactly as they were. -/
theorem systems_immutable {s : MemoryStore} (hs : s.Reachable) (gate : Gate)
    (turns : List PolicyTurn) :
    let g := (ofStore s).run gate turns
    g.store.contents.systems = s.contents.systems ∧
    ∀ p ∈ s.contents.systems, g.store.contents.history p.id = s.contents.history p.id := by
  intro g
  have hstart : s.SystemsOf s.contents := ⟨hs.indexed, rfl, fun _ _ => rfl⟩
  have hsound : g.Sound (StoreCall.Shows s.contents.systems)
      (fun c => c.Spares s.contents.systems) (fun t => t.SystemsOf s.contents) := by
    refine (sound_ofStore hstart).run ?_ ?_ ?_ turns
    · exact fun c t hspares ht => ht.ensures_answer hspares
    · exact fun t _ _ ht => ⟨ht.indexed, ht.systems, ht.histories⟩
    · intro caller call
      refine (Service.obeys_perform ?_ gate caller call).of_may fun c hc => hc.spares
      exact fun p hp => (List.mem_filter.1 hp).2
  exact ⟨hsound.store.systems, hsound.store.histories⟩

/-! ### An overwriting import and a deletion -/

def baseline : Policy where
  id := ⟨"p1"⟩
  tenant := ⟨"acme"⟩
  name := "baseline"
  description := ""
  kind := .content
  tier := .system
  priority := 0
  enabled := true
  conditions := []
  actions := []
  category := none
  tags := []
  version := 1
  createdAt := ⟨0, 0⟩
  updatedAt := ⟨0, 0⟩
  createdBy := "platform"
  updatedBy := "platform"

def rival : PolicyDraft :=
  { PolicyDraft.named "baseline" .content with
    conditions := [⟨"query", "contains", .string "password"⟩]
    actions := [⟨"log", []⟩] }

/-- Its own tenant deletes it and overwrites it at the same time. -/
def hostileTurns : List PolicyTurn :=
  [.arrive ⟨⟨"acme"⟩, "alice"⟩ (.delete ⟨"p1"⟩),
    .arrive ⟨⟨"acme"⟩, "bob"⟩ (.importAll ⟨[rival], some "overwrite"⟩),
    .proceed 1 .initial, .proceed 0 .initial, .proceed 1 .initial, .proceed 0 .initial,
    .proceed 1 .initial]

theorem hostileTurns_keep_baseline :
    (MemoryStore.empty.seed baseline).Reachable ∧
    ((ofStore (MemoryStore.empty.seed baseline)).run ⟨true, 30⟩ hostileTurns).store.contents.systems =
      [baseline] := by
  have hreachable : (MemoryStore.empty.seed baseline).Reachable :=
    MemoryStore.Reachable.empty.seed baseline
  exact ⟨hreachable, (systems_immutable hreachable ⟨true, 30⟩ hostileTurns).1⟩

end LivePolicies

end Governance
