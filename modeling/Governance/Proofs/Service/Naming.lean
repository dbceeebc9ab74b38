import Mathlib.Data.List.Induction
import Governance.Proofs.Service.Turns
import Governance.Proofs.Store.Naming

/-!
# Names of policies while calls to the service take turns

The service checks how long a name is, and leaves it to imports to ask whether it is free. So the names
in a store that was empty stay unique exactly as long as no call creates a policy under a name that its
tenant has already, or patches one to such a name. Two creations are enough for a name to be there twice.
-/

namespace Governance

namespace PolicyTask

variable {s : MemoryStore}

/-- With its next call of the store a task has a name repeated. -/
def RepeatsName (t : PolicyTask) (s : MemoryStore) (a : Ambient) : Prop :=
  match t.rest with
  | .call (.store c) _ => c.RepeatsName s.contents ((MemoryStore.answer c).run s a).1.1
  | _ => False

theorem indexed_proceed (hs : s.contents.Indexed) (t : PolicyTask) (a : Ambient) :
    (t.proceed s a).2.contents.Indexed := by
  obtain ⟨caller, call, rest⟩ := t
  cases rest with
  | done value => exact hs
  | call c next =>
    cases c with
    | store c =>
      obtain ⟨_, _, hperforms⟩ := MemoryStore.yields_answer (a := a) hs c
      exact hperforms.indexed hs
    | now => exact hs
    | report e => exact hs

theorem names_proceed (hs : s.contents.Indexed) (hunique : s.contents.NamesUnique)
    (t : PolicyTask) (a : Ambient) :
    (t.proceed s a).2.contents.NamesUnique ↔ ¬ t.RepeatsName s a := by
  obtain ⟨caller, call, rest⟩ := t
  cases rest with
  | done value => exact iff_of_true hunique not_false
  | call c next =>
    cases c with
    | store c => exact MemoryStore.yields_answer_names (a := a) hs hunique c
    | now => exact iff_of_true hunique not_false
    | report e => exact iff_of_true hunique not_false

end PolicyTask

namespace LivePolicies

/-- With a turn a call to the service has a name repeated. -/
def RepeatsName (g : LivePolicies) : PolicyTurn → Prop
  | .proceed i a => ∃ t, g.tasks[i]? = some t ∧ t.RepeatsName g.store a
  | _ => False

variable {gate : Gate} {g : LivePolicies} {turns : List PolicyTurn}

theorem indexed_take (hs : g.store.contents.Indexed) (turn : PolicyTurn) :
    (g.take gate turn).store.contents.Indexed := by
  cases turn with
  | arrive caller call => exact hs
  | switch losesRevisions rejectsCommits => exact hs
  | proceed i a =>
    change (g.proceed i a).store.contents.Indexed
    cases ht : g.tasks[i]? with
    | none => rwa [proceed_of_none ht]
    | some t =>
      rw [proceed_of_some ht]
      exact t.indexed_proceed hs a

/-- Where names are unique, a turn keeps them so unless it has one repeated. -/
theorem names_take (hs : g.store.contents.Indexed) (hunique : g.store.contents.NamesUnique)
    (turn : PolicyTurn) :
    (g.take gate turn).store.contents.NamesUnique ↔ ¬ g.RepeatsName turn := by
  cases turn with
  | arrive caller call => exact iff_of_true hunique not_false
  | switch losesRevisions rejectsCommits => exact iff_of_true hunique not_false
  | proceed i a =>
    change (g.proceed i a).store.contents.NamesUnique ↔
      ¬ ∃ t, g.tasks[i]? = some t ∧ t.RepeatsName g.store a
    cases ht : g.tasks[i]? with
    | none =>
      rw [proceed_of_none ht]
      exact iff_of_true hunique fun ⟨t, htask, _⟩ => nomatch htask
    | some t =>
      rw [proceed_of_some ht]
      simpa using t.names_proceed hs hunique a

theorem run_append_singleton (gate : Gate) (g : LivePolicies) (turns : List PolicyTurn)
    (turn : PolicyTurn) : g.run gate (turns ++ [turn]) = (g.run gate turns).take gate turn := by
  rw [run, List.foldl_concat]
  rfl

theorem indexed_run (hs : g.store.contents.Indexed) (turns : List PolicyTurn) :
    (g.run gate turns).store.contents.Indexed := by
  induction turns generalizing g with
  | nil => exact hs
  | cons turn rest ih => exact ih (indexed_take hs turn)

/-- The names stay unique in the course of a run when no turn of it has one repeated, and only then;
and as long as they do, every policy is the one that is found by its name. -/
theorem names_unique_iff_none_repeated (gate : Gate) (turns : List PolicyTurn) :
    ((∀ earlier, earlier <+: turns →
        ((ofStore .empty).run gate earlier).store.contents.NamesUnique) ↔
      ∀ earlier turn, earlier ++ [turn] <+: turns →
        ¬ ((ofStore .empty).run gate earlier).RepeatsName turn) ∧
    (((ofStore .empty).run gate turns).store.contents.NamesUnique ↔
      ∀ p ∈ ((ofStore .empty).run gate turns).store.contents.policies.values,
        ((ofStore .empty).run gate turns).store.contents.named p.tenant p.name = some p) := by
  have hindexed (earlier : List PolicyTurn) :
      ((ofStore .empty).run gate earlier).store.contents.Indexed :=
    indexed_run Keyed.indexed_empty earlier
  refine ⟨⟨?_, ?_⟩, StoreContents.namesUnique_iff_named⟩
  · intro hunique earlier turn hwithin
    have hbefore := hunique earlier ((List.prefix_append earlier [turn]).trans hwithin)
    have hafter := hunique (earlier ++ [turn]) hwithin
    rw [run_append_singleton] at hafter
    exact (names_take (hindexed earlier) hbefore turn).1 hafter
  · intro hnone earlier hwithin
    -- A turn keeps names unique where they were, so the run is gone through from its end.
    induction earlier using List.reverseRecOn with
    | nil => exact StoreContents.namesUnique_empty
    | append_singleton earlier turn ih =>
      have hbefore := ih ((List.prefix_append earlier [turn]).trans hwithin)
      rw [run_append_singleton]
      exact (names_take (hindexed earlier) hbefore turn).2 (hnone earlier turn hwithin)

/-! ### A name that is there twice -/

def secretsDraft (id : PolicyId) : PolicyDraft :=
  { PolicyDraft.named "no secrets" .content with
    id := some id
    conditions := [⟨"query", "contains", .string "secret"⟩]
    actions := [⟨"block", []⟩] }

/-- The second creation comes in when the first has ended. -/
def namesakeTurns : List PolicyTurn :=
  [.arrive ⟨⟨"acme"⟩, "alice"⟩ (.create (secretsDraft ⟨"p1"⟩)),
    .proceed 0 .initial, .proceed 0 .initial, .proceed 0 .initial,
    .arrive ⟨⟨"acme"⟩, "alice"⟩ (.create (secretsDraft ⟨"p2"⟩)),
    .proceed 1 .initial, .proceed 1 .initial, .proceed 1 .initial]

theorem namesakes_created :
    ¬ ∀ (gate : Gate) (turns : List PolicyTurn),
      ((ofStore .empty).run gate turns).store.contents.NamesUnique := by
  intro hunique
  have hids : ∀ p ∈ ((ofStore .empty).run ⟨false, 30⟩ namesakeTurns).store.contents.policies.values,
      ∀ q ∈ ((ofStore .empty).run ⟨false, 30⟩ namesakeTurns).store.contents.policies.values,
        p.tenant = q.tenant → p.name = q.name → p.id = q.id := by
    intro p hp q hq htenant hname
    rw [hunique ⟨false, 30⟩ namesakeTurns p hp q hq htenant hname]
  exact absurd hids (by decide +kernel)

end LivePolicies

end Governance
