import Mathlib.Data.List.Induction
import Governance.Proofs.Store.Deeds

/-!
# Runs of a store

A run is any list of calls, whoever makes them, and of faults that come and go. What was done under one
identifier in the course of a run is its tale: a list of deeds, each of which follows on what the one
before has left. As long as no revision is lost, the history under the identifier is the tale, revision
by revision, and `accounts_play` says so; it also says which call did which deed.
-/

namespace Governance

/-- What can happen to a store: a call is made in some surroundings, or faults are switched. -/
inductive StoreTurn where
  | call (c : StoreCall) (surroundings : Ambient)
  | switch (losesRevisions rejectsCommits : Bool)

/-- No revisions are lost from that turn on. -/
def StoreTurn.Keeps : StoreTurn → Prop
  | .call _ _ => True
  | .switch losesRevisions _ => losesRevisions = false

/-- What was done under one identifier, from what there was under it at the start. -/
inductive Deed.Tale (id : PolicyId) (start : Option Policy) : List Deed → Option Policy → Prop
  | start : Tale id start [] start
  | next {deeds : List Deed} {before : Option Policy} {d : Deed}
      (htale : Tale id start deeds before) (hsubject : d.subject = id) (hfollows : d.Follows before)
      (htells : d.revision.Tells d.revision.snapshot d.change) : Tale id start (deeds ++ [d]) d.left

namespace Deed

variable {policies : Keyed PolicyId Policy} {deeds : List Deed}

theorem Succession.tells (hdeeds : Succession policies deeds) :
    ∀ d ∈ deeds, d.revision.Tells d.revision.snapshot d.change := by
  induction deeds generalizing policies with
  | nil => exact fun _ hd => absurd hd List.not_mem_nil
  | cons d rest ih =>
    obtain ⟨_, htells, hrest⟩ := hdeeds
    exact List.forall_mem_cons.2 ⟨htells, ih hrest⟩

/-- Of the revisions of deeds, those that are kept under an identifier are of deeds under it. -/
theorem Succession.filter_revisions (hdeeds : Succession policies deeds) (id : PolicyId) :
    (deeds.map revision).filter (fun r => r.policy = id) =
      (deeds.filter fun d => d.subject = id).map revision := by
  rw [List.filter_map]
  congr 1
  refine List.filter_congr fun d hd => ?_
  rw [Function.comp_apply, subject, (hdeeds.tells d hd).policy]

/-- A tale goes on with the deeds under its identifier; the others do not concern it. -/
theorem Tale.extend {start : Option Policy} {told : List Deed} {id : PolicyId}
    (htale : Tale id start told (policies.get? id)) (hdeeds : Succession policies deeds) :
    Tale id start (told ++ deeds.filter fun d => d.subject = id)
      ((applyAll policies deeds).get? id) := by
  induction deeds generalizing policies told with
  | nil => simpa [applyAll] using htale
  | cons d rest ih =>
    obtain ⟨hfollows, htells, hrest⟩ := hdeeds
    have hget := get?_apply policies d id
    by_cases hid : d.subject = id
    · subst hid
      rw [if_pos rfl] at hget
      have hnext : Tale d.subject start (told ++ [d]) ((d.apply policies).get? d.subject) :=
        hget ▸ htale.next rfl hfollows htells
      simpa [applyAll] using ih hnext hrest
    · rw [if_neg hid] at hget
      simpa [applyAll, hid] using ih (hget.symm ▸ htale) hrest

end Deed

namespace MemoryStore

def take (s : MemoryStore) : StoreTurn → MemoryStore
  | .call c a => ((answer c).run s a).1.2
  | .switch losesRevisions rejectsCommits => ⟨s.contents, losesRevisions, rejectsCommits⟩

def play (s : MemoryStore) (turns : List StoreTurn) : MemoryStore := turns.foldl take s

variable {s : MemoryStore} {turns : List StoreTurn} {turn : StoreTurn}

theorem play_append_singleton (s : MemoryStore) (turns : List StoreTurn) (turn : StoreTurn) :
    s.play (turns ++ [turn]) = (s.play turns).take turn := by
  rw [play, List.foldl_concat]
  rfl

theorem indexed_take (hs : s.contents.Indexed) (turn : StoreTurn) :
    (s.take turn).contents.Indexed := by
  cases turn with
  | call c a =>
    obtain ⟨deeds, _, hperforms⟩ := yields_answer (a := a) hs c
    exact hperforms.indexed hs
  | switch => exact hs

theorem indexed_play (hs : s.contents.Indexed) (turns : List StoreTurn) :
    (s.play turns).contents.Indexed := by
  induction turns generalizing s with
  | nil => exact hs
  | cons turn rest ih => exact ih (indexed_take hs turn)

theorem keeps_take (hs : s.contents.Indexed) (hkeeps : s.losesRevisions = false)
    (hturn : turn.Keeps) : (s.take turn).losesRevisions = false := by
  cases turn with
  | call c a =>
    obtain ⟨deeds, _, hperforms⟩ := yields_answer (a := a) hs c
    exact hperforms.records.losesRevisions.trans hkeeps
  | switch => exact hturn

theorem keeps_play (hs : s.contents.Indexed) (hkeeps : s.losesRevisions = false)
    (hturns : ∀ turn ∈ turns, turn.Keeps) : (s.play turns).losesRevisions = false := by
  induction turns generalizing s with
  | nil => exact hkeeps
  | cons turn rest ih =>
    obtain ⟨hturn, hrest⟩ := List.forall_mem_cons.1 hturns
    exact ih (indexed_take hs turn) (keeps_take hs hkeeps hturn) hrest

/-- A call of a run did a deed, of which the revision at that place of the history tells. -/
def DoneAt (s : MemoryStore) (turns : List StoreTurn) (id : PolicyId) (place : Nat) (d : Deed) :
    Prop :=
  ∃ earlier c a deeds, earlier ++ [.call c a] <+: turns ∧
    c.Does ((answer c).run (s.play earlier) a).1.1 deeds ∧ d ∈ deeds ∧
    ((s.play earlier).contents.history id).length ≤ place ∧
    place < ((s.play (earlier ++ [.call c a])).contents.history id).length

theorem DoneAt.mono {more : List StoreTurn} {id : PolicyId} {place : Nat} {d : Deed}
    (hdone : s.DoneAt turns id place d) (hle : turns <+: more) : s.DoneAt more id place d := by
  obtain ⟨earlier, c, a, deeds, hearlier, hrest⟩ := hdone
  exact ⟨earlier, c, a, deeds, hearlier.trans hle, hrest⟩

/-- What a run has done under an identifier, as its history tells it. -/
structure Accounts (s : MemoryStore) (turns : List StoreTurn) (id : PolicyId) (deeds : List Deed) :
    Prop where
  tale : Deed.Tale id (s.contents.policies.get? id) deeds
    ((s.play turns).contents.policies.get? id)
  history : (s.play turns).contents.history id =
    s.contents.history id ++ deeds.map Deed.revision
  done : ∀ i d, deeds[i]? = some d → s.DoneAt turns id ((s.contents.history id).length + i) d

theorem Accounts.call {id : PolicyId} {told : List Deed} (htold : s.Accounts turns id told)
    (hs : (s.play turns).contents.Indexed) (hkeeps : (s.play turns).losesRevisions = false)
    (c : StoreCall) (a : Ambient) : ∃ deeds, s.Accounts (turns ++ [.call c a]) id deeds := by
  obtain ⟨deeds, hdoes, hperforms⟩ := yields_answer (a := a) hs c
  have hplay : s.play (turns ++ [.call c a]) = ((answer c).run (s.play turns) a).1.2 :=
    play_append_singleton s turns (.call c a)
  have hwritten (revisions : List Revision) : (s.play turns).written revisions = revisions := by
    rw [written, if_neg (Bool.eq_false_iff.1 hkeeps)]
  have hhistory : (s.play (turns ++ [.call c a])).contents.history id =
      s.contents.history id ++
        (told ++ deeds.filter fun d => d.subject = id).map Deed.revision := by
    rw [hplay, hperforms.records.histories, hwritten,
      hperforms.succession.filter_revisions, htold.history, List.map_append, List.append_assoc]
  refine ⟨told ++ deeds.filter fun d => d.subject = id, ?_, hhistory, ?_⟩
  · rw [hplay, hperforms.policies]
    exact htold.tale.extend hperforms.succession
  · intro i d hd
    rcases Nat.lt_or_ge i told.length with hi | hi
    · rw [List.getElem?_append_left hi] at hd
      exact (htold.done i d hd).mono (List.prefix_append _ _)
    · have hplace := (List.getElem?_eq_some_iff.1 hd).1
      rw [List.getElem?_append_right hi] at hd
      refine ⟨turns, c, a, deeds, List.prefix_rfl, hdoes,
        List.mem_of_mem_filter (List.mem_of_getElem? hd), ?_, ?_⟩
      · rw [htold.history, List.length_append, List.length_map]
        exact Nat.add_le_add_left hi _
      · rw [hhistory, List.length_append, List.length_map]
        exact Nat.add_lt_add_left hplace _

/-- Where no revision is lost, the history under an identifier is its tale. -/
theorem accounts_play (hs : s.contents.Indexed) (hkeeps : s.losesRevisions = false)
    (hturns : ∀ turn ∈ turns, turn.Keeps) (id : PolicyId) :
    ∃ deeds, s.Accounts turns id deeds := by
  -- What a call does follows on what the turns before it have left, so the run grows at its end.
  induction turns using List.reverseRecOn with
  | nil =>
    exact ⟨[], .start, (List.append_nil _).symm, fun i d hd => by simp at hd⟩
  | append_singleton turns turn ih =>
    have hearlier : ∀ turn ∈ turns, turn.Keeps := fun t ht =>
      hturns t (List.mem_append_left _ ht)
    obtain ⟨told, htold⟩ := ih hearlier
    cases turn with
    | call c a => exact htold.call (indexed_play hs turns) (keeps_play hs hkeeps hearlier) c a
    | switch losesRevisions rejectsCommits =>
      have hplay : (s.play (turns ++ [.switch losesRevisions rejectsCommits])).contents =
          (s.play turns).contents := by
        rw [play_append_singleton]
        rfl
      refine ⟨told, hplay ▸ htold.tale, hplay ▸ htold.history, fun i d hd => ?_⟩
      exact (htold.done i d hd).mono (List.prefix_append _ _)

/-- A draft for short runs, which chooses its identifier. -/
def chosenDraft : PolicyDraft := { PolicyDraft.named "no secrets" .content with id := some ⟨"p1"⟩ }

end MemoryStore

end Governance
