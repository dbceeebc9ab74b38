import Governance.Proofs.Store.Runs

/-!
# Histories are lives

A policy lives from its creation to its deletion, and an identifier can be used again after that. So a
history is a list of lives, one after the other, of which all but perhaps the last have ended. A life
begins with a creation; the versions of its revisions count from one, and the policy as it is now is
shown by the last of them. A deletion repeats the revision before it.
-/

namespace Governance

/-- Revisions of a policy that lives, from its creation on: they count the versions, and the last of
them shows the policy. -/
structure IsLife (id : PolicyId) (revisions : List Revision) (p : Policy) : Prop where
  begins : ∃ r, revisions.head? = some r ∧ r.change = .create
  continues : ∀ r ∈ revisions.tail, r.change = .update ∨ r.change = .enable ∨ r.change = .disable
  numbered : ∀ (i : Nat) (r : Revision), revisions[i]? = some r → r.version.toInt = i + 1
  shows : ∀ r ∈ revisions, r.policy = id ∧ r.snapshot.id = id ∧ r.snapshot.version = r.version
  latest : revisions.getLast?.map (·.snapshot) = some p

/-- Revisions of a policy that was deleted: the last of them tells of the deletion and shows the policy
as the one before it does. -/
def IsEndedLife (id : PolicyId) (revisions : List Revision) : Prop :=
  ∃ lived p last, revisions = lived ++ [last] ∧ IsLife id lived p ∧ last.Tells p .delete

/-- A history consists of lives, and the last of them is still going on if there is a policy. -/
def SplitsIntoLives (id : PolicyId) (history : List Revision) (live : Option Policy) : Prop :=
  ∃ (ended : List (List Revision)) (current : List Revision),
    history = ended.flatten ++ current ∧ (∀ l ∈ ended, IsEndedLife id l) ∧
    match live with
    | some p => IsLife id current p
    | none => current = []

theorem toInt_add_one {version : Int32} (hroom : version < Int32.maxValue) :
    (version + 1).toInt = version.toInt + 1 := by
  have hbound : version.toInt < 2147483647 := Int32.lt_iff_toInt_lt.1 hroom
  have hleast := Int32.le_toInt version
  have hone : (1 : Int32).toInt = 1 := rfl
  rw [Int32.toInt_add, hone, Int.bmod_eq_of_le] <;> omega

namespace IsLife

variable {id : PolicyId} {revisions : List Revision} {p : Policy} {r : Revision}

theorem ne_nil (hlife : IsLife id revisions p) : revisions ≠ [] := by
  rintro rfl
  obtain ⟨r, hr, _⟩ := hlife.begins
  cases hr

theorem version_eq (hlife : IsLife id revisions p) : p.version.toInt = revisions.length := by
  have hlatest := hlife.latest
  rw [List.getLast?_eq_getElem?, Option.map_eq_some_iff] at hlatest
  obtain ⟨r, hr, rfl⟩ := hlatest
  rw [(hlife.shows r (List.mem_of_getElem? hr)).2.2, hlife.numbered _ _ hr]
  have hlength := List.length_pos_iff.2 hlife.ne_nil
  omega

theorem exists_version (hlife : IsLife id revisions p) :
    ∃ r ∈ revisions, r.version = p.version := by
  obtain ⟨r, hr, rfl⟩ := Option.map_eq_some_iff.1 hlife.latest
  have hmem := List.mem_of_getLast? hr
  exact ⟨r, hmem, (hlife.shows r hmem).2.2.symm⟩

theorem single (hid : r.snapshot.id = id) (htells : r.Tells r.snapshot .create)
    (hversion : r.snapshot.version = 1) : IsLife id [r] r.snapshot where
  begins := ⟨r, rfl, htells.change⟩
  continues := fun r hr => absurd hr List.not_mem_nil
  numbered := by
    intro i r' hr'
    obtain ⟨hi, rfl⟩ := List.getElem?_eq_some_iff.1 hr'
    obtain rfl : i = 0 := Nat.lt_one_iff.1 hi
    rw [List.getElem_singleton, htells.version, hversion]
    rfl
  shows := by
    intro r' hr'
    rw [List.mem_singleton.1 hr']
    exact ⟨htells.policy.trans hid, hid, htells.version.symm⟩
  latest := rfl

/-- A life goes on with the next version, as long as there is one. -/
theorem append_singleton {kind : ChangeKind} (hlife : IsLife id revisions p)
    (hid : r.snapshot.id = id) (htells : r.Tells r.snapshot kind)
    (hkind : kind = .update ∨ kind = .enable ∨ kind = .disable)
    (hversion : r.snapshot.version = p.version + 1) (hroom : p.version < Int32.maxValue) :
    IsLife id (revisions ++ [r]) r.snapshot where
  begins := by
    obtain ⟨first, hfirst, hcreate⟩ := hlife.begins
    exact ⟨first, by rw [List.head?_append, hfirst, Option.some_or], hcreate⟩
  continues := by
    intro r' hr'
    rw [List.tail_append_of_ne_nil hlife.ne_nil] at hr'
    rcases List.mem_append.1 hr' with hr' | hr'
    · exact hlife.continues r' hr'
    · rw [List.mem_singleton.1 hr', htells.change]
      exact hkind
  numbered := by
    intro i r' hr'
    rcases Nat.lt_or_ge i revisions.length with hi | hi
    · rw [List.getElem?_append_left hi] at hr'
      exact hlife.numbered i r' hr'
    · rw [List.getElem?_append_right hi] at hr'
      obtain ⟨hlast, rfl⟩ := List.getElem?_eq_some_iff.1 hr'
      rw [List.length_singleton, Nat.lt_one_iff] at hlast
      rw [List.getElem_singleton, htells.version, hversion, toInt_add_one hroom, hlife.version_eq]
      omega
  shows := by
    intro r' hr'
    rcases List.mem_append.1 hr' with hr' | hr'
    · exact hlife.shows r' hr'
    · rw [List.mem_singleton.1 hr']
      exact ⟨htells.policy.trans hid, hid, htells.version.symm⟩
  latest := by rw [List.getLast?_concat, Option.map_some]

end IsLife

theorem ChangeKind.ofTransition_cases (before after : Bool) :
    ofTransition before after = .update ∨ ofTransition before after = .enable ∨
      ofTransition before after = .disable := by
  cases before <;> cases after <;> simp [ofTransition]

namespace Deed

variable {id : PolicyId} {deeds : List Deed} {live : Option Policy}

/-- What has been done under an identifier that was free at the start makes up lives. -/
theorem Tale.splitsIntoLives (htale : Tale id none deeds live)
    (hversions : ∀ d ∈ deeds, d.revision.version < Int32.maxValue) :
    SplitsIntoLives id (deeds.map revision) live := by
  -- On the deeds: whatever there is under the identifier is what the life going on has come to.
  induction htale with
  | start => exact ⟨[], [], rfl, fun _ hl => absurd hl List.not_mem_nil, rfl⟩
  | @next deeds before d htale hsubject hfollows htells ih =>
    have hearlier : ∀ d ∈ deeds, d.revision.version < Int32.maxValue := fun d hd =>
      hversions d (List.mem_append_left _ hd)
    obtain ⟨ended, current, hhistory, hended, hcurrent⟩ := ih hearlier
    -- Whatever policy there was, its version is that of a revision of its life.
    have hroom {old : Policy} (hlife : IsLife id current old) :
        old.version < Int32.maxValue := by
      obtain ⟨r, hr, hversion⟩ := hlife.exists_version
      have hmem : r ∈ deeds.map revision := hhistory ▸ List.mem_append_right _ hr
      obtain ⟨d, hd, rfl⟩ := List.mem_map.1 hmem
      exact hversion ▸ hearlier d hd
    rw [List.map_append, hhistory]
    cases d with
    | create r =>
      obtain ⟨rfl, hversion⟩ := hfollows
      obtain rfl : current = [] := hcurrent
      refine ⟨ended, [r], ?_, hended, .single hsubject htells hversion⟩
      rw [List.append_nil]
      rfl
    | patch old r =>
      obtain ⟨rfl, hsucceeds, hversion⟩ := hfollows
      have hlife : IsLife id current old := hcurrent
      refine ⟨ended, current ++ [r], List.append_assoc _ _ _, hended, ?_⟩
      exact hlife.append_singleton hsubject htells (ChangeKind.ofTransition_cases _ _) hversion
        (hroom hlife)
    | overwrite old r =>
      obtain ⟨rfl, hsucceeds, hversion⟩ := hfollows
      have hlife : IsLife id current old := hcurrent
      refine ⟨ended, current ++ [r], List.append_assoc _ _ _, hended, ?_⟩
      exact hlife.append_singleton hsubject htells (.inl rfl) hversion (hroom hlife)
    | delete r =>
      obtain rfl : before = some r.snapshot := hfollows
      have hlife : IsLife id current r.snapshot := hcurrent
      refine ⟨ended ++ [current ++ [r]], [], ?_, ?_, rfl⟩
      · rw [List.flatten_append, List.flatten_singleton, List.append_nil, List.append_assoc]
        rfl
      · intro life hmem
        rcases List.mem_append.1 hmem with hold | hnew
        · exact hended life hold
        · exact ⟨current, r.snapshot, r, List.mem_singleton.1 hnew, hlife, htells⟩

end Deed

namespace MemoryStore

/-- However the calls of a run are mixed, and whichever of its imports are not committed, the history
under every identifier splits into lives, the last of which is that of the policy there is now. Every
call adds to the histories what tells of the deeds its answer stands for, and nothing else. -/
theorem histories_split_into_lives {turns : List StoreTurn} (hturns : ∀ turn ∈ turns, turn.Keeps)
    (id : PolicyId)
    (hversions : ∀ r ∈ (empty.play turns).contents.history id, r.version < Int32.maxValue) :
    SplitsIntoLives id ((empty.play turns).contents.history id)
      ((empty.play turns).contents.policies.get? id) ∧
    ∀ earlier c a, earlier ++ [.call c a] <+: turns →
      ∃ deeds, c.Does ((answer c).run (empty.play earlier) a).1.1 deeds ∧
        Deed.Succession (empty.play earlier).contents.policies deeds ∧
        (empty.play (earlier ++ [.call c a])).contents.policies =
          Deed.applyAll (empty.play earlier).contents.policies deeds ∧
        ∀ other, (empty.play (earlier ++ [.call c a])).contents.history other =
          (empty.play earlier).contents.history other ++
            (deeds.map Deed.revision).filter fun r => r.policy = other := by
  have hempty : empty.contents.Indexed := Keyed.indexed_empty
  constructor
  · obtain ⟨deeds, haccounts⟩ := accounts_play hempty rfl hturns id
    have hhistory : (empty.play turns).contents.history id = deeds.map Deed.revision :=
      haccounts.history
    rw [hhistory] at hversions ⊢
    exact haccounts.tale.splitsIntoLives fun d hd => hversions _ (List.mem_map_of_mem hd)
  · intro earlier c a hwithin
    have hearlier : ∀ turn ∈ earlier, turn.Keeps := fun turn hturn =>
      hturns turn (hwithin.subset (List.mem_append_left _ hturn))
    have hkeeps := keeps_play hempty rfl hearlier
    obtain ⟨deeds, hdoes, hperforms⟩ := yields_answer (a := a) (indexed_play hempty earlier) c
    rw [play_append_singleton]
    refine ⟨deeds, hdoes, hperforms.succession, hperforms.policies, fun other => ?_⟩
    rw [take, hperforms.records.histories, written, if_neg (Bool.eq_false_iff.1 hkeeps)]

/-! ### An identifier that is used again -/

/-- One tenant creates, changes and deletes a policy, then another tenant creates one under the same
identifier. An import in between is not committed. -/
def reusingTurns : List StoreTurn :=
  [.call (.create ⟨"acme"⟩ chosenDraft "alice") .initial,
    .call (.update ⟨"acme"⟩ ⟨"p1"⟩ ⟨none, none, none, none, none, some 5, none, none, none⟩ "alice")
      .initial,
    .switch false true,
    .call (.importAll ⟨"acme"⟩ [chosenDraft] .overwrite "alice") .initial,
    .switch false false,
    .call (.delete ⟨"acme"⟩ ⟨"p1"⟩ "alice") .initial,
    .call (.create ⟨"globex"⟩ chosenDraft "bob") .initial]

theorem reusingTurns_split :
    (∀ turn ∈ reusingTurns, turn.Keeps) ∧
    (∀ r ∈ (empty.play reusingTurns).contents.history ⟨"p1"⟩, r.version < Int32.maxValue) ∧
    ((empty.play reusingTurns).contents.history ⟨"p1"⟩).map (·.change) =
      [.create, .update, .delete, .create] ∧
    SplitsIntoLives ⟨"p1"⟩ ((empty.play reusingTurns).contents.history ⟨"p1"⟩)
      ((empty.play reusingTurns).contents.policies.get? ⟨"p1"⟩) := by
  have hturns : ∀ turn ∈ reusingTurns, turn.Keeps := by
    simp [reusingTurns, StoreTurn.Keeps]
  have hversions : ∀ r ∈ (empty.play reusingTurns).contents.history ⟨"p1"⟩,
      r.version < Int32.maxValue := by
    decide +kernel
  exact ⟨hturns, hversions, rfl, (histories_split_into_lives hturns ⟨"p1"⟩ hversions).1⟩

end MemoryStore

end Governance
