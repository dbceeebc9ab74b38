import Governance.Proofs.Store.Imports
import Governance.Proofs.Store.Updates

/-!
# Policies and histories under their identifiers

A store looks up policies and histories by identifiers, and every call works out for itself under
which one it writes. Still every policy is found under its own identifier and nowhere else, and every
revision stands in the history of the policy that it shows. No call undoes this, and neither does
seeding. So a policy that was found by its name is found by its identifier, and an import never
misses one that it is about to overwrite.
-/

namespace Governance

open Acting (Ensures)

/-- Every policy is kept under its own identifier, which no other policy has, and every revision under
that of the policy that it shows, whose version it has. -/
structure StoreContents.Coherent (s : StoreContents) : Prop where
  own : ∀ id p, s.policies.get? id = some p → p.id = id
  distinct : (s.policies.values.map (·.id)).Nodup
  filed : s.Filed
  versions : ∀ id, ∀ r ∈ s.history id, r.version = r.snapshot.version

namespace MemoryStore

variable {s s' : MemoryStore} {a a' : Ambient} {id : PolicyId}

/-! ### Coherence -/

theorem Performs.versions {deeds : List Deed} (hperforms : s.Performs a deeds s' a')
    (hs : ∀ r ∈ s.contents.history id, r.version = r.snapshot.version) :
    ∀ r ∈ s'.contents.history id, r.version = r.snapshot.version := by
  intro r hr
  rw [hperforms.records.histories] at hr
  rcases List.mem_append.1 hr with hold | hnew
  · exact hs r hold
  · have hwritten : r ∈ s.written (deeds.map Deed.revision) := List.mem_of_mem_filter hnew
    unfold written at hwritten
    split at hwritten
    · cases hwritten
    · obtain ⟨d, hd, rfl⟩ := List.mem_map.1 hwritten
      exact (hperforms.succession.tells d hd).version

theorem Reachable.versions (hs : s.Reachable) (id : PolicyId) :
    ∀ r ∈ s.contents.history id, r.version = r.snapshot.version := by
  induction hs with
  | empty => exact fun _ hr => absurd hr List.not_mem_nil
  | seed _ p ih => exact ih
  | answer hs c a ih =>
    obtain ⟨deeds, _, hperforms⟩ := yields_answer (a := a) hs.indexed c
    exact hperforms.versions ih
  | switch _ _ _ ih => exact ih

theorem Reachable.coherent (hs : s.Reachable) : s.contents.Coherent where
  own _ _ hget := hs.indexed.key_of_get hget
  distinct := hs.indexed.nodup_keys
  filed := hs.filed
  versions := hs.versions

end MemoryStore

/-! ### What takes the place of a policy -/

namespace StoreCall

variable {c : StoreCall} {s : StoreContents} {old was new : Policy} {e : StoreEdit}

/-- Under the identifier of a policy there is what it has become, or nothing after its tenant has
deleted it. -/
def Replaces (c : StoreCall) (old : Policy) : Option Policy → Prop
  | some new => old.SameOrigin new
  | none => ∃ actor, c = .delete old.tenant old.id actor

theorem Permits.sameOrigin (hpermits : c.Permits s (.change was new)) : was.SameOrigin new := by
  cases c with
  | update =>
    obtain ⟨_, now, rfl⟩ := hpermits
    exact ⟨rfl, rfl, rfl, rfl, rfl⟩
  | importAll =>
    obtain ⟨_, d, _, _, now, rfl⟩ := hpermits
    exact ⟨rfl, rfl, rfl, rfl, rfl⟩
  | _ => cases hpermits

theorem Replaces.edit (hfits : e.Fits c.tenant s) (hpermits : c.Permits s e)
    (hbefore : c.Replaces old (s.policies.get? old.id)) :
    c.Replaces old ((s.edit e).policies.get? old.id) := by
  cases e with
  | add p =>
    have hget : (s.edit (.add p)).policies.get? old.id =
        if p.id = old.id then some p else s.policies.get? old.id := Keyed.get?_put _ _ _ _
    rw [hget]
    split
    · rename_i hid
      -- The place was free, so the call is one that deletes; but that one brings nothing in.
      rw [← hid, hfits.1] at hbefore
      obtain ⟨actor, rfl⟩ := hbefore
      cases hpermits
    · exact hbefore
  | change was new =>
    obtain ⟨howned, hsucceeds⟩ := hfits
    have hget : (s.edit (.change was new)).policies.get? old.id =
        if new.id = old.id then some new else s.policies.get? old.id := Keyed.get?_put _ _ _ _
    rw [hget]
    split
    · rename_i hid
      rw [← hid, hsucceeds.id, (StoreContents.owned_eq_some.1 howned).1] at hbefore
      exact Policy.SameOrigin.trans hbefore hpermits.sameOrigin
    · exact hbefore
  | remove was =>
    obtain ⟨hfound, htenant⟩ := StoreContents.owned_eq_some.1 hfits
    have hget : (s.edit (.remove was)).policies.get? old.id =
        if was.id = old.id then none else s.policies.get? old.id := Keyed.get?_erase _ _ _
    rw [hget]
    split
    · rename_i hid
      rw [← hid, hfound] at hbefore
      have horigin : old.SameOrigin was := hbefore
      cases c with
      | delete tenant id actor =>
        obtain rfl : was.id = id := hpermits
        refine ⟨actor, ?_⟩
        rw [← horigin.id, ← horigin.tenant, htenant]
        rfl
      | _ => cases hpermits
    · exact hbefore
  | record r => exact hbefore

end StoreCall

/-! ### Policies that vanish -/

/-- What is reported of a draft whose policy was found by its name and then not by its identifier. -/
def vanishedMessage (name : String) : String := replacementMessage name "policy vanished"

theorem toList_replacementMessage (name reason : String) :
    (replacementMessage name reason).toList =
      "Error updating policy ".toList ++ (name.toList ++ (": ".toList ++ reason.toList)) := by
  unfold replacementMessage
  simp only [String.toList_append, List.append_assoc]

theorem start_replacementMessage (name reason : String) :
    (replacementMessage name reason).toList.take 7 = "Error u".toList := by
  rw [toList_replacementMessage, List.take_append_of_le_length (by decide)]
  decide

theorem start_creationMessage (name reason : String) :
    (creationMessage name reason).toList.take 7 = "Error c".toList := by
  unfold creationMessage
  rw [String.toList_append, String.toList_append, String.toList_append, List.append_assoc,
    List.append_assoc, List.take_append_of_le_length (by decide)]
  decide

theorem start_takenMessage (name : String) :
    (takenMessage name).toList.take 7 = "Policy ".toList := by
  unfold takenMessage
  rw [String.toList_append, String.toList_append, List.append_assoc,
    List.take_append_of_le_length (by decide)]
  decide

theorem ne_vanishedMessage_of_start {message : String} {start : List Char}
    (hstart : message.toList.take 7 = start) (hother : start ≠ "Error u".toList) (name : String) :
    message ≠ vanishedMessage name := by
  rintro rfl
  exact hother (hstart.symm.trans (start_replacementMessage _ _))

theorem immutableMessage_ne_vanishedMessage (name other : String) :
    replacementMessage name "system policies are immutable" ≠ vanishedMessage other := by
  -- The names may differ, so the messages are told apart by how they end.
  intro hsame
  have hend := congrArg (fun message => message.toList.getLast?) hsame
  simp only [vanishedMessage, toList_replacementMessage, List.getLast?_append] at hend
  cases hend

theorem PolicyDraft.outcome_ne_vanished (draft : PolicyDraft) (mode : ImportMode)
    (tier : Option PolicyTier) (refusal : Option StoreError) (name other : String) :
    draft.outcome mode tier refusal ≠ .failed name (vanishedMessage other) := by
  unfold outcome
  intro hsame
  split at hsame
  · cases hsame
  · exact ne_vanishedMessage_of_start (start_takenMessage _) (by decide) _
      (ImportOutcome.failed.inj hsame).2
  · split at hsame
    · exact immutableMessage_ne_vanishedMessage _ _ (ImportOutcome.failed.inj hsame).2
    · cases hsame
  · split at hsame
    · exact ne_vanishedMessage_of_start (start_creationMessage _ _) (by decide) _
        (ImportOutcome.failed.inj hsame).2
    · cases hsame

theorem ImportReport.errors_foldl_record (outcomes : List ImportOutcome) (r : ImportReport)
    {message : String} (hmem : message ∈ (outcomes.foldl record r).errors) :
    message ∈ r.errors ∨ ∃ name, .failed name message ∈ outcomes := by
  induction outcomes generalizing r with
  | nil => exact .inl hmem
  | cons outcome rest ih =>
    rcases ih (r.record outcome) hmem with hfirst | ⟨name, hrest⟩
    · cases outcome with
      | failed name reason =>
        rcases List.mem_append.1 hfirst with hbefore | hnow
        · exact .inl hbefore
        · obtain rfl := List.mem_singleton.1 hnow
          exact .inr ⟨name, List.mem_cons_self⟩
      | _ => exact .inl hfirst
    · exact .inr ⟨name, List.mem_cons_of_mem _ hrest⟩

namespace MemoryStore

variable {s : MemoryStore} {tenant : TenantId} {actor : String} {mode : ImportMode}
  {draft : PolicyDraft} {drafts : List PolicyDraft}

theorem replaces_answer (hs : s.contents.Indexed) {id : PolicyId} {old : Policy}
    (hold : s.contents.policies.get? id = some old) (c : StoreCall) (a : Ambient) :
    c.Replaces old (((answer c).run s a).1.2.contents.policies.get? id) := by
  obtain rfl := hs.key_of_get hold
  obtain ⟨_, hmakes⟩ := ensures_answer hs c a
  refine hmakes.keeps (P := fun t => c.Replaces old (t.policies.get? old.id)) ?_ hs ?_
  · exact fun t e _ hfits hpermits hbefore => hbefore.edit hfits hpermits
  · rw [hold]
    exact ⟨rfl, rfl, rfl, rfl, rfl⟩

/-- What becomes of a draft is told from the tier of the policy that has its name and from why it
cannot become a policy, and nothing else can become of it. -/
theorem ensures_importOne_outcome (hs : s.contents.Indexed) :
    Ensures (importOne tenant mode actor draft) s fun outcome _ =>
      ∃ tier refusal, outcome = draft.outcome mode tier refusal := by
  refine .get_bind ?_
  cases hnamed : s.contents.named tenant draft.name with
  | some p =>
    cases mode with
    | skip => exact .pure ⟨some p.tier, none, rfl⟩
    | error => exact .pure ⟨some p.tier, none, rfl⟩
    | overwrite =>
      have howned := hs.mem_ownedBy.1 (StoreContents.of_named hnamed).1
      obtain ⟨hget, _⟩ := StoreContents.owned_eq_some.1 howned
      refine .get_bind ?_
      simp only [hget]
      split
      · exact .pure ⟨some .system, none, rfl⟩
      · exact .lift_bind fun _ => .bind fun _ => .bind fun _ => .pure ⟨some .tenant, none, rfl⟩
  | none =>
    refine .bind (ensures_insert.mono ?_)
    rintro (e | p) _ _
    · exact .pure ⟨none, some e, rfl⟩
    · exact .bind fun _ => .pure ⟨none, none, rfl⟩

theorem ensures_importEach_found (hs : s.contents.Indexed) :
    Ensures (importEach tenant mode actor drafts) s fun outcomes _ =>
      ∀ name other, .failed name (vanishedMessage other) ∉ outcomes := by
  induction drafts generalizing s with
  | nil => exact .pure fun _ _ => List.not_mem_nil
  | cons draft rest ih =>
    refine .bind (((ensures_importOne_outcome hs).and
      (ensures_importOne hs (List.mem_singleton_self draft))).mono ?_)
    rintro outcome s' ⟨⟨tier, refusal, rfl⟩, hmakes⟩
    refine .bind ((ih (hmakes.indexed hs)).mono ?_)
    intro outcomes _ hothers
    refine .pure fun name other hmem => ?_
    rcases List.mem_cons.1 hmem with hfirst | hrest
    · exact PolicyDraft.outcome_ne_vanished _ _ _ _ _ _ hfirst.symm
    · exact hothers name other hrest

theorem ensures_importAll_found (hs : s.contents.Indexed) :
    Ensures (importAll tenant drafts mode actor) s fun answer _ =>
      ∀ report, answer = .ok report → ∀ name, vanishedMessage name ∉ report.errors := by
  refine .get_bind (.bind ((ensures_importEach_found hs).mono ?_))
  intro outcomes s' hfound
  split
  · exact fun _ _ hreport => nomatch hreport
  · refine .pure ?_
    rintro _ ⟨⟩ name hmem
    rcases ImportReport.errors_foldl_record _ _ hmem with hempty | ⟨failed, hfailed⟩
    · cases hempty
    · exact hfound failed name hfailed

/-- Whatever calls were made and policies seeded before, policies and histories are kept under their
identifiers, a call leaves under the identifier of a policy only what has become of that policy, and
a policy that was found by its name is never missing when it is about to be overwritten. -/
theorem reachable_stores_coherent (hs : s.Reachable) :
    s.contents.Coherent ∧
    (∀ id old, s.contents.policies.get? id = some old → ∀ (c : StoreCall) a,
      c.Replaces old (((answer c).run s a).1.2.contents.policies.get? id)) ∧
    ∀ tenant mode actor drafts a,
      (∀ name other, .failed name (vanishedMessage other) ∉
        ((importEach tenant mode actor drafts).run s a).1.1) ∧
      ∀ report, ((answer (.importAll tenant drafts mode actor)).run s a).1.1 = .ok report →
        ∀ name, vanishedMessage name ∉ report.errors := by
  refine ⟨hs.coherent, fun id old hold => replaces_answer hs.indexed hold, ?_⟩
  exact fun tenant mode actor drafts a =>
    ⟨ensures_importEach_found hs.indexed a, ensures_importAll_found hs.indexed a⟩

/-- A store with a policy that may never be changed, and with one that was created and then changed. -/
def platformStore : MemoryStore :=
  let created := (answer (.create ⟨"acme"⟩ chosenDraft "alice")).run
    (empty.seed { Policy.watchedRule with id := ⟨"p2"⟩, name := "no passwords", tier := .system })
    .initial
  ((answer (.update ⟨"acme"⟩ ⟨"p1"⟩ ⟨none, none, none, none, none, some 5, none, none, none⟩
    "bob")).run created.1.2 created.2).1.2

def refreshingDrafts : List PolicyDraft :=
  [chosenDraft, PolicyDraft.named "no passwords" .content,
    { PolicyDraft.named "no weather" .content with kind := "weather" }]

theorem platformStore_refreshed :
    platformStore.Reachable ∧ platformStore.contents.Coherent ∧
    (platformStore.contents.history ⟨"p1"⟩).map (·.version) = [1, 2] ∧
    (∃ old new, platformStore.contents.policies.get? ⟨"p1"⟩ = some old ∧
      ((answer (.importAll ⟨"acme"⟩ refreshingDrafts .overwrite "carol")).run platformStore
        .initial).1.2.contents.policies.get? ⟨"p1"⟩ = some new ∧
      old.priority = 5 ∧ new.priority = 0 ∧ old.SameOrigin new) ∧
    ∃ outcomes, ((importEach ⟨"acme"⟩ .overwrite "carol" refreshingDrafts).run platformStore
        .initial).1.1 = outcomes ∧
      outcomes = [.updated "no secrets",
        .failed "no passwords"
          "Error updating policy no passwords: system policies are immutable",
        .failed "no weather" (creationMessage "no weather"
          (StoreError.unknownKind "weather").message)] ∧
      ∀ name other, .failed name (vanishedMessage other) ∉ outcomes := by
  have hs : platformStore.Reachable := ((Reachable.empty.seed _).answer _ _).answer _ _
  obtain ⟨hcoherent, hreplaces, hfound⟩ := reachable_stores_coherent hs
  refine ⟨hs, hcoherent, by decide +kernel, ?_, ?_⟩
  · obtain ⟨old, hold, hbefore⟩ : ∃ old,
        platformStore.contents.policies.get? ⟨"p1"⟩ = some old ∧ old.priority = 5 := ⟨_, rfl, rfl⟩
    obtain ⟨new, hnew, hafter⟩ : ∃ new,
        ((answer (.importAll ⟨"acme"⟩ refreshingDrafts .overwrite "carol")).run platformStore
          .initial).1.2.contents.policies.get? ⟨"p1"⟩ = some new ∧ new.priority = 0 :=
      ⟨_, rfl, rfl⟩
    have hreplaced := hreplaces _ old hold (.importAll ⟨"acme"⟩ refreshingDrafts .overwrite "carol")
      .initial
    rw [hnew] at hreplaced
    exact ⟨old, new, hold, hnew, hbefore, hafter, hreplaced⟩
  · exact ⟨_, rfl, by decide +kernel, (hfound _ _ _ _ _).1⟩

end MemoryStore

end Governance
