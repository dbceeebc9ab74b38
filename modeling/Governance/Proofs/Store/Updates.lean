import Governance.Proofs.Policy.Validity
import Governance.Proofs.Store.Lifetimes

/-!
# Updates in a row

A patch sets the fields that it gives and leaves the others alone, so what several patches come to
is told field by field: the last one that gives a field decides. Two patches are worth one that takes
every field from the second if it is there, provided that the second has no word for a kind that
means nothing. Such a word is passed over, and does not take the place of what the first one says.

What an update is recorded as hangs on the policy before and after it alone. Along a row of updates
those that switch on and those that switch off therefore add up to what the row has made of the
policy as a whole, and a store that is asked for the updates records them so.
-/

namespace Governance

/-- The fields that a patch can give. -/
inductive PatchField where
  | name
  | description
  | kind
  | conditions
  | actions
  | priority
  | enabled
  | category
  | tags

namespace PolicyPatch

/-- A patch does not give a field. -/
def LeavesOut (p : PolicyPatch) : PatchField → Prop
  | .name => p.name = none
  | .description => p.description = none
  | .kind => p.kind = none
  | .conditions => p.conditions = none
  | .actions => p.actions = none
  | .priority => p.priority = none
  | .enabled => p.enabled = none
  | .category => p.category = none
  | .tags => p.tags = none

/-- No field is given by both patches. -/
def Disjoint (p q : PolicyPatch) : Prop := ∀ field, p.LeavesOut field ∨ q.LeavesOut field

/-- The patch that takes every field from one patch if it is there, and from another one if not. -/
def orElse (p q : PolicyPatch) : PolicyPatch where
  name := p.name.or q.name
  description := p.description.or q.description
  kind := p.kind.or q.kind
  conditions := p.conditions.or q.conditions
  actions := p.actions.or q.actions
  priority := p.priority.or q.priority
  enabled := p.enabled.or q.enabled
  category := p.category.or q.category
  tags := p.tags.or q.tags

end PolicyPatch

/-- A patch that someone applies at some time. -/
structure PolicyUpdate where
  patch : PolicyPatch
  actor : String
  now : Instant

namespace Policy

/-- Two policies have the same in a field. -/
def AgreesIn (p q : Policy) : PatchField → Prop
  | .name => p.name = q.name
  | .description => p.description = q.description
  | .kind => p.kind = q.kind
  | .conditions => p.conditions = q.conditions
  | .actions => p.actions = q.actions
  | .priority => p.priority = q.priority
  | .enabled => p.enabled = q.enabled
  | .category => p.category = q.category
  | .tags => p.tags = q.tags

def updated (p : Policy) (u : PolicyUpdate) : Policy := p.applyPatch u.patch u.actor u.now

/-- What an update is recorded as. -/
def changeBy (p : Policy) (u : PolicyUpdate) : ChangeKind :=
  .ofTransition p.enabled (p.updated u).enabled

def updatedAll (p : Policy) (us : List PolicyUpdate) : Policy := us.foldl updated p

def changesBy (p : Policy) : List PolicyUpdate → List ChangeKind
  | [] => []
  | u :: rest => p.changeBy u :: (p.updated u).changesBy rest

variable {p q r : Policy} {first second : PolicyPatch} {field : PatchField} {actor actor' : String}
  {now now' : Instant}

/-! ### Two patches -/

theorem version_applyPatch_applyPatch (hroom : p.version < Int32.maxValue - 1) :
    ((p.applyPatch first actor now).applyPatch second actor' now').version.toInt =
      (p.applyPatch first actor now).version.toInt + 1 := by
  have hroom : p.version.toInt < 2147483646 := Int32.lt_iff_toInt_lt.1 hroom
  have hnext : (p.version + 1).toInt = p.version.toInt + 1 :=
    toInt_add_one (Int32.lt_iff_toInt_lt.2 (Int.lt_trans hroom (by decide)))
  refine toInt_add_one (Int32.lt_iff_toInt_lt.2 ?_)
  change (p.version + 1).toInt < 2147483647
  omega

theorem kind_orElse (hsecond : second.faults = []) :
    (second.kind.bind PolicyKind.ofWord?).or (first.kind.bind PolicyKind.ofWord?) =
      (second.kind.or first.kind).bind PolicyKind.ofWord? := by
  cases hword : second.kind with
  | none => rfl
  | some word =>
    obtain ⟨kind, hkind⟩ := PolicyPatch.exists_kind hsecond hword
    simp only [Option.bind_some, Option.some_or, hkind]

theorem applyPatch_applyPatch (p : Policy) (hsecond : second.faults = []) :
    (p.applyPatch first actor now).applyPatch second actor' now' =
      { p.applyPatch (second.orElse first) actor' now' with version := p.version + 1 + 1 } := by
  simp only [applyPatch, PolicyPatch.orElse, Option.getD_or, Option.or_assoc, ← kind_orElse hsecond]

theorem applyPatch_comm (p : Policy) (hdisjoint : first.Disjoint second) {author author' : String}
    {time time' : Instant} :
    (p.applyPatch first actor now).applyPatch second actor' now' =
      { (p.applyPatch second author time).applyPatch first author' time' with
        updatedAt := now'
        updatedBy := actor' } := by
  have hgetD {α : Type} {a b : Option α} (h : a = none ∨ b = none) (old : α) :
      b.getD (a.getD old) = a.getD (b.getD old) := by
    rcases h with rfl | rfl <;> rfl
  have hkind : first.kind.bind PolicyKind.ofWord? = none ∨
      second.kind.bind PolicyKind.ofWord? = none := by
    rcases hdisjoint .kind with h | h
    · exact .inl (by rw [h, Option.bind_none])
    · exact .inr (by rw [h, Option.bind_none])
  have hcategory : second.category.or (first.category.or p.category) =
      first.category.or (second.category.or p.category) := by
    rcases hdisjoint .category with h | h <;> rw [h] <;> simp
  simp only [applyPatch, hgetD (hdisjoint .name) p.name,
    hgetD (hdisjoint .description) p.description, hgetD hkind p.kind,
    hgetD (hdisjoint .conditions) p.conditions, hgetD (hdisjoint .actions) p.actions,
    hgetD (hdisjoint .priority) p.priority, hgetD (hdisjoint .enabled) p.enabled, hcategory,
    hgetD (hdisjoint .tags) p.tags]

/-! ### Rows of updates -/

theorem AgreesIn.trans (hfirst : p.AgreesIn q field) (hsecond : q.AgreesIn r field) :
    p.AgreesIn r field := by
  cases field <;> exact Eq.trans hfirst hsecond

theorem agreesIn_updated {u : PolicyUpdate} (hout : u.patch.LeavesOut field) :
    (p.updated u).AgreesIn p field := by
  cases field <;> simp only [PolicyPatch.LeavesOut] at hout <;>
    simp [AgreesIn, updated, applyPatch, hout]

theorem sameOrigin_updatedAll (p : Policy) (us : List PolicyUpdate) :
    p.SameOrigin (p.updatedAll us) := by
  induction us generalizing p with
  | nil => exact ⟨rfl, rfl, rfl, rfl, rfl⟩
  | cons u rest ih =>
    have hone : p.SameOrigin (p.updated u) := ⟨rfl, rfl, rfl, rfl, rfl⟩
    exact hone.trans (ih (p.updated u))

theorem agreesIn_updatedAll {us : List PolicyUpdate} (hout : ∀ u ∈ us, u.patch.LeavesOut field) :
    (p.updatedAll us).AgreesIn p field := by
  induction us generalizing p with
  | nil => cases field <;> rfl
  | cons u rest ih =>
    obtain ⟨hfirst, hrest⟩ := List.forall_mem_cons.1 hout
    exact (ih hrest).trans (agreesIn_updated hfirst)

/-- One update is recorded as a switch exactly when it is one. -/
theorem switch_changeBy (p : Policy) (u : PolicyUpdate) :
    (if p.changeBy u = .enable then 1 else 0 : Int) - (if p.changeBy u = .disable then 1 else 0) =
      (p.updated u).enabled.toNat - p.enabled.toNat := by
  unfold changeBy
  cases p.enabled <;> cases (p.updated u).enabled <;> rfl

theorem switches_changesBy (p : Policy) (us : List PolicyUpdate) :
    ((p.changesBy us).count .enable : Int) - (p.changesBy us).count .disable =
      (p.updatedAll us).enabled.toNat - p.enabled.toNat := by
  induction us generalizing p with
  | nil => simp [changesBy, updatedAll]
  | cons u rest ih =>
    have hone := switch_changeBy p u
    have hrest := ih (p.updated u)
    have hall : p.updatedAll (u :: rest) = (p.updated u).updatedAll rest := rfl
    simp only [changesBy, hall, List.count_cons, beq_iff_eq, Nat.cast_add, Nat.cast_ite,
      Nat.cast_one, Nat.cast_zero]
    omega

end Policy

/-! ### Updates that a store is asked for -/

namespace MemoryStore

open Acting (Yields)

variable {s : MemoryStore} {tenant : TenantId} {p : Policy}

theorem yields_update_owned {patch : PolicyPatch} (actor : String) (a : Ambient)
    (howned : s.contents.owned tenant p.id = some p) (hpatch : patch.isEmpty = false)
    (hkeeps : s.losesRevisions = false) :
    Yields (update tenant p.id patch actor) s a fun _ s' _ =>
      s'.contents.owned tenant p.id = some (p.updated ⟨patch, actor, a.clock⟩) ∧
        s'.losesRevisions = false ∧
        ∃ r, s'.contents.history p.id = s.contents.history p.id ++ [r] ∧
          r.change = p.changeBy ⟨patch, actor, a.clock⟩ := by
  refine .get_bind ?_
  simp only [howned, hpatch, Bool.false_eq_true, if_false]
  refine .now_bind fun a₁ _ _ => .bind (.modify (.bind ((yields_record _ _ _).mono ?_)))
  rintro _ s' a' ⟨r, htells, hpolicies, hrecords⟩
  have hrecords : s.Records a₁ [r] s' a' := hrecords.of_keep
  refine .emit_bind fun _ _ _ => .pure
    ⟨?_, hrecords.losesRevisions.trans hkeeps, r, ?_, htells.change⟩
  · rw [StoreContents.owned, hpolicies]
    exact (StoreContents.owned_eq_some.1 howned).2 ▸ StoreContents.owned_keep_self
  · have hpolicy : r.policy = p.id := htells.policy
    rw [hrecords.histories, written, if_neg (Bool.eq_false_iff.1 hkeeps),
      List.filter_singleton, decide_eq_true hpolicy, cond_true]

/-- Where a store is asked for updates of a policy, the policy comes to what they make of it in a
row, and its history says of each what it was. -/
theorem updates_recorded (howned : s.contents.owned tenant p.id = some p)
    (hkeeps : s.losesRevisions = false) (asked : List (PolicyPatch × String × Ambient))
    (hasked : ∀ u ∈ asked, u.1.isEmpty = false) :
    let us := asked.map fun (patch, actor, a) => ⟨patch, actor, a.clock⟩
    let s' := s.play (asked.map fun (patch, actor, a) => .call (.update tenant p.id patch actor) a)
    s'.contents.owned tenant p.id = some (p.updatedAll us) ∧
      ∃ revisions, s'.contents.history p.id = s.contents.history p.id ++ revisions ∧
        revisions.map (·.change) = p.changesBy us := by
  induction asked generalizing s p with
  | nil => exact ⟨howned, [], (List.append_nil _).symm, rfl⟩
  | cons u rest ih =>
    obtain ⟨patch, actor, a⟩ := u
    obtain ⟨hpatch, hrest⟩ := List.forall_mem_cons.1 hasked
    obtain ⟨howned', hkeeps', r, hhistory, hchange⟩ :=
      yields_update_owned actor a howned hpatch hkeeps
    obtain ⟨hlast, revisions, hlater, hchanges⟩ :=
      ih (p := p.updated ⟨patch, actor, a.clock⟩) howned' hkeeps' hrest
    refine ⟨hlast, r :: revisions, ?_, ?_⟩
    · refine hlater.trans ?_
      exact (congrArg (· ++ revisions) hhistory).trans (List.append_assoc _ [r] revisions)
    · rw [List.map_cons, hchange, hchanges]
      rfl

end MemoryStore

namespace Policy

/-- Two patches in a row are worth one that takes each field from the second if it is there, but for
the version, which is one higher; and when they have no field in common their order does not matter,
but for who was last and when. A row of updates leaves alone what a policy has from its origin and
what none of its patches gives, and those recorded as switching on, less those recorded as switching
off, are what it has switched. -/
theorem patches_compose (p : Policy) :
    (∀ first second : PolicyUpdate, p.version < Int32.maxValue - 1 → second.patch.faults = [] →
      let twice := (p.updated first).updated second
      let once := p.updated ⟨second.patch.orElse first.patch, second.actor, second.now⟩
      twice = { once with version := twice.version } ∧
        twice.version.toInt = once.version.toInt + 1) ∧
    (∀ first second : PolicyUpdate, first.patch.Disjoint second.patch →
      let other := (p.updated second).updated first
      (p.updated first).updated second =
        { other with updatedAt := second.now, updatedBy := second.actor }) ∧
    ∀ us : List PolicyUpdate,
      p.SameOrigin (p.updatedAll us) ∧
      (∀ field, (∀ u ∈ us, u.patch.LeavesOut field) → (p.updatedAll us).AgreesIn p field) ∧
      ((p.changesBy us).count .enable : Int) - (p.changesBy us).count .disable =
        (p.updatedAll us).enabled.toNat - p.enabled.toNat := by
  refine ⟨?_, ?_, ?_⟩
  · intro first second hroom hsecond
    exact ⟨p.applyPatch_applyPatch hsecond, version_applyPatch_applyPatch hroom⟩
  · exact fun first second hdisjoint => p.applyPatch_comm hdisjoint
  · exact fun us => ⟨p.sameOrigin_updatedAll us, fun field hout => agreesIn_updatedAll hout,
      p.switches_changesBy us⟩

/-! ### A policy that is switched off and on again -/

def watchedRule : Policy where
  id := ⟨"p1"⟩
  tenant := ⟨"acme"⟩
  name := "no secrets"
  description := ""
  kind := .content
  tier := .tenant
  priority := 10
  enabled := true
  conditions := [⟨"query", "contains", .string "secret"⟩]
  actions := [⟨"block", []⟩]
  category := none
  tags := []
  version := 1
  createdAt := ⟨1893456000, 0⟩
  updatedAt := ⟨1893456000, 0⟩
  createdBy := "alice"
  updatedBy := "alice"

def switchingOff : PolicyUpdate :=
  ⟨⟨none, none, some "risk", none, none, some 5, some false, none, none⟩, "bob", ⟨1893456001, 0⟩⟩

def switchingOn : PolicyUpdate :=
  ⟨⟨none, none, some "cost", none, none, none, some true, none, none⟩, "carol", ⟨1893456002, 0⟩⟩

def naming : PolicyUpdate :=
  ⟨⟨some "no passwords", none, none, none, none, none, none, some "safety", none⟩, "dave",
    ⟨1893456003, 0⟩⟩

theorem watchedRule_updated :
    watchedRule.version < Int32.maxValue - 1 ∧ switchingOn.patch.faults = [] ∧
      (watchedRule.updated switchingOff).updated switchingOn =
        { watchedRule.updated
            ⟨switchingOn.patch.orElse switchingOff.patch, "carol", ⟨1893456002, 0⟩⟩ with
          version := 3 } ∧
      switchingOff.patch.Disjoint naming.patch ∧
      (watchedRule.updated switchingOff).updated naming =
        { (watchedRule.updated naming).updated switchingOff with
          updatedAt := ⟨1893456003, 0⟩
          updatedBy := "dave" } ∧
      watchedRule.changesBy [switchingOff, naming, switchingOn] = [.disable, .update, .enable] ∧
      (watchedRule.updatedAll [switchingOff, naming, switchingOn]).AgreesIn watchedRule
        .conditions := by
  have hroom : watchedRule.version < Int32.maxValue - 1 := by decide
  have hpatch : switchingOn.patch.faults = [] := by decide +kernel
  have hdisjoint : switchingOff.patch.Disjoint naming.patch := by
    intro field
    cases field <;> first | exact .inl rfl | exact .inr rfl
  have hout : ∀ u ∈ [switchingOff, naming, switchingOn], u.patch.LeavesOut .conditions := by
    simp [switchingOff, naming, switchingOn, PolicyPatch.LeavesOut]
  obtain ⟨htwice, hcommute, hrow⟩ := patches_compose watchedRule
  exact ⟨hroom, hpatch, (htwice switchingOff switchingOn hroom hpatch).1, hdisjoint,
    hcommute switchingOff naming hdisjoint, rfl, (hrow _).2.1 .conditions hout⟩

end Policy

end Governance
