import Governance.Proofs.Policy.Validity
import Governance.Proofs.Store.Edits

/-!
# Stores of valid policies

A call whose drafts and patches are valid leaves only valid policies behind, and the store never takes
what it was given for corrupt.
-/

namespace Governance

open Acting (Ensures)

/-- All drafts and patches of a call have passed their checks. -/
def StoreCall.Valid : StoreCall → Prop
  | .create _ draft _ => draft.faults = []
  | .update _ _ patch _ => patch.faults = []
  | .importAll _ drafts _ _ => ∀ d ∈ drafts, d.faults = []
  | _ => True

/-- Every kind that a call gives to a policy is the one that its word stands for. -/
def StoreCall.HonorsKinds : StoreCall → Prop
  | .update _ _ patch actor => ∀ word, patch.kind = some word → ∀ (p : Policy) (now : Instant),
      PolicyKind.ofWord? word = some (p.applyPatch patch actor now).kind
  | .importAll _ drafts _ actor => ∀ d ∈ drafts, ∀ (p : Policy) (now : Instant),
      PolicyKind.ofWord? d.kind = some (p.overwrite d actor now).kind
  | _ => True

theorem StoreCall.Valid.honorsKinds {c : StoreCall} (hvalid : c.Valid) : c.HonorsKinds := by
  cases c with
  | update => exact fun _ hword p _ => p.kind_applyPatch hvalid hword
  | importAll => exact fun d hd p _ => p.kind_overwrite (hvalid d hd)
  | _ => trivial

theorem StoreCall.Valid.drafts {c : StoreCall} (hvalid : c.Valid) :
    ∀ d ∈ c.drafts, d.faults = [] := by
  cases c with
  | create tenant draft actor => exact List.forall_mem_singleton.2 hvalid
  | importAll tenant drafts mode actor => exact hvalid
  | _ => exact fun d hd => absurd hd List.not_mem_nil

namespace StoreContents

variable {s : StoreContents} {c : StoreCall} {e : StoreEdit}

def AllValid (s : StoreContents) : Prop := ∀ p ∈ s.policies.values, p.Valid

theorem AllValid.edit (hs : s.AllValid) (hindexed : s.Indexed) (hvalid : c.Valid)
    (hfits : e.Fits c.tenant s) (hpermits : c.Permits s e) : (s.edit e).AllValid := by
  refine forall_values_edit hindexed hs hfits ?_ ?_
  · rintro p rfl
    cases c with
    | create =>
      obtain ⟨fresh, now, hp⟩ := hpermits
      exact Policy.valid_of_toPolicy hvalid hp
    | importAll =>
      obtain ⟨_, d, hd, fresh, now, hp⟩ := hpermits
      exact Policy.valid_of_toPolicy (hvalid d hd) hp
    | _ => cases hpermits
  · rintro old new rfl hold
    cases c with
    | update =>
      obtain ⟨_, now, rfl⟩ := hpermits
      exact hold.applyPatch hvalid
    | importAll =>
      obtain ⟨_, d, hd, _, now, rfl⟩ := hpermits
      exact old.valid_overwrite (hvalid d hd)
    | _ => cases hpermits

end StoreContents

theorem StoreCall.Makes.allValid {c : StoreCall} {added : Nat} {s s' : MemoryStore}
    (hmakes : c.Makes added s s') (hs : s.contents.Indexed) (hvalid : c.Valid)
    (hpolicies : s.contents.AllValid) : s'.contents.AllValid :=
  hmakes.keeps (fun _ _ ht hfits hpermits hall => hall.edit ht hvalid hfits hpermits) hs hpolicies

namespace MemoryStore

variable {s : MemoryStore} {c : StoreCall} {draft : PolicyDraft} {tenant : TenantId} {actor : String}

/-- A draft of a known kind is refused at most because its identifier is taken. -/
theorem ensures_insert_known (hkind : (PolicyKind.ofWord? draft.kind).isSome) :
    Ensures (insert tenant draft actor) s fun answer _ =>
      ∀ reason, answer ≠ .error (.corrupt reason) := by
  refine .lift_bind fun fresh => .lift_bind fun now => ?_
  split
  · rename_i word hword
    rw [(PolicyDraft.kind_of_toPolicy_error hword).1] at hkind
    cases hkind
  · refine .get_bind ?_
    split
    · refine .pure ?_
      rintro reason ⟨⟩
    · rintro a reason ⟨⟩

theorem ensures_answer_uncorrupted (hvalid : c.Valid) : Ensures (answer c) s fun answer _ =>
    ∀ reason, answer ≠ .error (.corrupt reason) := by
  cases c with
  | create tenant draft actor =>
    have hkind := (PolicyDraft.faults_eq_nil.1 hvalid).2.2.1
    refine .bind ((ensures_insert_known hkind).mono ?_)
    intro inserted s' hinserted
    cases inserted with
    | error e => exact .pure fun reason h => hinserted reason (congrArg _ (Except.error.inj h))
    | ok p => exact .bind fun _ => .lift_bind fun _ => .pure nofun
  | importAll tenant drafts mode actor =>
    refine .get_bind (.bind fun _ => ?_)
    split
    · exact fun _ => nofun
    · exact .pure nofun
  | update | delete => exact .bind fun _ => .pure nofun
  | _ => exact fun _ => nofun

/-- Valid calls keep all policies valid, and never fail for what they were given. -/
theorem ensures_answer_valid (hs : s.contents.Indexed) (hpolicies : s.contents.AllValid)
    (hvalid : c.Valid) : Ensures (answer c) s fun answer s' =>
      (∀ reason, answer ≠ .error (.corrupt reason)) ∧
        s'.contents.Indexed ∧ s'.contents.AllValid := by
  intro a
  obtain ⟨_, hmakes⟩ := ensures_answer hs c a
  exact ⟨ensures_answer_uncorrupted hvalid a, hmakes.indexed hs,
    hmakes.allValid hs hvalid hpolicies⟩

end MemoryStore

end Governance
