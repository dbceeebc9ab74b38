import Governance.Gateway.Serving
import Governance.Proofs.Audit.Provenance
import Governance.Proofs.Gateway.Runs

/-!
# The audit entries that a gateway holds

While it answers a program, a gateway comes to hold no audit entries but those that the program offers.
Letting time pass, or giving the worker a turn, only moves entries on.
-/

namespace Governance

namespace Gateway

open Acting (Keeps)

variable {σ τ α : Type} {contents : σ → List AuditEntry} {b : Option (AuditBackend σ τ)}

def entries (contents : σ → List AuditEntry) (g : Gateway σ) : List AuditEntry := g.line.entries contents

theorem keeps_onLine {x : Acting (AuditLine σ) α} {g : Gateway σ}
    (hx : Keeps (AuditLine.entries contents) x g.line) : Keeps (entries contents) (onLine x) g :=
  fun a => hx a

/-- A call adds the entry that it offers, if any. -/
def Adds (held : List AuditEntry) (x : Exchange gatewayInterface) (held' : List AuditEntry) : Prop :=
  held' ⊆ held ++ x.call.footprint.offers

theorem Spans.subset_append_offers {trace : List (Exchange gatewayInterface)} {held held' : List AuditEntry}
    (hspans : Spans Adds held trace held') : held' ⊆ held ++ (footprint trace).offers := by
  induction trace generalizing held with
  | nil => exact hspans ▸ List.subset_append_left _ _
  | cons x rest ih =>
    obtain ⟨held₁, hadds, hrest⟩ := hspans
    rw [footprint_cons, Footprint.append_offers, ← List.append_assoc]
    exact List.Subset.trans (ih hrest) (List.append_subset.2
      ⟨List.Subset.trans hadds (List.subset_append_left _ _), List.subset_append_right _ _⟩)

section Answering

variable (hadds : (BatchWriter.write b).AddsOnly contents) (c : Collaborators) (g : Gateway σ)

include hadds

theorem keeps_passTo (time : Duration) : Keeps (entries contents) (passTo b time) g := by
  refine .get_bind ?_
  split
  · exact (keeps_onLine (AuditLine.keeps_pass hadds g.elapsed time g.line)).bind fun _ _ _ =>
      List.Subset.refl _
  · exact .pure (List.Subset.refl _)

theorem keeps_await (x : Reaction α) (deadline : Duration) :
    Keeps (entries contents) (await b deadline x).run g := by
  rw [run_await]
  refine .get_bind ?_
  split
  · exact (keeps_passTo hadds g _).bind fun _ _ => .pure (List.Subset.refl _)
  · exact (keeps_passTo hadds g _).bind fun _ _ => .pure (List.Subset.refl _)

theorem keeps_settle : Keeps (entries contents) (settle b) g := by
  refine .get_bind ?_
  exact keeps_onLine (AuditLine.keeps_settle hadds g.elapsed g.line)

omit hadds in
theorem keeps_measure (m : Measurement) : Keeps (entries contents) (measure m) g := by
  intro a
  cases m with
  | sample s => exact List.Subset.refl _
  | stage name elapsed => exact List.Subset.refl _
  | evaluation elapsed risk applied blocked => exact List.Subset.refl _
  | redaction fields => exact List.Subset.refl _

theorem adds_answer (call : GatewayCall) : Acting.Ensures (answer b c call).run g fun _ g' =>
    g'.entries contents ⊆ g.entries contents ++ call.footprint.offers := by
  have hkeeps : call.footprint.offers = [] → Keeps (entries contents) (answer b c call).run g →
      Acting.Ensures (answer b c call).run g fun _ g' =>
        g'.entries contents ⊆ g.entries contents ++ call.footprint.offers := by
    intro hnone hkept
    rw [hnone, List.append_nil]
    exact hkept
  cases call with
  | route r deadline => exact hkeeps rfl (keeps_await hadds { g with routed := g.routed + 1 } _ _)
  | redact r response deadline =>
    exact hkeeps rfl (keeps_await hadds { g with redacted := g.redacted + 1 } _ _)
  | offer e => exact fun _ => g.line.entries_offer e
  | measure m =>
    have hnone : (GatewayCall.measure m).footprint.offers = [] := by cases m <;> rfl
    exact hkeeps hnone (keeps_measure g m)
  | deadline allowed =>
    refine hkeeps rfl (Acting.Ensures.get_bind ?_)
    cases g.deadline? allowed with
    | none => exact .pure (List.Subset.refl _)
    | some deadline => exact .pure (List.Subset.refl _)
  | _ => exact hkeeps rfl fun _ => List.Subset.refl _

theorem adds_run (p : Program gatewayInterface α) :
    Acting.Ensures (Program.run (answer b c) p).run g fun _ g' => ∃ trace reply,
      GatewayRuns p trace reply ∧
        g'.entries contents ⊆ g.entries contents ++ (footprint trace).offers := by
  refine (ensures_run (entries contents) Adds (fun call g a => ?_) p g).mono ?_
  · obtain ⟨reply, houtcome, hfragile, -⟩ := ensures_answer b c g call a
    exact ⟨reply, houtcome, hfragile, adds_answer hadds c g call a⟩
  · rintro outcome g' ⟨trace, reply, hrun, -, hspans⟩
    exact ⟨trace, reply, hrun, hspans.subset_append_offers⟩

end Answering

end Gateway

end Governance
