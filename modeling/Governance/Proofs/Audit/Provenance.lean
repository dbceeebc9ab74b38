import Governance.Proofs.Audit.Batches
import Governance.Proofs.Audit.Conservation

/-!
# Where the entries of an audit line come from

An entry that waits in the queue, is pending with the writer or is held by the backend was offered to the
queue, or was there before: the worker only moves entries on, as long as the backend adds nothing but what
it is given to write.
-/

namespace Governance

/-- Running `x` from `s` adds nothing to the entries that are in view. -/
def Acting.Keeps {σ α : Type} (view : σ → List AuditEntry) (x : Acting σ α) (s : σ) : Prop :=
  Acting.Ensures x s fun _ s' => view s' ⊆ view s

theorem Acting.Keeps.bind {σ α β : Type} {view : σ → List AuditEntry} {x : Acting σ α}
    {f : α → Acting σ β} {s : σ} (hx : Keeps view x s) (hf : ∀ value s, Keeps view (f value) s) :
    Keeps view (x >>= f) s :=
  Acting.Ensures.bind (hx.mono fun value s₁ hfirst =>
    (hf value s₁).mono fun _ _ hsecond => List.Subset.trans hsecond hfirst)

/-- Whatever comes of a batch, a backend that holds `contents` holds nothing after it but what it held
before and entries of the batch. -/
def BatchAction.AddsOnly {σ : Type} (write : BatchAction σ) (contents : σ → List AuditEntry) : Prop :=
  ∀ batch s, Acting.Ensures (write batch) s fun _ s' => contents s' ⊆ contents s ++ batch

theorem Writing.Fared.kept_subset {w : Writing} (hw : w.Fared) : w.kept ⊆ w.batch := by
  cases hw with
  | refused | unprepared | uncommitted => exact List.nil_subset _
  | committed origin b offers =>
    simp only [kept, taken, Writing.offers, offers_deedsOf]
    exact List.map_subset _ (List.filter_subset_self _)

theorem MemoryAudit.write_addsOnly : BatchAction.AddsOnly backend.write committed := by
  intro batch s a
  obtain ⟨books, deeds, hfared, hbecomes⟩ :=
    TracedAudit.ensures_backend_write (s := .ofStore s) TracedAudit.undisturbed .given batch a
  have hbooks := (congrArg AuditBooks.committed hbecomes.books).trans hfared.booked.committed
  have hwritten : ((backend.write batch).run s a).1.2.committed = s.committed ++ Writing.kept _ :=
    (congrArg (·.1.2.committed) (TracedAudit.mirrors_backend_write batch (.ofStore s) a)).trans hbooks
  intro e he
  rw [hwritten, List.mem_append] at he
  exact List.mem_append.2 (he.imp_right fun hkept => hfared.kept_subset hkept)

theorem BatchWriter.write_addsOnly {σ τ : Type} {b : Option (AuditBackend σ τ)}
    {contents : σ → List AuditEntry} (hadds : ∀ backend, b = some backend →
      BatchAction.AddsOnly backend.write contents) : (write b).AddsOnly contents := by
  cases b with
  | some backend => exact hadds backend rfl
  | none => exact fun batch s => .pure (List.subset_append_left _ _)

/-- The entry that is offered by an action. -/
def LineAction.offers : LineAction → List AuditEntry
  | .offer e => [e]
  | _ => []

namespace AuditLine

open Acting (Keeps)

variable {σ : Type} {write : BatchAction σ} {contents : σ → List AuditEntry} {line line' : AuditLine σ}

def entries (contents : σ → List AuditEntry) (line : AuditLine σ) : List AuditEntry :=
  contents line.store ++ line.writer.pending ++ line.queue.waiting

theorem mem_entries {e : AuditEntry} : e ∈ line.entries contents ↔
    e ∈ contents line.store ∨ e ∈ line.writer.pending ∨ e ∈ line.queue.waiting := by
  rw [entries, List.mem_append, List.mem_append, or_assoc]

theorem entries_offer (line : AuditLine σ) (e : AuditEntry) :
    entries contents { line with queue := line.queue.offer e } ⊆ line.entries contents ++ [e] := by
  intro e' he'
  rw [List.mem_append, List.mem_singleton, mem_entries]
  rcases mem_entries.1 he' with hstore | hpending | hwaiting
  · exact .inl (.inl hstore)
  · exact .inl (.inr (.inl hpending))
  · rw [AuditQueue.offer] at hwaiting
    split at hwaiting
    · rcases List.mem_append.1 hwaiting with hwaiting | hnew
      · exact .inl (.inr (.inr hwaiting))
      · exact .inr (List.mem_singleton.1 hnew)
    · exact .inl (.inr (.inr hwaiting))

/-- What is pending and has been written is in the store or nowhere. -/
theorem mem_of_written (hadds : write.AddsOnly contents) {batch : List AuditEntry} {s : σ} {a : Ambient}
    {e : AuditEntry} (he : e ∈ contents ((write batch).run s a).1.2) : e ∈ contents s ∨ e ∈ batch :=
  List.mem_append.1 (hadds batch s a he)

/-- An action moves entries on, and adds only what it offers. -/
theorem Moves.entries_subset (hadds : write.AddsOnly contents) {action : LineAction}
    (hmoves : Moves write line action line') :
    line'.entries contents ⊆ line.entries contents ++ action.offers := by
  intro e he
  rw [List.mem_append, mem_entries]
  cases hmoves with
  | idle | started | asked | noticed | released | discarded => exact .inl (mem_entries.1 he)
  | offered hheld => exact (List.mem_append.1 (line.entries_offer _ he)).imp_left mem_entries.1
  | collected hphase hwaiting hroom =>
    rw [hwaiting]
    rcases mem_entries.1 he with hstore | hpending | hrest
    · exact .inl (.inl hstore)
    · rcases List.mem_append.1 hpending with hpending | hfirst
      · exact .inl (.inr (.inl hpending))
      · exact .inl (.inr (.inr (List.mem_cons.2 (.inl (List.mem_singleton.1 hfirst)))))
    · exact .inl (.inr (.inr (List.mem_cons_of_mem _ hrest)))
  | filled hphase hwaiting hfull a =>
    rw [hwaiting]
    rcases mem_entries.1 he with hwritten | hnone | hrest
    · rcases mem_of_written hadds hwritten with hstore | hbatch
      · exact .inl (.inl hstore)
      · rcases List.mem_append.1 hbatch with hpending | hfirst
        · exact .inl (.inr (.inl hpending))
        · exact .inl (.inr (.inr (List.mem_cons.2 (.inl (List.mem_singleton.1 hfirst)))))
    · cases hnone
    · exact .inl (.inr (.inr (List.mem_cons_of_mem _ hrest)))
  | flushed | stopped =>
    rcases mem_entries.1 he with hwritten | hnone | hwaiting
    · rcases mem_of_written hadds hwritten with hstore | hpending
      · exact .inl (.inl hstore)
      · exact .inl (.inr (.inl hpending))
    · cases hnone
    · exact .inl (.inr (.inr hwaiting))

/-! ### What a worker does -/

theorem keeps_act (hadds : write.AddsOnly contents) {action : LineAction} (haction : action.offers = [])
    (line : AuditLine σ) : Keeps (entries contents) (act write action) line := by
  intro a
  have hmoved := (moves_act write action line a).entries_subset hadds
  rwa [haction, List.append_nil] at hmoved

theorem keeps_actAll (hadds : write.AddsOnly contents) {actions : List LineAction}
    (hactions : ∀ action ∈ actions, action.offers = []) (line : AuditLine σ) :
    Keeps (entries contents) (actAll write actions) line := by
  induction actions generalizing line with
  | nil => exact .pure (List.Subset.refl _)
  | cons action rest ih =>
    obtain ⟨haction, hrest⟩ := List.forall_mem_cons.1 hactions
    exact (keeps_act hadds haction line).bind fun _ line₁ => ih hrest line₁

theorem keeps_settle (hadds : write.AddsOnly contents) (now : Duration) (line : AuditLine σ) :
    Keeps (entries contents) (settle write now) line := by
  refine .get_bind (keeps_actAll hadds ?_ line)
  intro action haction
  rcases List.mem_append.1 haction with hreceive | hlast
  · obtain ⟨_, -, rfl⟩ := List.mem_map.1 hreceive
    rfl
  · simp only [List.mem_cons, List.not_mem_nil, or_false] at hlast
    rcases hlast with rfl | rfl | rfl | rfl <;> rfl

theorem keeps_passTo (hadds : write.AddsOnly contents) (time : Duration) (fuel : Nat)
    (line : AuditLine σ) : Keeps (entries contents) (passTo write time fuel) line := by
  induction fuel generalizing line with
  | zero => exact keeps_settle hadds time line
  | succ fuel ih =>
    refine .get_bind ?_
    split
    · exact (keeps_settle hadds _ line).bind fun _ line₁ => ih line₁
    · exact keeps_settle hadds time line

theorem keeps_pass (hadds : write.AddsOnly contents) (now time : Duration) (line : AuditLine σ) :
    Keeps (entries contents) (pass write now time) line :=
  .get_bind (keeps_passTo hadds time _ line)

end AuditLine

end Governance
