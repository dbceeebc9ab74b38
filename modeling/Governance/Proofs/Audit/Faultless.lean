import Governance.Audit.Memory
import Governance.Proofs.Audit.Conservation

/-!
# Backends that do not fail

A backend that does not fail keeps every entry of every batch, in the order of the batches. What its
queue has accepted is then what it holds, once the worker has stopped. Entries in memory are such a
backend as long as nothing is made to fail.
-/

namespace Governance

/-- In a state that is ready, writing a batch adds its entries to the contents, and the state after
it is ready again. -/
structure AuditBackend.Faultless {σ τ : Type} (b : AuditBackend σ τ)
    (contents : σ → List AuditEntry) (ready : σ → Prop) : Prop where
  keeps : ∀ batch s a, ready s → contents ((b.write batch).run s a).1.2 = contents s ++ batch
  stays : ∀ batch s a, ready s → ready ((b.write batch).run s a).1.2

namespace AuditLine

variable {σ τ : Type} {b : AuditBackend σ τ} {contents : σ → List AuditEntry} {ready : σ → Prop}
  {line line' : AuditLine (Logged σ)} {action : LineAction} {before : List AuditEntry}

/-- A backend holds what it held before, and after that the batches that were written. -/
structure Stored (contents : σ → List AuditEntry) (ready : σ → Prop) (before : List AuditEntry)
    (line : AuditLine (Logged σ)) : Prop where
  ready : ready line.store.store
  contents : contents line.store.store = before ++ line.store.batches.flatten

theorem Stored.write (hfaultless : b.Faultless contents ready)
    (hstored : line.Stored contents ready before) (batch : List AuditEntry) (a : Ambient) :
    ready (((BatchWriter.write (some b)).logged batch).run line.store a).1.2.store ∧
      contents (((BatchWriter.write (some b)).logged batch).run line.store a).1.2.store =
        before ++
          (((BatchWriter.write (some b)).logged batch).run line.store a).1.2.batches.flatten := by
  refine ⟨hfaultless.stays batch line.store.store a hstored.ready, ?_⟩
  have hkeeps : contents (((BatchWriter.write (some b)).logged batch).run line.store a).1.2.store =
      contents line.store.store ++ batch :=
    hfaultless.keeps batch line.store.store a hstored.ready
  rw [hkeeps, hstored.contents, BatchAction.logged_batches]
  simp

theorem Moves.stored (hfaultless : b.Faultless contents ready)
    (hmoves : Moves (BatchWriter.write (some b)).logged line action line')
    (hstored : line.Stored contents ready before) : line'.Stored contents ready before := by
  cases hmoves with
  | filled hphase hwaiting hfull a =>
    obtain ⟨hready, hcontents⟩ := hstored.write hfaultless _ a
    exact ⟨hready, hcontents⟩
  | flushed due hphase a =>
    obtain ⟨hready, hcontents⟩ := hstored.write hfaultless _ a
    exact ⟨hready, hcontents⟩
  | stopped hphase hempty a =>
    obtain ⟨hready, hcontents⟩ := hstored.write hfaultless _ a
    exact ⟨hready, hcontents⟩
  | _ => exact ⟨hstored.ready, hstored.contents⟩

end AuditLine

namespace Watched

variable {σ τ : Type} {b : AuditBackend σ τ} {contents : σ → List AuditEntry} {ready : σ → Prop}
  {before : List AuditEntry} {c : AuditConfig} {w : Watched σ}

/-- A sound queue over a backend that does not fail, whose worker leaves nothing behind. -/
structure Reliable (c : AuditConfig) (contents : σ → List AuditEntry) (ready : σ → Prop)
    (before : List AuditEntry) (w : Watched σ) : Prop where
  sound : w.Sound c
  stored : w.line.Stored contents ready before
  emptied : w.line.phase = .stopped → w.line.IsEmpty

theorem Reliable.offer (hreliable : w.Reliable c contents ready before) (e : AuditEntry) :
    (w.offer e).Reliable c contents ready before :=
  ⟨sound_offer hreliable.sound e, ⟨hreliable.stored.ready, hreliable.stored.contents⟩,
    hreliable.sound.line.isEmpty_offer e hreliable.emptied⟩

theorem Reliable.act (hfaultless : b.Faultless contents ready) (hpositive : 0 < c.batchSize)
    (hreliable : w.Reliable c contents ready before) {action : LineAction}
    (hoffer : ∀ e, action ≠ .offer e) (hworked : action ≠ .discardWorker) :
    (w.act (BatchWriter.write (some b)) action).Reliable c contents ready before := by
  have hmoves := w.moves_act (BatchWriter.write (some b)) action
  exact ⟨sound_act _ hpositive hreliable.sound hoffer, hmoves.stored hfaultless hreliable.stored,
    hmoves.isEmpty hreliable.sound.line hworked hreliable.emptied⟩

/-- Once the worker has stopped, the backend holds what was accepted. -/
theorem Reliable.contents_eq (hreliable : w.Reliable c contents ready before)
    (hstopped : w.line.phase = .stopped) :
    contents w.line.store.store = before ++ w.accepted := by
  obtain ⟨hpending, hwaiting⟩ := hreliable.emptied hstopped
  rw [hreliable.stored.contents, ← hreliable.sound.kept, AuditLine.passed, hpending, hwaiting,
    List.append_nil, List.append_nil]

/-- Where no entry was dropped for want of room, those were accepted that were offered before the
worker was closing. -/
theorem Sound.outcome_of_not_dropped (hsound : w.Sound c) {o : Offer} (ho : o ∈ w.offers)
    (hroom : o.outcome ≠ .dropped) : o.outcome = .enqueued ↔ ¬ AuditLine.IsClosing o.phase := by
  rw [← hsound.refused o ho]
  cases houtcome : o.outcome with
  | enqueued => simp
  | dropped => exact absurd houtcome hroom
  | closed => simp

end Watched

/-! ### Entries in memory -/

namespace MemoryAudit

/-- Nothing is made to fail. -/
structure Works (s : MemoryAudit) : Prop where
  rejected : s.rejected = []
  starts : s.failsStart = false
  prepares : s.failsPrepare = false
  commits : s.failsCommit = false

theorem works_empty : empty.Works := ⟨rfl, rfl, rfl, rfl⟩

section Operations

variable {s : MemoryAudit} (hworks : s.Works) (e : AuditEntry) (t : StagedEntries) (a : Ambient)

include hworks

theorem run_start : backend.start.run s a = ((.ok ⟨[]⟩, { s with starts := s.starts + 1 }), a) := by
  rcases s with ⟨committed, rejected, start, prepare, commit⟩
  obtain ⟨rfl, rfl, rfl, rfl⟩ := hworks
  rfl

theorem run_prepare : (backend.prepare t).run s a = (((.ok (), t), s), a) := by
  rcases s with ⟨committed, rejected, start, prepare, commit⟩
  obtain ⟨rfl, rfl, rfl, rfl⟩ := hworks
  rfl

theorem run_insert : (backend.insert e t).run s a = (((.ok (), ⟨t.entries ++ [e]⟩), s), a) := by
  rcases s with ⟨committed, rejected, start, prepare, commit⟩
  obtain ⟨rfl, rfl, rfl, rfl⟩ := hworks
  rfl

theorem run_commit : (backend.commit t).run s a =
    ((.ok (), { s with committed := s.committed ++ t.entries, commits := s.commits + 1 }), a) := by
  rcases s with ⟨committed, rejected, start, prepare, commit⟩
  obtain ⟨rfl, rfl, rfl, rfl⟩ := hworks
  rfl

end Operations

theorem run_insertAll {s : MemoryAudit} (hworks : s.Works) (batch : List AuditEntry)
    (t : StagedEntries) (r : WriteReport) (a : Ambient) :
    (backend.insertAll batch t r).run s a =
      ((({ r with written := r.written + batch.length }, ⟨t.entries ++ batch⟩), s), a) := by
  induction batch generalizing t r with
  | nil =>
    rw [List.append_nil]
    rfl
  | cons e rest ih =>
    rw [AuditBackend.insertAll, Acting.run_bind (run_insert hworks e t a)]
    simp only
    rw [ih, List.append_assoc, List.singleton_append, List.length_cons, Nat.add_assoc,
      Nat.add_comm 1]

theorem run_write {s : MemoryAudit} (hworks : s.Works) (batch : List AuditEntry) (a : Ambient) :
    ((backend.write batch).run s a).1.2 = { s with
      committed := s.committed ++ batch, starts := s.starts + 1, commits := s.commits + 1 } := by
  have hbegun : Works { s with starts := s.starts + 1 } :=
    ⟨hworks.rejected, hworks.starts, hworks.prepares, hworks.commits⟩
  rw [AuditBackend.write, Acting.run_bind (run_start hworks a)]
  simp only
  rw [Acting.run_bind (run_prepare hbegun ⟨[]⟩ a)]
  simp only
  rw [Acting.run_bind (run_insertAll hbegun batch ⟨[]⟩ ⟨0, 0⟩ a)]
  simp only
  rw [Acting.run_bind (run_commit hbegun ⟨[] ++ batch⟩ a)]
  rfl

theorem faultless : backend.Faultless committed Works where
  keeps batch s a hworks := by
    rw [run_write hworks]
  stays batch s a hworks := by
    rw [run_write hworks]
    exact ⟨hworks.rejected, hworks.starts, hworks.prepares, hworks.commits⟩

end MemoryAudit

end Governance
