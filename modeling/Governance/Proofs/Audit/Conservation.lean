import Governance.Proofs.Audit.Watched

/-!
# No audit entry is lost or written twice

Whatever happens to a queue and its worker, an accepted entry is in one of three places: in a batch
that was written, with the writer, or in the queue. The entries of these places one after the other
are the accepted entries in the order in which they were accepted. A worker that stops leaves
nothing with the writer or in the queue.

`AuditLine.Sound` and `Watched.Sound` are what every event preserves; `AuditLine.passed` is what
only an offer changes. They are followed through the list of `AuditLine.Moves`.
-/

namespace Governance

namespace AuditQueue

variable (q : AuditQueue) (e : AuditEntry)

theorem offer_of_enqueued (h : q.outcome = .enqueued) :
    q.offer e = { q with waiting := q.waiting ++ [e], enqueued := q.enqueued + 1 } := by
  rw [offer, h]

theorem offer_of_ne (h : q.outcome ≠ .enqueued) :
    q.offer e = { q with dropped := q.dropped + 1 } := by
  unfold offer
  split
  · exact absurd ‹_› h
  · rfl

theorem outcome_eq_closed_iff : q.outcome = .closed ↔ q.closed = true := by
  unfold outcome
  split
  · simp [*]
  · split <;> simp [*]

theorem outcome_eq_enqueued_iff :
    q.outcome = .enqueued ↔ q.closed = false ∧ q.waiting.length < q.capacity := by
  unfold outcome
  split
  · simp [*]
  · split <;> simp [*]

theorem capacity_le_of_dropped (h : q.outcome = .dropped) : q.capacity ≤ q.waiting.length := by
  unfold outcome at h
  split at h
  · cases h
  · split at h
    · cases h
    · omega

@[simp] theorem offer_capacity : (q.offer e).capacity = q.capacity := by
  unfold offer
  split <;> rfl

@[simp] theorem offer_closed : (q.offer e).closed = q.closed := by
  unfold offer
  split <;> rfl

theorem offer_counts :
    (q.offer e).enqueued + (q.offer e).dropped = q.enqueued + q.dropped + 1 := by
  unfold offer
  split
  · exact Nat.add_right_comm q.enqueued 1 q.dropped
  · rfl

end AuditQueue

/-- A set-up that was accepted is the one that was asked for, and has batches. -/
theorem AuditConfig.of_make {capacity batchSize : Nat} {interval : Duration} {c : AuditConfig}
    (hmake : make capacity batchSize interval = .ok c) :
    c = ⟨capacity, batchSize, interval⟩ ∧ 0 < batchSize := by
  unfold make at hmake
  split at hmake
  · cases hmake
  · split at hmake
    · cases hmake
    · split at hmake
      · cases hmake
      · exact ⟨(Except.ok.inj hmake).symm, by omega⟩

namespace AuditLine

variable {σ : Type} {write : BatchAction σ} {c : AuditConfig} {line line' : AuditLine (Logged σ)}
  {action : LineAction}

/-- A worker that has been asked to take no more entries, or is gone. -/
def IsClosing (phase : WorkerPhase) : Prop := phase = .draining ∨ phase = .stopped

instance : DecidablePred IsClosing := fun phase =>
  inferInstanceAs (Decidable (phase = .draining ∨ phase = .stopped))

/-- The entries that the worker has taken, and after them those that wait for it. -/
def passed (line : AuditLine (Logged σ)) : List AuditEntry :=
  line.store.batches.flatten ++ line.writer.pending ++ line.queue.waiting

/-- Nothing is longer than it should be, and the queue is closed exactly when its worker is closing.
-/
structure Sound (c : AuditConfig) (line : AuditLine (Logged σ)) : Prop where
  capacity : line.queue.capacity = c.capacity
  size : line.writer.size = c.batchSize
  room : line.queue.waiting.length ≤ c.capacity
  short : line.writer.pending.length < c.batchSize
  batches : ∀ batch ∈ line.store.batches, batch.length ≤ c.batchSize
  closed : line.queue.closed = true ↔ IsClosing line.phase

/-- Nothing is left behind. -/
def IsEmpty (line : AuditLine (Logged σ)) : Prop :=
  line.writer.pending = [] ∧ line.queue.waiting = []

/-- An offer finds room, or changes nothing but the counts. -/
theorem Sound.offer (hsound : line.Sound c) (e : AuditEntry) :
    Sound c { line with queue := line.queue.offer e } := by
  obtain ⟨hcapacity, hsize, hroom, hshort, hbatches, hclosed⟩ := hsound
  refine ⟨?_, hsize, ?_, hshort, hbatches, ?_⟩
  · simpa using hcapacity
  · by_cases houtcome : line.queue.outcome = .enqueued
    · have hfree := (line.queue.outcome_eq_enqueued_iff.1 houtcome).2
      simp only [line.queue.offer_of_enqueued e houtcome, List.length_append, List.length_singleton]
      omega
    · simpa only [line.queue.offer_of_ne e houtcome] using hroom
  · simpa using hclosed

/-- A worker that has stopped does not get any more entries. -/
theorem Sound.isEmpty_offer (hsound : line.Sound c) (e : AuditEntry)
    (hempty : line.phase = .stopped → line.IsEmpty) (hstopped : line.phase = .stopped) :
    IsEmpty { line with queue := line.queue.offer e } := by
  have hrefused : line.queue.outcome ≠ .enqueued := by
    intro henqueued
    have hopen := (line.queue.outcome_eq_enqueued_iff.1 henqueued).1
    rw [hsound.closed.2 (.inr hstopped)] at hopen
    cases hopen
  rw [line.queue.offer_of_ne e hrefused]
  exact hempty hstopped

namespace Moves

theorem sound (hpositive : 0 < c.batchSize) (hmoves : Moves write.logged line action line')
    (hsound : line.Sound c) : line'.Sound c := by
  -- A batch is written when the next entry fills it, or earlier, so it is never too long.
  obtain ⟨hcapacity, hsize, hroom, hshort, hbatches, hclosed⟩ := id hsound
  cases hmoves with
  | idle => exact hsound
  | offered => exact hsound.offer _
  | started due hphase =>
    refine ⟨hcapacity, hsize, hroom, hshort, hbatches, ?_⟩
    simpa [hphase, IsClosing] using hclosed
  | collected hphase hwaiting hspace =>
    rw [hwaiting, List.length_cons] at hroom
    refine ⟨hcapacity, hsize, by simp only; omega, ?_, hbatches, hclosed⟩
    simp only [List.length_append, List.length_singleton]
    omega
  | @filled _ _ e rest hwaiting hfull a =>
    rw [hwaiting, List.length_cons] at hroom
    have hwritten : (line.writer.pending ++ [e]).length ≤ c.batchSize := by
      rw [List.length_append, List.length_singleton]
      omega
    exact ⟨hcapacity, hsize, by simp only; omega, hpositive,
      List.forall_mem_append.2 ⟨hbatches, List.forall_mem_singleton.2 hwritten⟩, hclosed⟩
  | flushed due hphase a =>
    exact ⟨hcapacity, hsize, hroom, hpositive,
      List.forall_mem_append.2 ⟨hbatches, List.forall_mem_singleton.2 (Nat.le_of_lt hshort)⟩,
      hclosed⟩
  | asked => exact ⟨hcapacity, hsize, hroom, hshort, hbatches, hclosed⟩
  | noticed => exact ⟨hcapacity, hsize, hroom, hshort, hbatches, by simp [IsClosing]⟩
  | stopped hphase hempty a =>
    exact ⟨hcapacity, hsize, hroom, hpositive,
      List.forall_mem_append.2 ⟨hbatches, List.forall_mem_singleton.2 (Nat.le_of_lt hshort)⟩,
      by simp [IsClosing]⟩
  | released => exact ⟨hcapacity, hsize, hroom, hshort, hbatches, hclosed⟩
  | discarded => exact ⟨hcapacity, hsize, hroom, hshort, hbatches, by simp [IsClosing]⟩

/-- Only offers change which entries have passed, or are counted. -/
theorem passed (hmoves : Moves write.logged line action line')
    (hoffer : ∀ e, action ≠ .offer e) :
    line'.passed = line.passed ∧ line'.queue.enqueued = line.queue.enqueued ∧
      line'.queue.dropped = line.queue.dropped := by
  cases hmoves with
  | offered => exact absurd rfl (hoffer _)
  | collected hphase hwaiting hspace =>
    refine ⟨?_, rfl, rfl⟩
    simp [AuditLine.passed, hwaiting]
  | filled hphase hwaiting hfull a =>
    refine ⟨?_, rfl, rfl⟩
    simp [AuditLine.passed, hwaiting]
  | flushed due hphase a =>
    refine ⟨?_, rfl, rfl⟩
    simp [AuditLine.passed]
  | stopped hphase hempty a =>
    refine ⟨?_, rfl, rfl⟩
    simp [AuditLine.passed]
  | _ => exact ⟨rfl, rfl, rfl⟩

/-- A worker that has stopped has left nothing behind, unless it never started. -/
theorem isEmpty (hmoves : Moves write.logged line action line') (hsound : line.Sound c)
    (hworked : action ≠ .discardWorker) (hempty : line.phase = .stopped → line.IsEmpty) :
    line'.phase = .stopped → line'.IsEmpty := by
  intro hstopped
  cases hmoves with
  | offered => exact hsound.isEmpty_offer _ hempty hstopped
  | started => cases hstopped
  -- A worker that has stopped has an empty queue, so there is nothing to take.
  | collected hphase hwaiting =>
    exact absurd (hempty hstopped).2 (by simp [hwaiting])
  | filled hphase hwaiting =>
    exact absurd (hempty hstopped).2 (by simp [hwaiting])
  | flushed due hphase => exact ⟨rfl, (hempty hstopped).2⟩
  | noticed => cases hstopped
  | stopped hphase hdrained a => exact ⟨rfl, hdrained⟩
  | discarded => exact absurd rfl hworked
  | _ => exact hempty hstopped

end Moves

end AuditLine

namespace Watched

variable {σ τ : Type} {write : BatchAction σ} {c : AuditConfig} {w : Watched σ}

/-- Every offer is counted and rightly answered, and those that were accepted have passed. -/
structure Sound (c : AuditConfig) (w : Watched σ) : Prop where
  line : w.line.Sound c
  counted : w.offers.length = w.line.queue.enqueued + w.line.queue.dropped
  kept : w.line.passed = w.accepted
  dropped : ∀ o ∈ w.offers, o.outcome = .dropped → o.waiting = c.capacity
  refused : ∀ o ∈ w.offers, o.outcome = .closed ↔ AuditLine.IsClosing o.phase

theorem sound_ofConfig (hpositive : 0 < c.batchSize) (store : σ) (a : Ambient) :
    (ofConfig c store a).Sound c := by
  refine ⟨⟨rfl, rfl, Nat.zero_le _, hpositive, ?_, ?_⟩, rfl, rfl, ?_, ?_⟩
  · simp [ofConfig, AuditLine.ofConfig]
  · simp [ofConfig, AuditLine.ofConfig, AuditQueue.ofCapacity, AuditLine.IsClosing]
  · simp [ofConfig]
  · simp [ofConfig]

theorem sound_offer (hsound : w.Sound c) (e : AuditEntry) : (w.offer e).Sound c := by
  obtain ⟨hline, hcounted, hkept, hdropped, hrefused⟩ := hsound
  refine ⟨hline.offer e, ?_, ?_, ?_, ?_⟩
  · rw [offer_line, offer_offers, List.length_append, hcounted, w.line.queue.offer_counts]
    rfl
  · rw [accepted, offer_line, offer_offers, List.filter_append, List.map_append]
    change _ = w.accepted ++ _
    rw [← hkept]
    by_cases houtcome : w.line.queue.outcome = .enqueued
    · simp [AuditLine.passed, w.line.queue.offer_of_enqueued e houtcome, answerTo_eq, houtcome]
    · simp [AuditLine.passed, w.line.queue.offer_of_ne e houtcome, answerTo_eq, houtcome]
  · rw [forall_mem_offer]
    refine ⟨hdropped, fun hfull => ?_⟩
    have hle := w.line.queue.capacity_le_of_dropped hfull
    rw [hline.capacity] at hle
    exact Nat.le_antisymm hline.room hle
  · rw [forall_mem_offer, answerTo_eq, ← hline.closed]
    exact ⟨hrefused, w.line.queue.outcome_eq_closed_iff⟩

theorem sound_act (write : BatchAction σ) (hpositive : 0 < c.batchSize) (hsound : w.Sound c)
    {action : LineAction} (hoffer : ∀ e, action ≠ .offer e) : (w.act write action).Sound c := by
  have hmoves := w.moves_act write action
  obtain ⟨hpassed, henqueued, hcount⟩ := hmoves.passed hoffer
  refine ⟨hmoves.sound hpositive hsound.line, ?_, hpassed.trans hsound.kept, hsound.dropped,
    hsound.refused⟩
  rw [henqueued, hcount]
  exact hsound.counted

theorem sound_step (hpositive : 0 < c.batchSize) (hsound : w.Sound c) (event : LineEvent σ) :
    (w.step write event).Sound c := by
  rcases w.step_cases write event with ⟨e, hstep⟩ | ⟨action, handles, hother, _, hstep⟩ |
    ⟨handles, store, hstep⟩
  · rw [hstep]
    exact sound_offer hsound e
  · rw [hstep]
    obtain ⟨hline, hcounted, hkept, hdropped, hrefused⟩ := sound_act write hpositive hsound
      hother
    exact ⟨hline, hcounted, hkept, hdropped, hrefused⟩
  · rw [hstep]
    obtain ⟨⟨hcapacity, hsize, hroom, hshort, hbatches, hclosed⟩, hcounted, hkept, hdropped,
      hrefused⟩ := hsound
    exact ⟨⟨hcapacity, hsize, hroom, hshort, hbatches, hclosed⟩, hcounted, hkept, hdropped,
      hrefused⟩

theorem isEmpty_step (hsound : w.Sound c) {event : LineEvent σ}
    (hworked : event ≠ .act .discardWorker)
    (hempty : w.line.phase = .stopped → w.line.IsEmpty) :
    (w.step write event).line.phase = .stopped → (w.step write event).line.IsEmpty := by
  rcases w.step_cases write event with ⟨e, hstep⟩ | ⟨action, handles, _, hdiscard, hstep⟩ |
    ⟨handles, store, hstep⟩
  · rw [hstep]
    exact hsound.line.isEmpty_offer e hempty
  · rw [hstep]
    exact (w.moves_act write action).isEmpty hsound.line (fun h => hworked (hdiscard h)) hempty
  · rw [hstep]
    exact hempty

theorem sound_run (hpositive : 0 < c.batchSize) (events : List (LineEvent σ))
    (hsound : w.Sound c) : (w.run write events).Sound c := by
  induction events generalizing w with
  | nil => exact hsound
  | cons event rest ih => exact ih (sound_step hpositive hsound event)

theorem isEmpty_run (hpositive : 0 < c.batchSize) {events : List (LineEvent σ)}
    (hsound : w.Sound c) (hworked : .act .discardWorker ∉ events)
    (hempty : w.line.phase = .stopped → w.line.IsEmpty) :
    (w.run write events).line.phase = .stopped → (w.run write events).line.IsEmpty := by
  induction events generalizing w with
  | nil => exact hempty
  | cons event rest ih =>
    rw [List.mem_cons, not_or] at hworked
    exact ih (sound_step hpositive hsound event) hworked.2
      (isEmpty_step hsound (Ne.symm hworked.1) hempty)

/-- Through every course of events, the batches that were written hold the accepted entries in their
order, and all of them once a worker that was started has stopped. -/
theorem entries_conserved {capacity batchSize : Nat} {interval : Duration}
    (hmake : AuditConfig.make capacity batchSize interval = .ok c) (b : Option (AuditBackend σ τ))
    (store : σ) (a : Ambient) (events : List (LineEvent σ)) :
    let w := (ofConfig c store a).run (BatchWriter.write b) events
    w.offers.length = w.line.queue.enqueued + w.line.queue.dropped ∧
    (∀ o ∈ w.offers, o.outcome = .dropped → o.waiting = capacity) ∧
    (∀ o ∈ w.offers, o.outcome = .closed → AuditLine.IsClosing o.phase) ∧
    w.line.store.batches.flatten <+: w.accepted ∧
    (w.line.phase = .stopped → .act .discardWorker ∉ events →
      w.line.store.batches.flatten = w.accepted) ∧
    ∀ batch ∈ w.line.store.batches, batch.length ≤ batchSize := by
  intro w
  obtain ⟨rfl, hpositive⟩ := AuditConfig.of_make hmake
  have hsound : w.Sound ⟨capacity, batchSize, interval⟩ :=
    sound_run hpositive events (sound_ofConfig hpositive store a)
  have hkept : w.line.store.batches.flatten ++ (w.line.writer.pending ++ w.line.queue.waiting) =
      w.accepted := by
    rw [← List.append_assoc]
    exact hsound.kept
  refine ⟨hsound.counted, hsound.dropped, fun o ho => (hsound.refused o ho).1, ⟨_, hkept⟩, ?_,
    hsound.line.batches⟩
  intro hstopped hworked
  obtain ⟨hpending, hwaiting⟩ :=
    isEmpty_run hpositive (sound_ofConfig hpositive store a) hworked (by simp [ofConfig,
      AuditLine.ofConfig]) hstopped
  rw [hpending, hwaiting, List.append_nil, List.append_nil] at hkept
  exact hkept

/-! ### A queue that is closed under way -/

def blankEntry : AuditEntry :=
  (AuditRecord.bare ⟨"r1"⟩ ⟨"acme"⟩ .allowed ⟨0, 0⟩).toEntry ⟨"a1"⟩

/-- Three entries are offered: the second while there is no room, the third while the worker drains
the queue. -/
def closingEvents : List (LineEvent Unit) :=
  [.act (.offer blankEntry), .clone, .act (.offer blankEntry), .act (.start ⟨0⟩), .act .askToStop,
    .act .notice, .release, .act (.offer blankEntry), .act .drain, .act .finish]

theorem closingEvents_conserved :
    AuditConfig.make 1 2 ⟨1⟩ = .ok ⟨1, 2, ⟨1⟩⟩ ∧
    ∃ w : Watched Unit, w = (ofConfig ⟨1, 2, ⟨1⟩⟩ () .initial).run
        (BatchWriter.write (none : Option (AuditBackend Unit Unit))) closingEvents ∧
      w.offers.map (·.outcome) = [.enqueued, .dropped, .closed] ∧
      w.line.store.batches.flatten = w.accepted := by
  have hmake : AuditConfig.make 1 2 ⟨1⟩ = .ok ⟨1, 2, ⟨1⟩⟩ := rfl
  refine ⟨hmake, _, rfl, rfl, ?_⟩
  obtain ⟨_, _, _, _, hstopped, _⟩ := entries_conserved hmake
    (none : Option (AuditBackend Unit Unit)) () .initial closingEvents
  exact hstopped rfl (by simp [closingEvents])

end Watched

end Governance
