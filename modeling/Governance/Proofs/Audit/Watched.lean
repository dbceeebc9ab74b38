import Governance.Audit.Queue
import Governance.Proofs.Program.Acting

/-!
# Watching the audit queue

What can happen to the audit queue and its worker, and a queue that remembers what did.
-/

namespace Governance

/-!
## What can happen to a queue and its worker

`Moves` lists what an action can make of a queue and its worker: all that it changes, and what must
have been the case before. Whoever wants to know what an action preserves goes through the list and
does not open the actions again. Events that are reported on the way are left out, and so is what a
batch action does with a batch.
-/

namespace BatchWriter

variable {σ : Type} (write : BatchAction σ) {w : BatchWriter}

theorem run_flush {s s' : σ} {a a' : Ambient} {outcome : Except AuditError WriteReport}
    (hwrite : (write w.pending).run s a = ((outcome, s'), a')) :
    (flush write w).run s a = (((outcome, { w with pending := [] }), s'), a') := by
  rw [flush, Acting.run_bind hwrite]
  rfl

theorem run_add_of_lt (e : AuditEntry) (s : σ) (a : Ambient)
    (hroom : w.pending.length + 1 < w.size) :
    (add write e w).run s a = (({ w with pending := w.pending ++ [e] }, s), a) := by
  rw [add]
  simp only [List.length_append, List.length_singleton, hroom, if_true]
  rfl

theorem run_add_of_le (e : AuditEntry) (s : σ) (a : Ambient)
    (hfull : w.size ≤ w.pending.length + 1) :
    ∃ a', (add write e w).run s a =
      (({ w with pending := [] }, ((write (w.pending ++ [e])).run s a).1.2), a') := by
  have hroom : ¬ (w.pending ++ [e]).length < w.size := by
    simpa using hfull
  simp only [add, if_neg hroom]
  rcases hwrite : (write (w.pending ++ [e])).run s a with ⟨⟨outcome, s'⟩, a'⟩
  have hflush : (flush write ⟨w.size, w.pending ++ [e]⟩).run s a =
      (((outcome, ⟨w.size, []⟩), s'), a') :=
    run_flush write hwrite
  rw [Acting.run_bind hflush]
  cases outcome with
  | ok report => exact ⟨a', rfl⟩
  | error e => exact ⟨_, rfl⟩

end BatchWriter

namespace AuditLine

variable {σ : Type} {write : BatchAction σ} {line : AuditLine σ}

theorem run_onStore {α : Type} {act : Acting σ α} {a a' : Ambient} {value : α} {store : σ}
    (hact : act.run line.store a = ((value, store), a')) :
    (onStore act).run line a = ((value, { line with store := store }), a') := by
  change (((act.run line.store a).1.1, { line with store := (act.run line.store a).1.2 }),
    (act.run line.store a).2) = _
  rw [hact]

/-- What an action can make of a queue and its worker. -/
inductive Moves (write : BatchAction σ) (line : AuditLine σ) : LineAction → AuditLine σ → Prop where
  | idle (action : LineAction) : Moves write line action line
  | offered {e : AuditEntry} (hheld : line.held = true) :
      Moves write line (.offer e) { line with queue := line.queue.offer e }
  | started {now : Duration} (due : Duration) (hphase : line.phase = .unstarted) :
      Moves write line (.start now) { line with phase := .running, due := due }
  | collected {action : LineAction} (hphase : line.phase = .running ∨ line.phase = .draining)
      {e : AuditEntry} {rest : List AuditEntry} (hwaiting : line.queue.waiting = e :: rest)
      (hroom : line.writer.pending.length + 1 < line.writer.size) :
      Moves write line action { line with
        queue := { line.queue with waiting := rest }
        writer := { line.writer with pending := line.writer.pending ++ [e] } }
  | filled {action : LineAction} (hphase : line.phase = .running ∨ line.phase = .draining)
      {e : AuditEntry} {rest : List AuditEntry} (hwaiting : line.queue.waiting = e :: rest)
      (hfull : line.writer.size ≤ line.writer.pending.length + 1) (a : Ambient) :
      Moves write line action { line with
        queue := { line.queue with waiting := rest }
        writer := { line.writer with pending := [] }
        store := ((write (line.writer.pending ++ [e])).run line.store a).1.2 }
  | flushed {now : Duration} (due : Duration) (hphase : line.phase = .running) (a : Ambient) :
      Moves write line (.tick now) { line with
        due := due
        writer := { line.writer with pending := [] }
        store := ((write line.writer.pending).run line.store a).1.2 }
  | asked : Moves write line .askToStop { line with askedToStop := true }
  | noticed (hphase : line.phase = .running) (hasked : line.askedToStop = true) :
      Moves write line .notice { line with
        askedToStop := false, phase := .draining, queue := { line.queue with closed := true } }
  | stopped {action : LineAction}
      (hphase : line.phase = .draining ∨ line.phase = .running ∧ line.held = false)
      (hempty : line.queue.waiting = []) (a : Ambient) :
      Moves write line action { line with
        phase := .stopped
        queue := { line.queue with closed := true }
        writer := { line.writer with pending := [] }
        store := ((write line.writer.pending).run line.store a).1.2 }
  | released : Moves write line .dropHandles { line with held := false }
  | discarded (hphase : line.phase = .unstarted) :
      Moves write line .discardWorker { line with
        phase := .stopped, queue := { line.queue with closed := true } }

theorem run_flush (write : BatchAction σ) (trigger : String) (line : AuditLine σ) (a : Ambient) :
    ∃ a', (flush write trigger).run line a =
      (((), { line with
        writer := { line.writer with pending := [] }
        store := ((write line.writer.pending).run line.store a).1.2 }), a') := by
  rcases hwrite : (write line.writer.pending).run line.store a with ⟨⟨outcome, store⟩, a'⟩
  rw [flush, Acting.run_bind (Acting.run_get line a),
    Acting.run_bind (run_onStore (BatchWriter.run_flush write hwrite))]
  cases outcome with
  | ok report => exact ⟨a', rfl⟩
  | error e => exact ⟨_, rfl⟩

theorem run_collect (line : AuditLine σ) {e : AuditEntry} {a a' : Ambient} {writer : BatchWriter}
    {store : σ}
    (hadd : (BatchWriter.add write e line.writer).run line.store a = ((writer, store), a')) :
    (collect write e).run line a = (((), { line with writer := writer, store := store }), a') := by
  rw [collect, Acting.run_bind (Acting.run_get line a), Acting.run_bind (run_onStore hadd)]
  rfl

theorem moves_takeFirst {action : LineAction} (a : Ambient)
    (hphase : line.phase = .running ∨ line.phase = .draining) :
    Moves write line action ((takeFirst write).run line a).1.2 := by
  rw [takeFirst, Acting.run_bind (Acting.run_get line a)]
  split
  · exact .idle action
  · rename_i e rest hwaiting
    let taken : AuditLine σ := { line with queue := { line.queue with waiting := rest } }
    rw [Acting.run_bind (Acting.run_set line taken a)]
    by_cases hroom : line.writer.pending.length + 1 < line.writer.size
    · rw [run_collect taken (BatchWriter.run_add_of_lt write e line.store a hroom)]
      exact .collected hphase hwaiting hroom
    · have hfull : line.writer.size ≤ line.writer.pending.length + 1 := by omega
      obtain ⟨a', hadd⟩ := BatchWriter.run_add_of_le write e line.store a hfull
      rw [run_collect taken hadd]
      exact .filled hphase hwaiting hfull a

theorem moves_stop {action : LineAction} (a : Ambient)
    (hphase : line.phase = .draining ∨ line.phase = .running ∧ line.held = false)
    (hempty : line.queue.waiting = []) :
    Moves write line action ((stop write).run line a).1.2 := by
  obtain ⟨a', hflush⟩ := run_flush write "final" line a
  rw [stop, Acting.run_bind hflush]
  exact .stopped hphase hempty a

theorem moves_act (write : BatchAction σ) (action : LineAction) (line : AuditLine σ) (a : Ambient) :
    Moves write line action ((act write action).run line a).1.2 := by
  rw [act, Acting.run_bind (Acting.run_get line a)]
  split
  · rename_i e _
    split
    · rename_i hheld
      exact .offered hheld
    · exact .idle _
  · rename_i now hphase
    exact .started _ hphase
  · rename_i hphase
    exact moves_takeFirst a (.inl hphase)
  · rename_i now hphase
    split
    · rename_i hdue
      let waited : AuditLine σ := { line with due := nextDue line.due now line.interval }
      obtain ⟨a', hflush⟩ := run_flush write "periodic" waited a
      rw [Acting.run_bind (Acting.run_set line waited a), hflush]
      exact .flushed _ hphase a
    · exact .idle _
  · exact .asked
  · rename_i hphase
    split
    · rename_i hasked
      exact .noticed hphase hasked
    · exact .idle _
  · rename_i hphase
    exact moves_takeFirst a (.inr hphase)
  · rename_i hphase
    split
    · rename_i hempty
      exact moves_stop a (.inl hphase) (List.isEmpty_iff.1 hempty)
    · exact .idle _
  · exact .released
  · rename_i hphase
    split
    · rename_i hdry
      rw [Bool.and_eq_true, Bool.not_eq_true', List.isEmpty_iff] at hdry
      exact moves_stop a (.inr ⟨hphase, hdry.2⟩) hdry.1
    · exact .idle _
  · rename_i hphase
    exact .discarded hphase
  · exact .idle _

/-- The queue is let go of only when its handles are dropped. -/
theorem Moves.held {line' : AuditLine σ} {action : LineAction}
    (hmoves : Moves write line action line') (hother : action ≠ .dropHandles) :
    line'.held = line.held := by
  cases hmoves with
  | released => exact absurd rfl hother
  | _ => rfl

end AuditLine

/-!
## A queue that is watched

To say what happened to the entries, one has to see them. A watched queue remembers every entry that
was offered to it, with the answer and the state in which it was given, and every batch that its
worker has written. It also counts the handles through which entries are offered. Apart from that it
is the queue: `erases_act` says that watching changes nothing.
-/

/-- A place where entries end up, and the batches that were written there so far. -/
structure Logged (σ : Type) where
  store : σ
  batches : List (List AuditEntry)

/-- Does the same with a batch, and remembers it. -/
def BatchAction.logged {σ : Type} (write : BatchAction σ) : BatchAction (Logged σ) :=
    fun batch => do
  let s ← get
  let (outcome, store) ← (write batch).run s.store
  set (Logged.mk store (s.batches ++ [batch]))
  return outcome

namespace BatchAction

variable {σ : Type} (write : BatchAction σ) (batch : List AuditEntry) (s : Logged σ) (a : Ambient)

@[simp] theorem logged_batches :
    ((write.logged batch).run s a).1.2.batches = s.batches ++ [batch] := rfl

@[simp] theorem logged_store :
    ((write.logged batch).run s a).1.2.store = ((write batch).run s.store a).1.2 := rfl

theorem erases_logged :
    Acting.Erases Logged.store (write.logged batch) (write batch) := fun _ _ => rfl

end BatchAction

/-- An entry that was offered: the answer, how many entries waited then, and what the worker was
doing. -/
structure Offer where
  entry : AuditEntry
  outcome : OfferOutcome
  waiting : Nat
  phase : WorkerPhase

/-- A queue that is watched. -/
structure Watched (σ : Type) where
  line : AuditLine (Logged σ)
  handles : Nat
  ambient : Ambient
  offers : List Offer

/-- What can happen to a watched queue: an action, another handle, one handle less, and anything at
all to the place where the entries end up. -/
inductive LineEvent (σ : Type) where
  | act (action : LineAction)
  | clone
  | release
  | interfere (change : σ → σ)

namespace Watched

variable {σ : Type}

def ofConfig (c : AuditConfig) (store : σ) (a : Ambient) : Watched σ :=
  ⟨.ofConfig c ⟨store, []⟩, 1, a, []⟩

def accepted (w : Watched σ) : List AuditEntry :=
  (w.offers.filter (·.outcome = .enqueued)).map (·.entry)

/-- What comes of an entry that is offered now. -/
def answerTo (e : AuditEntry) (w : Watched σ) : Offer :=
  ⟨e, ((AuditLine.offer e).run w.line w.ambient).1.1, w.line.queue.waiting.length, w.line.phase⟩

/-- Offers an entry and remembers the answer. -/
def offer (e : AuditEntry) (w : Watched σ) : Watched σ :=
  let ((_, line), a) := (AuditLine.offer e).run w.line w.ambient
  { w with line := line, ambient := a, offers := w.offers ++ [w.answerTo e] }

theorem answerTo_eq (e : AuditEntry) (w : Watched σ) :
    w.answerTo e = ⟨e, w.line.queue.outcome, w.line.queue.waiting.length, w.line.phase⟩ := rfl

theorem offer_line (e : AuditEntry) (w : Watched σ) :
    (w.offer e).line = { w.line with queue := w.line.queue.offer e } := rfl

theorem offer_offers (e : AuditEntry) (w : Watched σ) :
    (w.offer e).offers = w.offers ++ [w.answerTo e] := rfl

theorem forall_mem_offer {P : Offer → Prop} (e : AuditEntry) (w : Watched σ) :
    (∀ o ∈ (w.offer e).offers, P o) ↔ (∀ o ∈ w.offers, P o) ∧ P (w.answerTo e) := by
  rw [offer_offers, List.forall_mem_append, List.forall_mem_singleton]

/-- Lets an action of the queue happen that is no offer. -/
def act (write : BatchAction σ) (action : LineAction) (w : Watched σ) : Watched σ :=
  let ((_, line), a) := (AuditLine.act write.logged action).run w.line w.ambient
  { w with line := line, ambient := a }

theorem moves_act (write : BatchAction σ) (action : LineAction) (w : Watched σ) :
    AuditLine.Moves write.logged w.line action (w.act write action).line :=
  AuditLine.moves_act write.logged action w.line w.ambient

/-- The handles that are left by an action. -/
def handlesAfter (handles : Nat) : LineAction → Nat
  | .dropHandles => 0
  | _ => handles

/-- Lets an event happen. Entries are only offered while there is a handle. -/
def step (write : BatchAction σ) (w : Watched σ) : LineEvent σ → Watched σ
  | .act (.offer e) => if w.line.held then w.offer e else w
  | .act action => { w.act write action with handles := handlesAfter w.handles action }
  | .clone => if 0 < w.handles then { w with handles := w.handles + 1 } else w
  | .release =>
    if w.handles ≤ 1 then { w.act write .dropHandles with handles := 0 }
    else { w with handles := w.handles - 1 }
  | .interfere change =>
    { w with line.store.store := change w.line.store.store }

/-- An event is an offer, another action, or nothing that has to do with entries. -/
theorem step_cases (write : BatchAction σ) (w : Watched σ) (event : LineEvent σ) :
    (∃ e, w.step write event = w.offer e) ∨
    (∃ action handles, (∀ e, action ≠ .offer e) ∧
      (action = .discardWorker → event = .act .discardWorker) ∧
      w.step write event = { w.act write action with handles := handles }) ∨
    ∃ handles store, w.step write event =
      { w with handles := handles, line.store.store := store } := by
  have hsame : ∃ handles store, w = { w with handles := handles, line.store.store := store } :=
    ⟨w.handles, w.line.store.store, rfl⟩
  cases event with
  | act action =>
    by_cases hoffer : ∃ e, action = .offer e
    · obtain ⟨e, rfl⟩ := hoffer
      rw [step]
      split
      · exact .inl ⟨e, rfl⟩
      · exact .inr (.inr hsame)
    · have hother : ∀ e, action ≠ .offer e := fun e he => hoffer ⟨e, he⟩
      refine .inr (.inl ⟨action, handlesAfter w.handles action, hother, ?_, ?_⟩)
      · rintro rfl
        rfl
      · rw [step]
        exact hother
  | clone =>
    rw [step]
    split
    · exact .inr (.inr ⟨w.handles + 1, w.line.store.store, rfl⟩)
    · exact .inr (.inr hsame)
  | release =>
    rw [step]
    split
    · exact .inr (.inl ⟨.dropHandles, 0, by simp, by simp, rfl⟩)
    · exact .inr (.inr ⟨w.handles - 1, w.line.store.store, rfl⟩)
  | interfere change => exact .inr (.inr ⟨w.handles, change w.line.store.store, rfl⟩)

def run (write : BatchAction σ) (w : Watched σ) (events : List (LineEvent σ)) : Watched σ :=
  events.foldl (step write) w

theorem handlesAfter_of_ne {handles : Nat} {action : LineAction} (hother : action ≠ .dropHandles) :
    handlesAfter handles action = handles := by
  cases action with
  | dropHandles => exact absurd rfl hother
  | _ => rfl

theorem held_step (write : BatchAction σ) {w : Watched σ}
    (hheld : w.line.held = true ↔ 0 < w.handles) (event : LineEvent σ) :
    (w.step write event).line.held = true ↔ 0 < (w.step write event).handles := by
  cases event with
  | act action =>
    by_cases hoffer : ∃ e, action = .offer e
    · obtain ⟨e, rfl⟩ := hoffer
      rw [step]
      split
      · exact hheld
      · exact hheld
    · rw [step]
      · by_cases hdrop : action = .dropHandles
        · subst hdrop
          exact iff_of_false Bool.false_ne_true (Nat.lt_irrefl 0)
        · simp only [(w.moves_act write action).held hdrop, handlesAfter_of_ne hdrop]
          exact hheld
      · exact fun e he => hoffer ⟨e, he⟩
  | clone =>
    rw [step]
    split
    · rename_i hsome
      exact iff_of_true (hheld.2 hsome) (Nat.succ_pos w.handles)
    · exact hheld
  | release =>
    rw [step]
    split
    · exact iff_of_false Bool.false_ne_true (Nat.lt_irrefl 0)
    · rename_i hmore
      simp only
      rw [hheld]
      omega
  | interfere change => exact hheld

theorem held_run (write : BatchAction σ) (c : AuditConfig) (store : σ) (a : Ambient)
    (events : List (LineEvent σ)) :
    ((ofConfig c store a).run write events).line.held = true ↔
      0 < ((ofConfig c store a).run write events).handles := by
  suffices hgeneral : ∀ w : Watched σ, (w.line.held = true ↔ 0 < w.handles) →
      ((w.run write events).line.held = true ↔ 0 < (w.run write events).handles) from
    hgeneral _ (iff_of_true rfl Nat.one_pos)
  induction events with
  | nil => exact fun w hw => hw
  | cons event rest ih => exact fun w hw => ih _ (held_step write hw event)

end Watched

/-! ### Watching changes nothing -/

section Erasure

open Acting

variable {σ : Type} (write : BatchAction σ)

section

variable {τ : Type} {f : σ → τ} {write : BatchAction σ} {write' : BatchAction τ}

theorem BatchWriter.erases_flush (hwrite : ∀ batch, Erases f (write batch) (write' batch))
    (w : BatchWriter) : Erases f (flush write w) (flush write' w) :=
  (hwrite w.pending).bind fun _ => .pure _

theorem BatchWriter.erases_add (hwrite : ∀ batch, Erases f (write batch) (write' batch))
    (e : AuditEntry) (w : BatchWriter) : Erases f (add write e w) (add write' e w) := by
  by_cases hroom : (w.pending ++ [e]).length < w.size
  · simp only [add, if_pos hroom]
    exact .pure _
  · simp only [add, if_neg hroom]
    refine (erases_flush hwrite _).bind ?_
    rintro ⟨outcome, w⟩
    cases outcome with
    | ok report => exact .pure w
    | error e => exact (Erases.lift _).bind fun _ => .pure w

end

namespace AuditLine

/-- The same queue, not watched. -/
def erase (line : AuditLine (Logged σ)) : AuditLine σ := { line with store := line.store.store }

theorem erases_onStore {α : Type} {x : Acting (Logged σ) α} {y : Acting σ α}
    (hx : Erases Logged.store x y) : Erases erase (onStore x) (onStore y) := by
  intro line a
  change (((y.run line.store.store a).1.1,
    { line.erase with store := (y.run line.store.store a).1.2 }), (y.run line.store.store a).2) = _
  rw [hx]
  rfl

theorem erases_takeFirst : Erases erase (takeFirst write.logged) (takeFirst write) := by
  refine .get_bind fun line => ?_
  cases hwaiting : line.queue.waiting with
  | nil => simpa only [erase, hwaiting] using .pure PUnit.unit
  | cons e rest =>
    simp only [erase, hwaiting]
    refine (Erases.set rfl).bind fun _ => .get_bind fun line => ?_
    exact (erases_onStore (line.writer.erases_add write.erases_logged e)).bind fun _ => .modify fun _ => rfl

theorem erases_flush (trigger : String) :
    Erases erase (flush write.logged trigger) (flush write trigger) := by
  refine .get_bind fun line => (erases_onStore (line.writer.erases_flush write.erases_logged)).bind ?_
  rintro ⟨outcome, writer⟩
  refine Erases.bind (.modify ?_) fun _ => ?_
  · exact fun _ => rfl
  · cases outcome with
    | ok report => exact .pure _
    | error e => exact .lift _

theorem erases_stop : Erases erase (stop write.logged) (stop write) := by
  refine (erases_flush write "final").bind fun _ => Erases.bind (.modify ?_) fun _ => .lift _
  exact fun _ => rfl

theorem erases_offer (e : AuditEntry) :
    Erases erase (offer e : Acting (AuditLine (Logged σ)) OfferOutcome) (offer e) :=
  .get_bind fun _ => (Erases.lift _).bind fun _ => (Erases.set rfl).bind fun _ => .pure _

theorem erases_ite {x : Acting (AuditLine (Logged σ)) Unit} {y : Acting (AuditLine σ) Unit}
    {c : Prop} [Decidable c] (hx : Erases erase x y) :
    Erases erase (if c then x else pure ()) (if c then y else pure ()) := by
  split
  · exact hx
  · exact .pure ()

/-- A watched queue does what the queue does, and reports the same events. -/
theorem erases_act (action : LineAction) :
    Erases erase (act write.logged action) (act write action) := by
  refine .get_bind fun line => ?_
  rcases line with ⟨queue, writer, phase, asked, held, interval, due, store⟩
  simp only [erase]
  split
  · exact erases_ite ((erases_offer _).bind fun _ => .pure ())
  · exact (Erases.set rfl).bind fun _ => .lift _
  · exact erases_takeFirst write
  · exact erases_ite ((Erases.set rfl).bind fun _ => erases_flush write "periodic")
  · exact .set rfl
  · exact erases_ite (.set rfl)
  · exact erases_takeFirst write
  · exact erases_ite (erases_stop write)
  · exact .set rfl
  · exact erases_ite (erases_stop write)
  · exact .set rfl
  · exact .pure ()

end AuditLine

/-- Watched or not, a queue comes to the same through any course of actions. -/
theorem Watched.run_actions (w : Watched σ) (actions : List LineAction) :
    (AuditLine.actAll write actions).run w.line.erase w.ambient =
      (((), (w.run write (actions.map .act)).line.erase),
        (w.run write (actions.map .act)).ambient) := by
  induction actions generalizing w with
  | nil => rfl
  | cons action rest ih =>
    have hstep : (AuditLine.act write action).run w.line.erase w.ambient =
        (((), (w.step write (.act action)).line.erase), (w.step write (.act action)).ambient) := by
      rw [AuditLine.erases_act write action w.line w.ambient]
      cases action with
      | offer e =>
        rw [AuditLine.act, Acting.run_bind (Acting.run_get _ w.ambient)]
        by_cases hheld : w.line.held = true
        · simp only [step, hheld, if_true]
          rfl
        · simp only [step, hheld]
          rfl
      | _ => rfl
    rw [AuditLine.actAll, Acting.run_bind hstep]
    exact ih (w.step write (.act action))

end Erasure

end Governance
