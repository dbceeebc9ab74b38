import Mathlib.Data.List.Induction
import Mathlib.Data.List.Nodup
import Mathlib.Data.List.Perm.Subperm
import Governance.Proofs.Pipeline.Scheduler

/-!
# A scheduler whose callers take turns

A call to spawn a task looks at the flag that says that the scheduler is closed and puts its task into
the queue later on; closing sets the flag and closes the queue later on; and a permit is handed to the
task that is to have it before the task takes it up. Each of these is a turn of its own, and turns come
in any order. A task that ends gives its permit back in the same turn, since nothing is waited for in
between. What the queue of permits does by itself are actions of the scheduler.
-/

namespace Governance

/-- What has become of a call to spawn a task: it was let through, it was refused, its task was put into
the queue, or its task found the queue closed. -/
inductive SpawnCall where
  | cleared
  | turnedAway
  | accepted (task : Nat)
  | late
  deriving DecidableEq

/-- A scheduler, its flag, the calls to spawn a task in the order in which they came, and the tasks that
a permit was handed to but that have not taken it up. -/
structure LiveScheduler where
  scheduler : Scheduler
  announced : Bool
  calls : List SpawnCall
  handed : List Nat

/-- What can happen next: a call to spawn a task comes in, or puts its task into the queue; a permit is
handed to a task, or the task takes it up; a task ends with a result or without one; closing begins, or
closes the queue. -/
inductive SchedulerTurn where
  | ask
  | enqueue (call : Nat)
  | hand (task : Nat)
  | take (task : Nat)
  | complete (task : Nat)
  | abort (task : Nat)
  | announce
  | shut
  deriving DecidableEq

def SpawnCall.task? : SpawnCall → Option Nat
  | .accepted task => some task
  | _ => none

/-- What a turn does to the queue of permits, if it does anything. -/
def SchedulerTurn.action? : SchedulerTurn → Option SchedulerAction
  | .enqueue _ => some .spawn
  | .take task => some (.grant task)
  | .complete task => some (.complete task)
  | .abort task => some (.abort task)
  | .shut => some .close
  | _ => none

/-- What a task that runs is after a turn that ends it. -/
def SchedulerTurn.ends? (i : Nat) : SchedulerTurn → Option TaskPhase
  | .complete task => if task = i then some .finished else none
  | .abort task => if task = i then some .aborted else none
  | _ => none

/-- What a task that runs is after some turns: the first one that ends it decides. -/
def ending (i : Nat) (turns : List SchedulerTurn) : TaskPhase :=
  (turns.findSome? (·.ends? i)).getD .running

/-- Whether a task has come to an end. -/
def TaskPhase.isOver : TaskPhase → Bool
  | .waiting | .running => false
  | .finished | .refused | .aborted => true

theorem SchedulerTurn.isOver_of_ends? {t : SchedulerTurn} {i : Nat} {phase : TaskPhase}
    (hends : t.ends? i = some phase) : phase.isOver = true := by
  cases t with
  | complete task | abort task =>
    rw [ends?] at hends
    split at hends <;> cases hends
    rfl
  | _ => cases hends

namespace LiveScheduler

def ofLimit (limit : Nat) : LiveScheduler := ⟨.ofLimit limit, false, [], []⟩

/-- The permits that are there for the next task. -/
def permits (s : LiveScheduler) : Nat := s.scheduler.available - s.handed.length

def act (s : LiveScheduler) (action : SchedulerAction) : LiveScheduler :=
  { s with scheduler := s.scheduler.act action }

/-- Whether a permit can be handed to a task. -/
def CanHand (s : LiveScheduler) (task : Nat) : Prop :=
  s.scheduler.tasks[task]? = some .waiting ∧ s.scheduler.closed = false ∧ task ∉ s.handed ∧
    s.handed.length < s.scheduler.available

instance (s : LiveScheduler) (task : Nat) : Decidable (s.CanHand task) :=
  inferInstanceAs (Decidable (_ ∧ _ ∧ _ ∧ _))

def enqueue (s : LiveScheduler) (call : Nat) : LiveScheduler :=
  if s.scheduler.closed then { s with calls := s.calls.set call .late }
  else { s.act .spawn with calls := s.calls.set call (.accepted s.scheduler.tasks.length) }

/-- Lets something happen. A task to which a permit was handed finds out that the queue was closed in the
meantime, and then gives the permit back. -/
def turn (s : LiveScheduler) : SchedulerTurn → LiveScheduler
  | .ask => { s with calls := s.calls ++ [if s.announced then .turnedAway else .cleared] }
  | .enqueue call => if s.calls[call]? = some .cleared then s.enqueue call else s
  | .hand task => if s.CanHand task then { s with handed := s.handed ++ [task] } else s
  | .take task =>
    if task ∈ s.handed then { s.act (.grant task) with handed := s.handed.erase task } else s
  | .complete task => s.act (.complete task)
  | .abort task => { s.act (.abort task) with handed := s.handed.erase task }
  | .announce => { s with announced := true }
  | .shut => if s.announced then s.act .close else s

def run (s : LiveScheduler) (turns : List SchedulerTurn) : LiveScheduler := turns.foldl turn s

variable {s : LiveScheduler} {t : SchedulerTurn} {i : Nat} {phase : TaskPhase}

theorem run_append (s : LiveScheduler) (early late : List SchedulerTurn) :
    s.run (early ++ late) = (s.run early).run late :=
  List.foldl_append

/-- What holds at first and after every turn holds throughout. -/
theorem run_induction {P : LiveScheduler → Prop} (hs : P s)
    (hturn : ∀ (s : LiveScheduler) (t : SchedulerTurn), P s → P (s.turn t))
    (turns : List SchedulerTurn) : P (s.run turns) := by
  induction turns generalizing s with
  | nil => exact hs
  | cons t rest ih => exact ih (hturn s t hs)

/-! ## What a turn does to the queue -/

theorem scheduler_turn (s : LiveScheduler) (t : SchedulerTurn) :
    (s.turn t).scheduler = s.scheduler ∨
      ∃ action, t.action? = some action ∧ (s.turn t).scheduler = s.scheduler.act action := by
  cases t with
  | ask | announce => exact .inl rfl
  | enqueue call =>
    simp only [turn, enqueue]
    split
    · split
      · exact .inl rfl
      · exact .inr ⟨.spawn, rfl, rfl⟩
    · exact .inl rfl
  | hand task =>
    rw [turn]
    split <;> exact .inl rfl
  | take task =>
    rw [turn]
    split
    · exact .inr ⟨.grant task, rfl, rfl⟩
    · exact .inl rfl
  | complete task => exact .inr ⟨.complete task, rfl, rfl⟩
  | abort task => exact .inr ⟨.abort task, rfl, rfl⟩
  | shut =>
    rw [turn]
    split
    · exact .inr ⟨.close, rfl, rfl⟩
    · exact .inl rfl

theorem announced_turn (t : SchedulerTurn) (hannounced : s.announced = true) :
    (s.turn t).announced = true := by
  cases t with
  | announce => rfl
  | ask | complete | abort => exact hannounced
  | enqueue call =>
    simp only [turn, enqueue]
    split
    · split <;> exact hannounced
    · exact hannounced
  | hand | take | shut =>
    rw [turn]
    split <;> exact hannounced

theorem keeps_turn {P : Scheduler → Prop} (hs : P s.scheduler)
    (hact : ∀ action, P (s.scheduler.act action)) (t : SchedulerTurn) : P (s.turn t).scheduler := by
  rcases scheduler_turn s t with hsame | ⟨action, _, hacted⟩
  · rwa [hsame]
  · rw [hacted]
    exact hact action

/-! ## What every scheduler keeps -/

/-- What turns keep, in whatever order they come. -/
structure Sound (limit : Nat) (s : LiveScheduler) : Prop where
  limited : s.scheduler.limit = limit
  scheduler : s.scheduler.Sound
  noticed : s.scheduler.closed = true → s.announced = true
  distinct : s.handed.Nodup
  room : s.handed.length ≤ s.scheduler.available
  handed : s.scheduler.closed = false →
    ∀ i ∈ s.handed, s.scheduler.tasks[i]? = some .waiting
  own : (s.calls.filterMap SpawnCall.task?).Perm (List.range s.scheduler.tasks.length)

variable {limit : Nat}

theorem sound_ofLimit (limit : Nat) : (ofLimit limit).Sound limit where
  limited := rfl
  scheduler := Scheduler.sound_ofLimit limit
  noticed := fun hclosed => by cases hclosed
  distinct := List.nodup_nil
  room := Nat.zero_le _
  handed := fun _ _ hmem => absurd hmem List.not_mem_nil
  own := .refl _

theorem Sound.room_turn (hs : s.Sound limit) (t : SchedulerTurn) :
    (s.turn t).handed.length ≤ (s.turn t).scheduler.available := by
  have hroom := hs.room
  cases t with
  | ask | announce => exact hroom
  | enqueue call =>
    simp only [turn, enqueue]
    split
    · split
      · exact hroom
      · exact Nat.le_trans hroom ((Scheduler.available_act s.scheduler .spawn).2 (by simp))
    · exact hroom
  | hand task =>
    rw [turn]
    split
    · rename_i hcan
      rw [List.length_append]
      exact hcan.2.2.2
    · exact hroom
  | take task =>
    rw [turn]
    split
    · rename_i hmem
      have hpermit := (Scheduler.available_act s.scheduler (.grant task)).1
      have hlength := List.length_erase_of_mem hmem
      have hpos := List.length_pos_of_mem hmem
      simp only [act]
      omega
    · exact hroom
  | complete task =>
    exact Nat.le_trans hroom ((Scheduler.available_act s.scheduler (.complete task)).2 (by simp))
  | abort task =>
    exact Nat.le_trans (Nat.le_trans List.length_erase_le hroom)
      ((Scheduler.available_act s.scheduler (.abort task)).2 (by simp))
  | shut =>
    rw [turn]
    split <;> exact hroom

/-- While the queue is open, a task that a permit was handed to goes on waiting until it takes it up. -/
theorem Sound.handed_turn (hs : s.Sound limit) (t : SchedulerTurn)
    (hopen : (s.turn t).scheduler.closed = false) (hmem : i ∈ (s.turn t).handed) :
    (s.turn t).scheduler.tasks[i]? = some .waiting := by
  have hwas : s.scheduler.closed = false := by
    rcases scheduler_turn s t with hsame | ⟨action, _, hacted⟩
    · rwa [hsame] at hopen
    · rw [hacted, Scheduler.closed_act, Bool.or_eq_false_iff] at hopen
      exact hopen.1
  have hwaiting := hs.handed hwas
  cases t with
  | ask | announce => exact hwaiting i hmem
  | enqueue call =>
    simp only [turn, enqueue, hwas] at hmem ⊢
    split at hmem
    · rename_i hcleared
      rw [if_pos hcleared]
      exact Scheduler.getElem?_act (hwaiting i hmem) .spawn
    · rename_i hcleared
      rw [if_neg hcleared]
      exact hwaiting i hmem
  | hand task =>
    rw [turn] at hmem ⊢
    split at hmem
    · rename_i hcan
      rw [if_pos hcan]
      rcases List.mem_append.1 hmem with hold | hnew
      · exact hwaiting i hold
      · rw [List.mem_singleton.1 hnew]
        exact hcan.1
    · rename_i hcan
      rw [if_neg hcan]
      exact hwaiting i hmem
  | take task =>
    rw [turn] at hmem ⊢
    split at hmem
    · rename_i hhanded
      obtain ⟨hother, hold⟩ := (hs.distinct.mem_erase_iff).1 hmem
      rw [if_pos hhanded]
      refine (Scheduler.getElem?_act (hwaiting i hold) (.grant task)).trans (congrArg some ?_)
      exact if_neg fun hthis => hother hthis.1.symm
    · rename_i hhanded
      rw [if_neg hhanded]
      exact hwaiting i hmem
  | complete task => exact Scheduler.getElem?_act (hwaiting i hmem) (.complete task)
  | abort task =>
    obtain ⟨hother, hold⟩ := (hs.distinct.mem_erase_iff).1 hmem
    refine (Scheduler.getElem?_act (hwaiting i hold) (.abort task)).trans (congrArg some ?_)
    exact if_neg fun hthis => hother hthis.symm
  | shut =>
    rw [turn] at hmem hopen ⊢
    split at hmem
    · rename_i hannounced
      rw [if_pos hannounced] at hopen
      cases hopen
    · rename_i hannounced
      rw [if_neg hannounced]
      exact hwaiting i hmem

/-- What comes of a call that was let through joins what came of the others. -/
theorem filterMap_set_perm {calls : List SpawnCall} {call : Nat}
    (hcleared : calls[call]? = some .cleared) (new : SpawnCall) :
    ((calls.set call new).filterMap SpawnCall.task?).Perm
      (calls.filterMap SpawnCall.task? ++ new.task?.toList) := by
  obtain ⟨hlt, hget⟩ := List.getElem?_eq_some_iff.1 hcleared
  have hparted : calls = calls.take call ++ .cleared :: calls.drop (call + 1) := by
    rw [← hget, ← List.drop_eq_getElem_cons hlt, List.take_append_drop]
  have hnew : [new].filterMap SpawnCall.task? = new.task?.toList := by
    cases new <;> rfl
  have hold : [SpawnCall.cleared].filterMap SpawnCall.task? = [] := rfl
  rw [List.set_eq_take_append_cons_drop, if_pos hlt, ← List.singleton_append]
  conv => rhs; rw [hparted, ← List.singleton_append]
  rw [List.filterMap_append, List.filterMap_append, List.filterMap_append, List.filterMap_append,
    hnew, hold, List.nil_append, List.append_assoc]
  exact List.perm_append_comm.append_left _

/-- Every task that was put into the queue came of a call of its own. -/
theorem Sound.own_turn (hs : s.Sound limit) (t : SchedulerTurn) :
    ((s.turn t).calls.filterMap SpawnCall.task?).Perm
      (List.range (s.turn t).scheduler.tasks.length) := by
  have hown := hs.own
  cases t with
  | announce => exact hown
  | ask =>
    have hnone : [if s.announced then SpawnCall.turnedAway else .cleared].filterMap
        SpawnCall.task? = [] := by
      split <;> rfl
    rwa [turn, List.filterMap_append, hnone, List.append_nil]
  | enqueue call =>
    simp only [turn, enqueue]
    split
    · rename_i hcleared
      split
      · exact (filterMap_set_perm hcleared .late).trans (by simpa [SpawnCall.task?] using hown)
      · rename_i hopen
        refine (filterMap_set_perm hcleared _).trans ?_
        rw [act, Scheduler.tasks_spawn (by simpa using hopen), List.length_append,
          List.length_singleton, List.range_succ]
        exact hown.append_right _
    · exact hown
  | hand task =>
    rw [turn]
    split <;> exact hown
  | take task =>
    rw [turn]
    split
    · rwa [act, Scheduler.length_act (by simp)]
    · exact hown
  | complete task | abort task => rwa [turn, act, Scheduler.length_act (by simp)]
  | shut =>
    rw [turn]
    split
    · rwa [act, Scheduler.length_act (by simp)]
    · exact hown

/-- The flag is set before the queue is closed. -/
theorem Sound.noticed_turn (hs : s.Sound limit) (t : SchedulerTurn)
    (hclosed : (s.turn t).scheduler.closed = true) : (s.turn t).announced = true := by
  by_cases hannounced : s.announced = true
  · exact announced_turn t hannounced
  · have hopen : s.scheduler.closed = false := by
      by_contra hwas
      exact hannounced (hs.noticed (by simpa using hwas))
    -- no other turn closes the queue, and this one looks at the flag
    cases t with
    | shut =>
      rw [turn, if_neg hannounced, hopen] at hclosed
      cases hclosed
    | announce => rfl
    | _ =>
      rcases scheduler_turn s _ with hsame | ⟨action, haction, hacted⟩
      · rw [hsame, hopen] at hclosed
        cases hclosed
      · rw [hacted, Scheduler.closed_act, hopen, Bool.false_or, decide_eq_true_eq] at hclosed
        rw [hclosed] at haction
        cases haction

theorem Sound.distinct_turn (hs : s.Sound limit) (t : SchedulerTurn) :
    (s.turn t).handed.Nodup := by
  have hdistinct := hs.distinct
  cases t with
  | ask | announce | complete => exact hdistinct
  | abort task => exact hdistinct.erase task
  | enqueue call =>
    simp only [LiveScheduler.turn, enqueue]
    split
    · split <;> exact hdistinct
    · exact hdistinct
  | hand task =>
    rw [LiveScheduler.turn]
    split
    · rename_i hcan
      exact List.nodup_append.2 ⟨hdistinct, List.nodup_singleton task, by
        rintro i hi j hj rfl
        exact hcan.2.2.1 (List.mem_singleton.1 hj ▸ hi)⟩
    · exact hdistinct
  | take task =>
    rw [LiveScheduler.turn]
    split
    · exact hdistinct.erase task
    · exact hdistinct
  | shut =>
    rw [LiveScheduler.turn]
    split <;> exact hdistinct

theorem Sound.turn (hs : s.Sound limit) (t : SchedulerTurn) : (s.turn t).Sound limit where
  limited := keeps_turn (P := fun queue => queue.limit = limit) hs.limited
    (fun action => (Scheduler.limit_act s.scheduler action).trans hs.limited) t
  scheduler := keeps_turn hs.scheduler hs.scheduler.act t
  noticed := hs.noticed_turn t
  distinct := hs.distinct_turn t
  room := hs.room_turn t
  handed := fun hopen _ hmem => hs.handed_turn t hopen hmem
  own := hs.own_turn t

theorem sound_run (limit : Nat) (turns : List SchedulerTurn) :
    ((ofLimit limit).run turns).Sound limit :=
  run_induction (sound_ofLimit limit) (fun _ t hs => hs.turn t) turns

/-! ## What becomes of a task -/

theorem over_turn (hi : s.scheduler.tasks[i]? = some phase) (hover : phase.isOver = true)
    (t : SchedulerTurn) :
    (s.turn t).scheduler.tasks[i]? = some phase ∧
      (s.turn t).scheduler.started.count i = s.scheduler.started.count i := by
  refine keeps_turn (P := fun queue => queue.tasks[i]? = some phase ∧
    queue.started.count i = s.scheduler.started.count i) ⟨hi, rfl⟩ ?_ t
  intro action
  refine ⟨?_, Scheduler.count_started_act ?_⟩
  · rw [Scheduler.getElem?_act hi]
    cases phase with
    | waiting | running => cases hover
    | _ => rfl
  · intro _ hcan
    obtain rfl := Option.some.inj (hi.symm.trans hcan.1)
    cases hover

theorem over_run (hi : s.scheduler.tasks[i]? = some phase) (hover : phase.isOver = true)
    (turns : List SchedulerTurn) :
    (s.run turns).scheduler.tasks[i]? = some phase ∧
      (s.run turns).scheduler.started.count i = s.scheduler.started.count i := by
  refine run_induction (P := fun later => later.scheduler.tasks[i]? = some phase ∧
    later.scheduler.started.count i = s.scheduler.started.count i) ⟨hi, rfl⟩ ?_ turns
  rintro later t ⟨hphase, hcount⟩
  obtain ⟨hphase', hcount'⟩ := over_turn hphase hover t
  exact ⟨hphase', hcount'.trans hcount⟩

theorem running_turn (hi : s.scheduler.tasks[i]? = some .running) (t : SchedulerTurn) :
    (s.turn t).scheduler.tasks[i]? = some ((t.ends? i).getD .running) := by
  cases t with
  | complete task =>
    refine (Scheduler.getElem?_act hi (.complete task)).trans (congrArg some ?_)
    rw [Scheduler.phaseAfter, SchedulerTurn.ends?]
    split <;> rfl
  | abort task =>
    refine (Scheduler.getElem?_act hi (.abort task)).trans (congrArg some ?_)
    rw [Scheduler.phaseAfter, SchedulerTurn.ends?]
    split <;> rfl
  | _ =>
    -- whatever else the turn does, it is no action that ends a task
    rcases scheduler_turn s _ with hsame | ⟨action, haction, hacted⟩
    · rw [hsame]
      exact hi
    · rw [hacted, Scheduler.getElem?_act hi]
      cases haction <;> rfl

theorem running_run (hi : s.scheduler.tasks[i]? = some .running) (turns : List SchedulerTurn) :
    (s.run turns).scheduler.tasks[i]? = some (ending i turns) := by
  induction turns generalizing s with
  | nil => exact hi
  | cons t rest ih =>
    have hnext := running_turn hi t
    rw [ending, List.findSome?_cons]
    cases hends : t.ends? i with
    | none =>
      rw [hends] at hnext
      exact ih hnext
    | some phase =>
      rw [hends] at hnext
      exact (over_run hnext (SchedulerTurn.isOver_of_ends? hends) rest).1

theorem aborted_turn (hi : (s.turn t).scheduler.tasks[i]? = some .aborted) :
    s.scheduler.tasks[i]? = some .aborted ∨ t = .abort i := by
  rcases scheduler_turn s t with hsame | ⟨action, haction, hacted⟩
  · rw [hsame] at hi
    exact .inl hi
  · rw [hacted] at hi
    refine (Scheduler.aborted_of_act hi).imp_right ?_
    rintro rfl
    cases t <;> cases haction
    rfl

theorem aborted_run {turns : List SchedulerTurn}
    (hi : ((ofLimit limit).run turns).scheduler.tasks[i]? = some .aborted) : .abort i ∈ turns := by
  induction turns using List.reverseRecOn with
  | nil => cases hi
  | append_singleton turns t ih =>
    rw [run_append] at hi
    rcases aborted_turn hi with hwas | rfl
    · exact List.mem_append_left _ (ih hwas)
    · exact List.mem_append_right _ (List.mem_singleton_self _)

theorem started_run (hclosed : s.scheduler.closed = true) (turns : List SchedulerTurn) :
    (s.run turns).scheduler.started = s.scheduler.started := by
  refine (run_induction (P := fun later => later.scheduler.closed = true ∧
    later.scheduler.started = s.scheduler.started) ⟨hclosed, rfl⟩ ?_ turns).2
  rintro later t ⟨hlater, hstarted⟩
  refine keeps_turn (P := fun queue => queue.closed = true ∧ queue.started = s.scheduler.started)
    ⟨hlater, hstarted⟩ ?_ t
  intro action
  exact ⟨by rw [Scheduler.closed_act, hlater, Bool.true_or],
    (Scheduler.started_of_closed hlater action).trans hstarted⟩

/-! ## What becomes of a call -/

/-- What has become of the task of a call; of a call that is still open nothing has. -/
def phase? (s : LiveScheduler) : SpawnCall → Option TaskPhase
  | .cleared => none
  | .turnedAway | .late => some .refused
  | .accepted task => s.scheduler.tasks[task]?

/-- How often the task of a call has begun. -/
def starts (s : LiveScheduler) : SpawnCall → Nat
  | .accepted task => s.scheduler.started.count task
  | _ => 0

theorem Sound.once (hs : s.Sound limit) (call : SpawnCall) :
    TaskPhase.AccountsFor (s.phase? call) (s.starts call) := by
  cases call with
  | accepted task => exact hs.scheduler.once task
  | _ => rfl

variable {c : Nat} {call : SpawnCall}

theorem calls_turn (hcall : s.calls[c]? = some call) (hknown : call ≠ .cleared)
    (t : SchedulerTurn) : (s.turn t).calls[c]? = some call := by
  have hlt : c < s.calls.length := (List.getElem?_eq_some_iff.1 hcall).1
  cases t with
  | announce | complete | abort => exact hcall
  | ask => exact (List.getElem?_append_left hlt).trans hcall
  | enqueue other =>
    simp only [turn, enqueue]
    split
    · rename_i hcleared
      have hother : other ≠ c := by
        rintro rfl
        exact hknown (Option.some.inj (hcall.symm.trans hcleared))
      split <;> exact (List.getElem?_set_ne hother).trans hcall
    · exact hcall
  | hand | take | shut =>
    rw [turn]
    split <;> exact hcall

theorem over_call (hcall : s.calls[c]? = some call) (hphase : s.phase? call = some phase)
    (hover : phase.isOver = true) (turns : List SchedulerTurn) :
    (s.run turns).calls[c]? = some call ∧ (s.run turns).phase? call = some phase ∧
      (s.run turns).starts call = s.starts call := by
  have hknown : call ≠ .cleared := by
    rintro rfl
    cases hphase
  refine ⟨run_induction (P := fun later => later.calls[c]? = some call) hcall
    (fun _ t hlater => calls_turn hlater hknown t) turns, ?_⟩
  cases call with
  | accepted task => exact over_run hphase hover turns
  | _ => exact ⟨hphase, rfl⟩

/-! ## Coming to rest -/

/-- A bound on what can happen until another call comes in. A permit that was handed to a task which then
does not take it up counts, one that it is going to take up makes up for the task. -/
def rank (s : LiveScheduler) : Nat :=
  (!s.announced).toNat + 4 * s.calls.count .cleared + s.scheduler.runningCount +
    bif s.scheduler.closed then s.handed.length
    else 1 + 3 * s.scheduler.tasks.count .waiting - s.handed.length

/-- While the queue is open, permits are only handed to tasks that wait. -/
theorem Sound.handed_le (hs : s.Sound limit) (hopen : s.scheduler.closed = false) :
    s.handed.length ≤ s.scheduler.tasks.count .waiting := by
  have hsubset : s.handed ⊆ s.scheduler.tasks.idxsOf .waiting := by
    intro i hi
    obtain ⟨hlt, hwaiting⟩ := List.getElem?_eq_some_iff.1 (hs.handed hopen i hi)
    rw [List.mem_idxsOf_iff_exists_getElem_pos]
    exact ⟨hlt, by rw [hwaiting]; rfl⟩
  have hle := (hs.distinct.subperm hsubset).length_le
  rwa [List.length_idxsOf] at hle

theorem Sound.rank_enqueue {call : Nat} (hs : s.Sound limit)
    (hcleared : s.calls[call]? = some .cleared) : (s.enqueue call).rank < s.rank := by
  unfold enqueue rank
  cases hclosed : s.scheduler.closed with
  | true =>
    have hcount := Scheduler.count_set hcleared .late .cleared
    simp only [reduceCtorEq, if_true, if_false, hclosed, cond_true] at hcount ⊢
    omega
  | false =>
    -- the call counts four times, and three times the task that waits in its place
    have hcount := Scheduler.count_set hcleared (.accepted s.scheduler.tasks.length) .cleared
    have hle := hs.handed_le hclosed
    have hnew : [TaskPhase.waiting].count .waiting = 1 ∧ [TaskPhase.waiting].count .running = 0 :=
      ⟨rfl, rfl⟩
    have hopen : (s.scheduler.act .spawn).closed = false :=
      (Scheduler.closed_act_of_ne (by simp)).trans hclosed
    simp only [reduceCtorEq, if_true, if_false, Bool.false_eq_true, act, hopen, cond_false,
      Scheduler.runningCount, Scheduler.tasks_spawn hclosed, List.count_append] at hcount ⊢
    omega

theorem Sound.rank_hand (hs : s.Sound limit) (hcan : s.CanHand i) :
    (s.turn (.hand i)).rank < s.rank := by
  have hle := (hs.turn (.hand i)).handed_le
  simp only [LiveScheduler.turn, if_pos hcan, List.length_append, List.length_singleton] at hle ⊢
  simp only [rank, hcan.2.1, cond_false, List.length_append, List.length_singleton] at hle ⊢
  have hle := hle trivial
  omega

theorem Sound.rank_take (hs : s.Sound limit) (hmem : i ∈ s.handed) :
    (s.turn (.take i)).rank < s.rank := by
  have hlength := List.length_erase_of_mem hmem
  have hpos := List.length_pos_of_mem hmem
  have hclosed' : (s.scheduler.act (.grant i)).closed = s.scheduler.closed :=
    Scheduler.closed_act_of_ne (by simp)
  simp only [LiveScheduler.turn, if_pos hmem, rank, act, hclosed']
  cases hclosed : s.scheduler.closed with
  | true =>
    have hcannot : ¬s.scheduler.CanGrant i := fun hcan =>
      Bool.noConfusion (hclosed.symm.trans hcan.2.2)
    simp only [Scheduler.act_grant_of_not hcannot, cond_true, hlength]
    omega
  | false =>
    -- the permit that was handed to the task is still there
    have hle := hs.handed_le hclosed
    have hcan : s.scheduler.CanGrant i :=
      ⟨hs.handed hclosed i hmem, Nat.lt_of_lt_of_le hpos hs.room, hclosed⟩
    have hwaiting := Scheduler.count_set hcan.1 .running .waiting
    have hrunning := Scheduler.count_set hcan.1 .running .running
    simp only [reduceCtorEq, if_true, if_false] at hwaiting hrunning
    simp only [Scheduler.act_grant hcan, Scheduler.runningCount, Scheduler.setPhase_tasks,
      cond_false, hlength]
    omega

theorem rank_complete (hrunning : s.scheduler.tasks[i]? = some .running) :
    (s.turn (.complete i)).rank < s.rank := by
  have hwaiting := Scheduler.count_set hrunning .finished .waiting
  have hcount := Scheduler.count_set hrunning .finished .running
  simp only [reduceCtorEq, if_true, if_false] at hwaiting hcount
  simp only [LiveScheduler.turn, rank, act, Scheduler.act, if_pos hrunning, Scheduler.setPhase,
    Scheduler.runningCount]
  cases s.scheduler.closed <;> simp only [cond_true, cond_false] <;> omega

theorem Sound.rank_abort_of_running (hs : s.Sound limit)
    (hrunning : s.scheduler.tasks[i]? = some .running) : (s.turn (.abort i)).rank < s.rank := by
  have hwaiting := Scheduler.count_set hrunning .aborted .waiting
  have hcount := Scheduler.count_set hrunning .aborted .running
  simp only [reduceCtorEq, if_true, if_false] at hwaiting hcount
  simp only [LiveScheduler.turn, rank, act, Scheduler.act, hrunning, Scheduler.setPhase,
    Scheduler.runningCount]
  cases hclosed : s.scheduler.closed with
  | true =>
    have hshort : (s.handed.erase i).length ≤ s.handed.length := List.length_erase_le
    simp only [cond_true]
    omega
  | false =>
    have hnot : i ∉ s.handed := by
      intro hmem
      have hwas := hs.handed hclosed i hmem
      rw [hrunning] at hwas
      cases hwas
    simp only [cond_false, List.erase_of_not_mem hnot]
    omega

theorem Sound.rank_abort_of_waiting (hs : s.Sound limit)
    (hwaiting : s.scheduler.tasks[i]? = some .waiting) : (s.turn (.abort i)).rank < s.rank := by
  have hopen := hs.scheduler.open_of_waiting hwaiting
  have hle := hs.handed_le hopen
  have hshort : s.handed.length - 1 ≤ (s.handed.erase i).length := List.le_length_erase
  have hfewer := Scheduler.count_set hwaiting .aborted .waiting
  have hcount := Scheduler.count_set hwaiting .aborted .running
  simp only [reduceCtorEq, if_true, if_false] at hfewer hcount
  simp only [LiveScheduler.turn, rank, act, Scheduler.act, hwaiting, Scheduler.setPhase,
    Scheduler.runningCount, hopen, cond_false]
  omega

theorem Sound.rank_abort_of_over (hs : s.Sound limit)
    (hsame : s.scheduler.act (.abort i) = s.scheduler)
    (hwaiting : s.scheduler.tasks[i]? ≠ some .waiting) (heffective : s.turn (.abort i) ≠ s) :
    (s.turn (.abort i)).rank < s.rank := by
  simp only [LiveScheduler.turn, rank, act, hsame] at heffective ⊢
  have hmem : i ∈ s.handed := by
    by_contra hnot
    rw [List.erase_of_not_mem hnot] at heffective
    exact heffective rfl
  have hclosed : s.scheduler.closed = true := by
    by_contra hopen
    exact hwaiting (hs.handed (by simpa using hopen) i hmem)
  have hlength := List.length_erase_of_mem hmem
  have hpos := List.length_pos_of_mem hmem
  simp only [hclosed, cond_true, hlength]
  omega

theorem Sound.rank_abort (hs : s.Sound limit) (heffective : s.turn (.abort i) ≠ s) :
    (s.turn (.abort i)).rank < s.rank := by
  by_cases hrunning : s.scheduler.tasks[i]? = some .running
  · exact hs.rank_abort_of_running hrunning
  · by_cases hwaiting : s.scheduler.tasks[i]? = some .waiting
    · exact hs.rank_abort_of_waiting hwaiting
    · refine hs.rank_abort_of_over ?_ hwaiting heffective
      rw [Scheduler.act]
      split
      · rename_i h
        exact absurd h hrunning
      · rename_i h
        exact absurd h hwaiting
      · rfl

theorem Sound.rank_shut (hs : s.Sound limit) (heffective : s.turn .shut ≠ s) :
    (s.turn .shut).rank < s.rank := by
  simp only [LiveScheduler.turn] at heffective ⊢
  split at heffective
  · rename_i hannounced
    rw [if_pos hannounced]
    have hopen : s.scheduler.closed = false := by
      by_contra hwas
      have hclosed : s.scheduler.closed = true := by simpa using hwas
      apply heffective
      rw [act, Scheduler.act_close_of_drained hclosed (hs.scheduler.drained hclosed)]
    -- no task waits any more, and permits that were handed out can still come back
    have hle := hs.handed_le hopen
    simp only [rank, act, Scheduler.act, Scheduler.runningCount, Scheduler.count_refuse, hopen,
      cond_true, cond_false]
    omega
  · exact absurd rfl heffective

/-- What happens brings rest nearer, unless another call comes in. -/
theorem Sound.rank_turn (hs : s.Sound limit) (hask : t ≠ .ask) (heffective : s.turn t ≠ s) :
    (s.turn t).rank < s.rank := by
  cases t with
  | ask => exact absurd rfl hask
  | enqueue call =>
    rw [LiveScheduler.turn] at heffective ⊢
    split at heffective
    · rename_i hcleared
      rw [if_pos hcleared]
      exact hs.rank_enqueue hcleared
    · exact absurd rfl heffective
  | hand task =>
    by_cases hcan : s.CanHand task
    · exact hs.rank_hand hcan
    · rw [LiveScheduler.turn, if_neg hcan] at heffective
      exact absurd rfl heffective
  | take task =>
    by_cases hmem : task ∈ s.handed
    · exact hs.rank_take hmem
    · rw [LiveScheduler.turn, if_neg hmem] at heffective
      exact absurd rfl heffective
  | complete task =>
    by_cases hrunning : s.scheduler.tasks[task]? = some .running
    · exact rank_complete hrunning
    · rw [LiveScheduler.turn, act, Scheduler.act, if_neg hrunning] at heffective
      exact absurd rfl heffective
  | abort task => exact hs.rank_abort heffective
  | announce =>
    have hnot : s.announced = false := by
      by_contra hwas
      have hannounced : s.announced = true := by simpa using hwas
      exact heffective (by rw [LiveScheduler.turn, ← hannounced])
    simp only [LiveScheduler.turn, rank, hnot, Bool.not_true, Bool.not_false, Bool.toNat_true,
      Bool.toNat_false]
    omega
  | shut => exact hs.rank_shut heffective

/-- Whether each of some turns changes something. -/
def Effective (s : LiveScheduler) : List SchedulerTurn → Prop
  | [] => True
  | t :: rest => s.turn t ≠ s ∧ (s.turn t).Effective rest

/-- Without further calls only so much can happen. -/
theorem Sound.length_le_rank (hs : s.Sound limit) {turns : List SchedulerTurn}
    (hask : .ask ∉ turns) (heffective : s.Effective turns) : turns.length ≤ s.rank := by
  induction turns generalizing s with
  | nil => exact Nat.zero_le _
  | cons t rest ih =>
    rw [List.mem_cons, not_or] at hask
    have hlater := ih (hs.turn t) hask.2 heffective.2
    have hless := hs.rank_turn (Ne.symm hask.1) heffective.1
    rw [List.length_cons]
    omega

/-- Whether nothing goes on by itself: no call is open, no permit is about to change hands and no task
is about to end. -/
def AtRest (s : LiveScheduler) : Prop :=
  ∀ i, s.turn (.enqueue i) = s ∧ s.turn (.hand i) = s ∧ s.turn (.take i) = s ∧
    s.turn (.complete i) = s

/-- At rest every call has been answered and every task has come to an end. -/
theorem Sound.over_of_atRest (hs : s.Sound limit) (hlimit : 0 < limit) (hrest : s.AtRest)
    (hcall : call ∈ s.calls) : ∃ phase, s.phase? call = some phase ∧ phase.isOver = true := by
  -- at rest no turn lowers the rank, so that none of them has anything to do
  have hstill {t : SchedulerTurn} (hsame : s.turn t = s) : ¬(s.turn t).rank < s.rank := by
    rw [hsame]
    exact Nat.lt_irrefl _
  have hnone : s.handed = [] := by
    refine List.eq_nil_iff_forall_not_mem.2 fun i hmem => ?_
    exact hstill (hrest i).2.2.1 (hs.rank_take hmem)
  have hrunning (i : Nat) : s.scheduler.tasks[i]? ≠ some .running :=
    fun hi => hstill (hrest i).2.2.2 (rank_complete hi)
  have hidle : s.scheduler.runningCount = 0 := by
    refine List.count_eq_zero.2 fun hmem => ?_
    obtain ⟨i, hi⟩ := List.mem_iff_getElem?.1 hmem
    exact hrunning i hi
  have hwaiting (i : Nat) : s.scheduler.tasks[i]? ≠ some .waiting := by
    intro hi
    have hopen := hs.scheduler.open_of_waiting hi
    have hpermit : 0 < s.scheduler.available := by
      have hconserved := hs.scheduler.conserved
      rw [hs.limited, hidle] at hconserved
      omega
    refine hstill (hrest i).2.1 (hs.rank_hand ⟨hi, hopen, ?_, ?_⟩)
    · rw [hnone]
      exact List.not_mem_nil
    · rwa [hnone]
  obtain ⟨c, hc⟩ := List.mem_iff_getElem?.1 hcall
  cases call with
  | cleared =>
    have hless := hs.rank_enqueue hc
    have hsame := (hrest c).1
    rw [LiveScheduler.turn, if_pos hc] at hsame
    rw [hsame] at hless
    exact absurd hless (Nat.lt_irrefl _)
  | turnedAway | late => exact ⟨.refused, rfl, rfl⟩
  | accepted task =>
    have hmem : task ∈ s.calls.filterMap SpawnCall.task? := List.mem_filterMap.2 ⟨_, hcall, rfl⟩
    have hlt : task < s.scheduler.tasks.length := List.mem_range.1 (hs.own.mem_iff.1 hmem)
    have hphase := List.getElem?_eq_getElem hlt
    refine ⟨_, hphase, ?_⟩
    cases hover : s.scheduler.tasks[task] with
    | waiting => exact absurd (hphase.trans (congrArg some hover)) (hwaiting task)
    | running => exact absurd (hphase.trans (congrArg some hover)) (hrunning task)
    | finished | refused | aborted => rfl

/-! ## Every run -/

/-- What holds of a scheduler after some turns, and of all that can follow. -/
structure Safe (limit : Nat) (turns : List SchedulerTurn) (s : LiveScheduler) : Prop where
  bounded : s.scheduler.runningCount ≤ limit
  permits : s.permits + s.handed.length + s.scheduler.runningCount = limit
  permits_between_grants : s.handed = [] → s.permits + s.scheduler.runningCount = limit
  own : (s.calls.filterMap SpawnCall.task?).Perm (List.range s.scheduler.tasks.length)
  once : ∀ call ∈ s.calls, TaskPhase.AccountsFor (s.phase? call) (s.starts call)
  lasting : ∀ (c : Nat) (call : SpawnCall) (phase : TaskPhase),
    s.calls[c]? = some call → s.phase? call = some phase →
    phase.isOver = true → ∀ later, (s.run later).calls[c]? = some call ∧
      (s.run later).phase? call = some phase ∧ (s.run later).starts call = s.starts call
  ends : ∀ later, .ask ∉ later → s.Effective later → later.length ≤ s.rank
  atRest : 0 < limit → s.AtRest →
    ∀ call ∈ s.calls, ∃ phase, s.phase? call = some phase ∧ phase.isOver = true
  aborted : ∀ i : Nat, s.scheduler.tasks[i]? = some .aborted → .abort i ∈ turns
  turnsAway : s.announced = true → ∀ later,
    ((s.run later).turn .ask).calls = (s.run later).calls ++ [.turnedAway]
  closes : s.announced = true → (s.turn .shut).scheduler.closed = true ∧
    ∀ i : Nat, s.scheduler.tasks[i]? = some .waiting →
      (s.turn .shut).scheduler.tasks[i]? = some .refused
  refuses : s.scheduler.closed = true → .waiting ∉ s.scheduler.tasks ∧
    ∀ later, (s.run later).scheduler.started = s.scheduler.started
  leavesRunning : ∀ i : Nat, s.scheduler.tasks[i]? = some .running → ∀ later,
    (s.run later).scheduler.tasks[i]? = some (ending i later)

/-- In whatever order calls, permits, results and the closing come, never more tasks run than may, every
task that is accepted runs once to its end or is refused without having begun, and closing lets nothing
begin that has not. -/
theorem safe_run (limit : Nat) (turns : List SchedulerTurn) :
    ((ofLimit limit).run turns).Safe limit turns := by
  have hs := sound_run limit turns
  generalize hlast : (ofLimit limit).run turns = s at hs ⊢
  have hconserved := hs.scheduler.conserved
  have hroom := hs.room
  rw [hs.limited] at hconserved
  exact {
    bounded := by omega
    permits := by
      unfold permits
      omega
    permits_between_grants := by
      intro hnone
      rw [LiveScheduler.permits, hnone]
      exact hconserved
    own := hs.own
    once := fun call _ => hs.once call
    lasting := fun _ _ _ hcall hphase hover later => over_call hcall hphase hover later
    ends := fun _ hask heffective => hs.length_le_rank hask heffective
    atRest := fun hlimit hrest _ hcall => hs.over_of_atRest hlimit hrest hcall
    aborted := fun _ hi => aborted_run (hlast ▸ hi)
    turnsAway := by
      intro hannounced later
      have hlater : (s.run later).announced = true :=
        run_induction (P := fun later => later.announced = true) hannounced
          (fun _ t hwas => announced_turn t hwas) later
      rw [LiveScheduler.turn, if_pos hlater]
    closes := by
      intro hannounced
      rw [LiveScheduler.turn, if_pos hannounced]
      exact ⟨rfl, fun _ hwaiting => Scheduler.getElem?_act hwaiting .close⟩
    refuses := fun hclosed => ⟨hs.scheduler.drained hclosed, started_run hclosed⟩
    leavesRunning := fun _ hi later => running_run hi later }

end LiveScheduler

end Governance
