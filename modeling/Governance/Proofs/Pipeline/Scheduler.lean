import Mathlib.Data.List.Basic
import Governance.Pipeline.Scheduler

/-!
# What a scheduler does to its tasks

Whatever happens to a scheduler, a task stays at its place and goes from one phase to the next by itself
(`phaseAfter`), and what all of them have in common is kept by every action: permits are either there or
with a task that runs, a task has begun as often as its phase says, and a closed scheduler has no task
that waits.
-/

namespace Governance

/-- How often a task in some phase has begun; one that was aborted may or may not have. -/
def TaskPhase.AccountsFor : Option TaskPhase → Nat → Prop
  | some .running, starts | some .finished, starts => starts = 1
  | some .aborted, starts => starts ≤ 1
  | _, starts => starts = 0

namespace Scheduler

variable {s : Scheduler} {i : Nat} {phase : TaskPhase}

@[simp] theorem setPhase_tasks (task : Nat) (phase : TaskPhase) :
    (s.setPhase task phase).tasks = s.tasks.set task phase := rfl

theorem length_act {action : SchedulerAction} (hold : action ≠ .spawn) :
    (s.act action).tasks.length = s.tasks.length := by
  cases action with
  | spawn => exact absurd rfl hold
  | grant task =>
    simp only [act]
    split
    · exact List.length_set
    · rfl
  | complete task =>
    simp only [act]
    split
    · exact List.length_set
    · rfl
  | abort task =>
    simp only [act]
    split
    · exact List.length_set
    · exact List.length_set
    · rfl
  | close => exact List.length_map ..

theorem tasks_spawn (hopen : s.closed = false) :
    (s.act .spawn).tasks = s.tasks ++ [.waiting] := by
  simp [act, hopen]

/-! ## One task -/

/-- Whether a task can be given a permit. -/
def CanGrant (s : Scheduler) (task : Nat) : Prop :=
  s.tasks[task]? = some .waiting ∧ 0 < s.available ∧ s.closed = false

theorem act_grant (hcan : s.CanGrant i) :
    s.act (.grant i) = { s.setPhase i .running with
      available := s.available - 1, started := s.started ++ [i] } := by
  obtain ⟨hwaiting, hpermit, hopen⟩ := hcan
  simp [act, hwaiting, hpermit, hopen]

theorem act_grant_of_not (hcannot : ¬s.CanGrant i) : s.act (.grant i) = s := by
  have hguard : (s.tasks[i]? = some .waiting && 0 < s.available && !s.closed) ≠ true := by
    intro hguard
    apply hcannot
    simpa [CanGrant, and_assoc] using hguard
  rw [act, if_neg hguard]

/-- The phase of a task after an action. -/
def phaseAfter (s : Scheduler) (i : Nat) : TaskPhase → SchedulerAction → TaskPhase
  | .waiting, .grant task => if task = i ∧ 0 < s.available ∧ s.closed = false then .running else .waiting
  | .waiting, .abort task => if task = i then .aborted else .waiting
  | .waiting, .close => .refused
  | .running, .complete task => if task = i then .finished else .running
  | .running, .abort task => if task = i then .aborted else .running
  | phase, _ => phase

theorem getElem?_set {task : Nat} {old new : TaskPhase} {action : SchedulerAction}
    (hi : s.tasks[i]? = some phase) (htask : s.tasks[task]? = some old)
    (hthis : task = i → s.phaseAfter i old action = new)
    (hother : task ≠ i → s.phaseAfter i phase action = phase) :
    (s.tasks.set task new)[i]? = some (s.phaseAfter i phase action) := by
  have hlt : i < s.tasks.length := (List.getElem?_eq_some_iff.1 hi).1
  rw [List.getElem?_set]
  by_cases hsame : task = i
  · subst hsame
    obtain rfl := Option.some.inj (hi.symm.trans htask)
    rw [if_pos rfl, if_pos hlt, hthis rfl]
  · rw [if_neg hsame, hi, hother hsame]

theorem getElem?_act (hi : s.tasks[i]? = some phase) (action : SchedulerAction) :
    (s.act action).tasks[i]? = some (s.phaseAfter i phase action) := by
  have hlt : i < s.tasks.length := (List.getElem?_eq_some_iff.1 hi).1
  cases action with
  | spawn =>
    have hphase : s.phaseAfter i phase .spawn = phase := by cases phase <;> rfl
    rw [hphase, act]
    split
    · exact hi
    · exact (List.getElem?_append_left hlt).trans hi
  | grant task =>
    by_cases hcan : s.CanGrant task
    · rw [act_grant hcan]
      refine getElem?_set hi hcan.1 ?_ ?_
      · rintro rfl
        simp [phaseAfter, hcan.2.1, hcan.2.2]
      · intro hother
        cases phase <;> simp [phaseAfter, hother]
    · rw [act_grant_of_not hcan, hi]
      -- only a task that waits could have been given a permit
      cases phase with
      | waiting =>
        have hguard : ¬(task = i ∧ 0 < s.available ∧ s.closed = false) := by
          rintro ⟨rfl, hrest⟩
          exact hcan ⟨hi, hrest⟩
        rw [phaseAfter, if_neg hguard]
      | _ => rfl
  | complete task =>
    rw [act]
    split
    · rename_i hrunning
      refine getElem?_set hi hrunning (fun hthis => if_pos hthis) ?_
      intro hother
      cases phase <;> simp [phaseAfter, hother]
    · rename_i hrunning
      have hother : phase = .running → task ≠ i := by
        rintro rfl rfl
        exact hrunning hi
      rw [hi]
      cases phase <;> simp_all [phaseAfter]
  | abort task =>
    rw [act]
    split
    · rename_i hrunning
      refine getElem?_set hi hrunning (fun hthis => if_pos hthis) ?_
      intro hother
      cases phase <;> simp [phaseAfter, hother]
    · rename_i hwaiting
      refine getElem?_set hi hwaiting (fun hthis => if_pos hthis) ?_
      intro hother
      cases phase <;> simp [phaseAfter, hother]
    · rename_i hrunning hwaiting
      have hother : phase = .running ∨ phase = .waiting → task ≠ i := by
        rintro (rfl | rfl) rfl
        · exact hrunning hi
        · exact hwaiting hi
      rw [hi]
      cases phase <;> simp_all [phaseAfter]
  | close =>
    rw [act]
    simp only [List.getElem?_map, hi, Option.map_some]
    cases phase <;> rfl

/-- There is a task more only when one was accepted, and it waits. -/
theorem getElem?_act_of_none (hi : s.tasks[i]? = none) (action : SchedulerAction) :
    (s.act action).tasks[i]? = none ∨ (s.act action).tasks[i]? = some .waiting := by
  by_cases hspawn : action = .spawn
  · subst hspawn
    rw [act]
    split
    · exact .inl hi
    · rw [List.getElem?_append_right (List.getElem?_eq_none_iff.1 hi), List.getElem?_singleton]
      split
      · exact .inr rfl
      · exact .inl rfl
  · refine .inl (List.getElem?_eq_none_iff.2 ?_)
    rw [length_act hspawn]
    exact List.getElem?_eq_none_iff.1 hi

theorem exists_of_getElem?_act {action : SchedulerAction} {new : TaskPhase}
    (hi : (s.act action).tasks[i]? = some new) :
    new = .waiting ∨ ∃ phase, s.tasks[i]? = some phase ∧ s.phaseAfter i phase action = new := by
  cases hwas : s.tasks[i]? with
  | none =>
    rcases getElem?_act_of_none hwas action with hnone | hwaiting
    · rw [hnone] at hi
      cases hi
    · exact .inl (Option.some.inj (hi.symm.trans hwaiting))
  | some phase => exact .inr ⟨phase, rfl, Option.some.inj ((getElem?_act hwas action).symm.trans hi)⟩

theorem finished_of_act {action : SchedulerAction} (hi : (s.act action).tasks[i]? = some .finished) :
    s.tasks[i]? = some .finished ∨ action = .complete i ∧ s.tasks[i]? = some .running := by
  obtain hwaiting | ⟨phase, hwas, hafter⟩ := exists_of_getElem?_act hi
  · cases hwaiting
  · rw [hwas]
    cases phase <;> cases action <;> grind [phaseAfter]

theorem aborted_of_act {action : SchedulerAction} (hi : (s.act action).tasks[i]? = some .aborted) :
    s.tasks[i]? = some .aborted ∨ action = .abort i := by
  obtain hwaiting | ⟨phase, hwas, hafter⟩ := exists_of_getElem?_act hi
  · cases hwaiting
  · rw [hwas]
    cases phase <;> cases action <;> grind [phaseAfter]

/-! ## All of them -/

theorem started_grant (hcan : s.CanGrant i) :
    (s.act (.grant i)).started = s.started ++ [i] := by
  rw [act_grant hcan]

theorem started_act {action : SchedulerAction} (hnot : ∀ task, action = .grant task → ¬s.CanGrant task) :
    (s.act action).started = s.started := by
  cases action with
  | grant task => rw [act_grant_of_not (hnot task rfl)]
  | spawn | complete | abort =>
    simp only [act]
    split <;> rfl
  | close => rfl

theorem started_of_closed (hclosed : s.closed = true) (action : SchedulerAction) :
    (s.act action).started = s.started := by
  refine started_act fun task _ hcan => ?_
  have hopen := hcan.2.2
  rw [hclosed] at hopen
  cases hopen

theorem count_started_act {action : SchedulerAction} (hnot : action = .grant i → ¬s.CanGrant i) :
    (s.act action).started.count i = s.started.count i := by
  by_cases hgrant : ∃ task, action = .grant task ∧ s.CanGrant task
  · obtain ⟨task, rfl, hcan⟩ := hgrant
    have hother : task ≠ i := by
      rintro rfl
      exact hnot rfl hcan
    rw [started_grant hcan, List.count_append, List.count_singleton, if_neg (by simpa using hother),
      Nat.add_zero]
  · rw [started_act fun task hact hcan => hgrant ⟨task, hact, hcan⟩]

theorem closed_act (s : Scheduler) (action : SchedulerAction) :
    (s.act action).closed = (s.closed || action = .close) := by
  cases action with
  | close => simp [act]
  | grant task =>
    by_cases hcan : s.CanGrant task
    · simp [act_grant hcan, setPhase]
    · simp [act_grant_of_not hcan]
  | spawn | complete | abort =>
    simp only [act]
    split <;> simp [setPhase]

theorem closed_act_of_ne {action : SchedulerAction} (hclose : action ≠ .close) :
    (s.act action).closed = s.closed := by
  rw [closed_act, decide_eq_false hclose, Bool.or_false]

theorem limit_act (s : Scheduler) (action : SchedulerAction) : (s.act action).limit = s.limit := by
  cases action with
  | close => rfl
  | grant task =>
    by_cases hcan : s.CanGrant task
    · rw [act_grant hcan]
      rfl
    · rw [act_grant_of_not hcan]
  | spawn | complete | abort =>
    simp only [act]
    split <;> rfl

/-- Only a task that begins takes a permit, and it takes one. -/
theorem available_act (s : Scheduler) (action : SchedulerAction) :
    s.available ≤ (s.act action).available + 1 ∧
      ((∀ task, action ≠ .grant task) → s.available ≤ (s.act action).available) := by
  cases action with
  | close => exact ⟨Nat.le_succ _, fun _ => Nat.le_refl _⟩
  | grant task =>
    refine ⟨?_, fun hnot => absurd rfl (hnot task)⟩
    by_cases hcan : s.CanGrant task
    · simp only [act_grant hcan]
      omega
    · rw [act_grant_of_not hcan]
      exact Nat.le_succ _
  | spawn | complete | abort =>
    simp only [act]
    split <;> grind [setPhase]

theorem count_set {α : Type} [DecidableEq α] {l : List α} {old : α} (hold : l[i]? = some old)
    (new a : α) :
    (l.set i new).count a + (if old = a then 1 else 0) = l.count a + if new = a then 1 else 0 := by
  obtain ⟨hlt, hget⟩ := List.getElem?_eq_some_iff.1 hold
  have hmem := List.count_pos_iff (a := a) (l := l)
  rw [List.count_set hlt, hget]
  by_cases hsame : old = a
  · subst hsame
    have hpos := hmem.2 (hget ▸ List.getElem_mem hlt)
    simp
    split <;> omega
  · simp [hsame]

theorem count_refuse (tasks : List TaskPhase) :
    (tasks.map refuse).count .running = tasks.count .running := by
  simp only [List.count, List.countP_map]
  refine List.countP_congr fun phase _ => ?_
  cases phase <;> decide

/-- Closing a scheduler again changes nothing. -/
theorem act_close_of_drained (hclosed : s.closed = true) (hdrained : .waiting ∉ s.tasks) :
    s.act .close = s := by
  have hsame : s.tasks.map refuse = s.tasks := by
    refine (List.map_congr_left ?_).trans (List.map_id _)
    intro phase hmem
    cases phase with
    | waiting => exact absurd hmem hdrained
    | _ => rfl
  rw [act, hsame, ← hclosed]

/-- What every scheduler keeps. -/
structure Sound (s : Scheduler) : Prop where
  conserved : s.available + s.runningCount = s.limit
  once : ∀ i, TaskPhase.AccountsFor s.tasks[i]? (s.started.count i)
  drained : s.closed = true → .waiting ∉ s.tasks

theorem sound_ofLimit (limit : Nat) : (ofLimit limit).Sound where
  conserved := rfl
  once := fun _ => rfl
  drained := fun _ => List.not_mem_nil

/-- Only an open scheduler has a task that waits. -/
theorem Sound.open_of_waiting (hs : s.Sound) (hwaiting : s.tasks[i]? = some .waiting) :
    s.closed = false := by
  by_contra hclosed
  exact hs.drained (by simpa using hclosed) (List.mem_of_getElem? hwaiting)

/-- No permit is lost, and none is made. -/
theorem Sound.conserved_act (hs : s.Sound) (action : SchedulerAction) :
    (s.act action).available + (s.act action).runningCount = s.limit := by
  have hconserved := hs.conserved
  unfold runningCount at hconserved ⊢
  cases action with
  | spawn =>
    rw [act]
    split
    · exact hconserved
    · simpa using hconserved
  | grant task =>
    by_cases hcan : s.CanGrant task
    · have hcount := count_set hcan.1 .running .running
      have hpermit := hcan.2.1
      rw [act_grant hcan]
      simp only [setPhase, reduceCtorEq, if_false, if_true] at hcount ⊢
      omega
    · rwa [act_grant_of_not hcan]
  | complete task =>
    rw [act]
    split
    · rename_i hrunning
      have hcount := count_set hrunning .finished .running
      simp only [setPhase, reduceCtorEq, if_false, if_true] at hcount ⊢
      omega
    · exact hconserved
  | abort task =>
    rw [act]
    split
    · rename_i hrunning
      have hcount := count_set hrunning .aborted .running
      simp only [setPhase, reduceCtorEq, if_false, if_true] at hcount ⊢
      omega
    · rename_i hwaiting
      have hcount := count_set hwaiting .aborted .running
      simp only [setPhase, reduceCtorEq, if_false] at hcount ⊢
      omega
    · exact hconserved
  | close =>
    simp only [act, count_refuse]
    exact hconserved

/-- A task whose phase changes without a permit has begun as often as before. -/
theorem accountsFor_phaseAfter {starts : Nat} {action : SchedulerAction}
    (hi : s.tasks[i]? = some phase) (hnot : action = .grant i → ¬s.CanGrant i)
    (haccounts : TaskPhase.AccountsFor (some phase) starts) :
    TaskPhase.AccountsFor (some (s.phaseAfter i phase action)) starts := by
  cases phase with
  | waiting =>
    rw [show starts = 0 from haccounts]
    cases action with
    | grant task =>
      have hguard : ¬(task = i ∧ 0 < s.available ∧ s.closed = false) := by
        rintro ⟨rfl, hrest⟩
        exact hnot rfl ⟨hi, hrest⟩
      rw [phaseAfter, if_neg hguard]
      rfl
    | abort task =>
      rw [phaseAfter]
      split
      · exact Nat.zero_le 1
      · rfl
    | spawn | complete | close => rfl
  | running =>
    rw [show starts = 1 from haccounts]
    cases action with
    | complete task =>
      rw [phaseAfter]
      split <;> rfl
    | abort task =>
      rw [phaseAfter]
      split
      · exact Nat.le_refl 1
      · rfl
    | spawn | grant | close => rfl
  | finished | refused | aborted => exact haccounts

theorem Sound.once_act (hs : s.Sound) (action : SchedulerAction) (i : Nat) :
    TaskPhase.AccountsFor (s.act action).tasks[i]? ((s.act action).started.count i) := by
  have honce := hs.once i
  -- nothing but a permit of its own lets the task begin
  by_cases hgrant : action = .grant i ∧ s.CanGrant i
  · obtain ⟨rfl, hcan⟩ := hgrant
    have hafter : s.phaseAfter i .waiting (.grant i) = .running := if_pos ⟨rfl, hcan.2⟩
    rw [hcan.1] at honce
    rw [getElem?_act hcan.1, hafter, started_grant hcan, List.count_append,
      show s.started.count i = 0 from honce, List.count_singleton_self]
    rfl
  · have hnot (hact : action = .grant i) : ¬s.CanGrant i := fun hcan => hgrant ⟨hact, hcan⟩
    rw [count_started_act hnot]
    cases hi : s.tasks[i]? with
    | none =>
      rw [hi] at honce
      rcases getElem?_act_of_none hi action with hnone | hwaiting
      · rwa [hnone]
      · rwa [hwaiting]
    | some phase =>
      rw [hi] at honce
      rw [getElem?_act hi]
      exact accountsFor_phaseAfter hi hnot honce

theorem waiting_not_mem_set {tasks : List TaskPhase} (hnone : .waiting ∉ tasks) (task : Nat)
    (hphase : .waiting ≠ phase) : .waiting ∉ tasks.set task phase := by
  intro hmem
  rcases List.mem_or_eq_of_mem_set hmem with hold | hnew
  · exact hnone hold
  · exact hphase hnew

theorem Sound.drained_act (hs : s.Sound) (action : SchedulerAction)
    (hclosed : (s.act action).closed = true) : .waiting ∉ (s.act action).tasks := by
  by_cases hclose : action = .close
  · subst hclose
    intro hmem
    obtain ⟨phase, _, hrefuse⟩ := List.mem_map.1 hmem
    cases phase <;> cases hrefuse
  · rw [closed_act, Bool.or_eq_true, decide_eq_true_eq] at hclosed
    have hwas : s.closed = true := hclosed.resolve_right hclose
    have hnone := hs.drained hwas
    cases action with
    | spawn => rwa [act, if_pos hwas]
    | grant task =>
      rw [act_grant_of_not fun hcan => Bool.noConfusion (hwas.symm.trans hcan.2.2)]
      exact hnone
    | complete task =>
      rw [act]
      split
      · exact waiting_not_mem_set hnone task (by decide)
      · exact hnone
    | abort task =>
      rw [act]
      split
      · exact waiting_not_mem_set hnone task (by decide)
      · exact waiting_not_mem_set hnone task (by decide)
      · exact hnone
    | close => exact absurd rfl hclose

theorem Sound.act (hs : s.Sound) (action : SchedulerAction) : (s.act action).Sound where
  conserved := (hs.conserved_act action).trans (limit_act s action).symm
  once := hs.once_act action
  drained := hs.drained_act action

end Scheduler

end Governance
