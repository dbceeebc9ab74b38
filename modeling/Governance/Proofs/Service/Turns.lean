import Governance.Proofs.Service.Calls

/-!
# Calls to the service that take turns

Many callers use the service at once. Their calls take turns over one store in memory: at each turn a
call comes in, or one that is under way makes its next call of the store, or a fault is switched. Every
call of the store is made in surroundings of its own, so that nothing is said of clocks and drawn
identifiers. A list of turns is an interleaving, and every interleaving is one; a call that gets no more
turns was broken off.
-/

namespace Governance

/-- A call to the service that is under way. -/
structure PolicyTask where
  caller : Caller
  call : PolicyCall
  rest : Program serviceInterface (Except ServiceError call.Result)

/-- A store in memory and the calls to the service, in the order in which they came in. -/
structure LivePolicies where
  store : MemoryStore
  tasks : List PolicyTask

/-- What can happen next: a call comes in, a call that is under way goes on, or faults are switched. -/
inductive PolicyTurn where
  | arrive (caller : Caller) (call : PolicyCall)
  | proceed (task : Nat) (surroundings : Ambient)
  | switch (losesRevisions rejectsCommits : Bool)

namespace PolicyTask

def ofCall (gate : Gate) (caller : Caller) (call : PolicyCall) : PolicyTask :=
  ⟨caller, call, (call.perform gate caller).run⟩

/-- Makes the next call of the store, or reads the clock, or reports something. -/
def proceed (t : PolicyTask) (s : MemoryStore) (a : Ambient) : PolicyTask × MemoryStore :=
  match t.rest with
  | .done _ => (t, s)
  | .call c next =>
    let answered := ((Service.answer c).run s a).1
    ({ t with rest := next answered.1 }, answered.2)

end PolicyTask

namespace LivePolicies

def ofStore (s : MemoryStore) : LivePolicies := ⟨s, []⟩

def proceed (g : LivePolicies) (i : Nat) (a : Ambient) : LivePolicies :=
  match g.tasks[i]? with
  | some t => ⟨(t.proceed g.store a).2, g.tasks.set i (t.proceed g.store a).1⟩
  | none => g

theorem proceed_of_some {g : LivePolicies} {i : Nat} {a : Ambient} {t : PolicyTask}
    (ht : g.tasks[i]? = some t) :
    g.proceed i a = ⟨(t.proceed g.store a).2, g.tasks.set i (t.proceed g.store a).1⟩ := by
  rw [proceed, ht]

theorem proceed_of_none {g : LivePolicies} {i : Nat} {a : Ambient} (hi : g.tasks[i]? = none) :
    g.proceed i a = g := by
  rw [proceed, hi]

def take (gate : Gate) (g : LivePolicies) : PolicyTurn → LivePolicies
  | .arrive caller call => { g with tasks := g.tasks ++ [.ofCall gate caller call] }
  | .proceed i a => g.proceed i a
  | .switch losesRevisions rejectsCommits =>
    { g with store := ⟨g.store.contents, losesRevisions, rejectsCommits⟩ }

def run (gate : Gate) (g : LivePolicies) (turns : List PolicyTurn) : LivePolicies :=
  turns.foldl (take gate) g

/-! ### What all tasks keep -/

section Keeping

variable {rely : (c : StoreCall) → c.Answer → Prop} {may : StoreCall → Prop}
  {fails : ServiceError → Prop} {P : MemoryStore → Prop} {gate : Gate} {g : LivePolicies}

/-- The store has a property that every task relies on and keeps. -/
structure Sound (rely : (c : StoreCall) → c.Answer → Prop) (may : StoreCall → Prop)
    (P : MemoryStore → Prop) (g : LivePolicies) : Prop where
  store : P g.store
  tasks : ∀ t ∈ g.tasks,
    t.rest.Obeys (ServiceCall.Relied rely) (ServiceCall.Allowed may) fun _ => True

/-- The store has a property that every task relies on and keeps, and tasks fail only in some ways. -/
structure Upholds (rely : (c : StoreCall) → c.Answer → Prop) (may : StoreCall → Prop)
    (fails : ServiceError → Prop) (P : MemoryStore → Prop) (g : LivePolicies) : Prop where
  store : P g.store
  tasks : ∀ t ∈ g.tasks, ServiceProgram.Meets rely may fails (fun _ => True) (ExceptT.mk t.rest)

theorem Upholds.proceed
    (hstep : ∀ c s, may c → P s →
      (MemoryStore.answer c).Ensures s fun answer s' => rely c answer ∧ P s')
    (hupholds : g.Upholds rely may fails P) (i : Nat) (a : Ambient) :
    (g.proceed i a).Upholds rely may fails P := by
  cases ht : g.tasks[i]? with
  | none => rwa [proceed_of_none ht]
  | some t =>
    rw [proceed_of_some ht]
    have hmeets := hupholds.tasks t (List.mem_of_getElem? ht)
    suffices hboth : P (t.proceed g.store a).2 ∧ ServiceProgram.Meets rely may fails
        (fun _ => True) (ExceptT.mk (t.proceed g.store a).1.rest) by
      refine ⟨hboth.1, fun other hother => ?_⟩
      rcases List.mem_or_eq_of_mem_set hother with hold | rfl
      · exact hupholds.tasks other hold
      · exact hboth.2
    obtain ⟨caller, call, rest⟩ := t
    cases rest with
    | done value => exact ⟨hupholds.store, hmeets⟩
    | call c next =>
      obtain ⟨hrely, hs'⟩ :=
        Service.ensures_answer hstep c g.store hmeets.1 hupholds.store a
      exact ⟨hs', Program.Obeys.next hmeets hrely⟩

theorem Upholds.take
    (hstep : ∀ c s, may c → P s →
      (MemoryStore.answer c).Ensures s fun answer s' => rely c answer ∧ P s')
    (hswitch : ∀ s losesRevisions rejectsCommits, P s →
      P ⟨s.contents, losesRevisions, rejectsCommits⟩)
    (hupholds : g.Upholds rely may fails P) (turn : PolicyTurn)
    (harrive : ∀ caller (call : PolicyCall), turn = .arrive caller call →
      ServiceProgram.Meets rely may fails (fun _ => True) (call.perform gate caller)) :
    (g.take gate turn).Upholds rely may fails P := by
  cases turn with
  | arrive caller call =>
    refine ⟨hupholds.store, fun t ht => ?_⟩
    rcases List.mem_append.1 ht with hold | hnew
    · exact hupholds.tasks t hold
    · rw [List.mem_singleton.1 hnew]
      exact harrive caller call rfl
  | proceed i a => exact hupholds.proceed hstep i a
  | switch losesRevisions rejectsCommits =>
    exact ⟨hswitch _ losesRevisions rejectsCommits hupholds.store, hupholds.tasks⟩

/-- What every call that may be made keeps, all calls to the service together keep that come in at some
turns, in whatever order these are. -/
theorem Upholds.run_of_mem
    (hstep : ∀ c s, may c → P s →
      (MemoryStore.answer c).Ensures s fun answer s' => rely c answer ∧ P s')
    (hswitch : ∀ s losesRevisions rejectsCommits, P s →
      P ⟨s.contents, losesRevisions, rejectsCommits⟩)
    {turns : List PolicyTurn}
    (harrive : ∀ caller (call : PolicyCall), .arrive caller call ∈ turns →
      ServiceProgram.Meets rely may fails (fun _ => True) (call.perform gate caller))
    (hupholds : g.Upholds rely may fails P) : (g.run gate turns).Upholds rely may fails P := by
  induction turns generalizing g with
  | nil => exact hupholds
  | cons turn rest ih =>
    refine ih (fun caller call hmem => harrive caller call (List.mem_cons_of_mem turn hmem))
      (hupholds.take hstep hswitch turn ?_)
    rintro caller call rfl
    exact harrive caller call List.mem_cons_self

/-- Whatever the turns are, what is upheld by every call to the service is upheld by all of them. -/
theorem Upholds.run
    (hstep : ∀ c s, may c → P s →
      (MemoryStore.answer c).Ensures s fun answer s' => rely c answer ∧ P s')
    (hswitch : ∀ s losesRevisions rejectsCommits, P s →
      P ⟨s.contents, losesRevisions, rejectsCommits⟩)
    (harrive : ∀ caller (call : PolicyCall),
      ServiceProgram.Meets rely may fails (fun _ => True) (call.perform gate caller))
    (turns : List PolicyTurn) (hupholds : g.Upholds rely may fails P) :
    (g.run gate turns).Upholds rely may fails P :=
  hupholds.run_of_mem hstep hswitch fun caller call _ => harrive caller call

theorem upholds_ofStore {s : MemoryStore} (hs : P s) : (ofStore s).Upholds rely may fails P :=
  ⟨hs, fun _ ht => absurd ht List.not_mem_nil⟩

theorem sound_iff : g.Sound rely may P ↔ g.Upholds rely may (fun _ => True) P := by
  have htasks (t : PolicyTask) :
      (t.rest.Obeys (ServiceCall.Relied rely) (ServiceCall.Allowed may) fun _ => True) ↔
        ServiceProgram.Meets rely may (fun _ => True) (fun _ => True) (ExceptT.mk t.rest) := by
    constructor
    · exact Program.Obeys.mono fun result _ => by cases result <;> trivial
    · exact Program.Obeys.mono fun _ _ => trivial
  constructor
  · rintro ⟨hstore, hall⟩
    exact ⟨hstore, fun t ht => (htasks t).1 (hall t ht)⟩
  · rintro ⟨hstore, hall⟩
    exact ⟨hstore, fun t ht => (htasks t).2 (hall t ht)⟩

theorem Sound.run
    (hstep : ∀ c s, may c → P s →
      (MemoryStore.answer c).Ensures s fun answer s' => rely c answer ∧ P s')
    (hswitch : ∀ s losesRevisions rejectsCommits, P s →
      P ⟨s.contents, losesRevisions, rejectsCommits⟩)
    (harrive : ∀ caller (call : PolicyCall),
      ServiceProgram.Obeys rely may (fun _ => True) (call.perform gate caller))
    (turns : List PolicyTurn) (hsound : g.Sound rely may P) :
    (g.run gate turns).Sound rely may P :=
  sound_iff.2 ((sound_iff.1 hsound).run hstep hswitch harrive turns)

theorem sound_ofStore {s : MemoryStore} (hs : P s) : (ofStore s).Sound rely may P :=
  ⟨hs, fun _ ht => absurd ht List.not_mem_nil⟩

end Keeping

end LivePolicies

end Governance
