import Governance.Program

/-!
# Runs of programs

What a program exchanges with its surroundings, for whatever these answer. A statement about every
run is a statement about every store, clock, queue and collaborator at once, and needs none of them.

A run ends with a value, or with a call that is never answered. Only some calls may be left without
an answer; they are called fragile, and which ones they are is a parameter. A run in two parts is a
run of the first part followed by a run of what is made of its value, which is all that later proofs
use.
-/

namespace Governance

/-- A call that was made, and what was answered if anything was. -/
structure Exchange (I : Interface) where
  call : I.Call
  answer : Option (I.Answer call)

namespace Program

variable {I J : Interface} {fragile : I.Call → Prop} {α β ε : Type}

/-- The runs of a program: what it exchanges, and the value that it ends with unless a fragile call
is left without an answer. -/
inductive Runs (fragile : I.Call → Prop) : Program I α → List (Exchange I) → Option α → Prop where
  | done (value : α) : Runs fragile (.done value) [] (some value)
  | unanswered {c : I.Call} (next : I.Answer c → Program I α) (hfragile : fragile c) :
      Runs fragile (.call c next) [⟨c, none⟩] none
  | answered {c : I.Call} {next : I.Answer c → Program I α} (answer : I.Answer c)
      {trace : List (Exchange I)} {outcome : Option α}
      (rest : Runs fragile (next answer) trace outcome) :
      Runs fragile (.call c next) (⟨c, some answer⟩ :: trace) outcome

/-- What is exchanged when every call gets the answer that a function gives, and the value in the
end. -/
def replay (answers : (c : I.Call) → I.Answer c) : Program I α → List (Exchange I) × α
  | .done value => ([], value)
  | .call c next =>
    let rest := (next (answers c)).replay answers
    (⟨c, some (answers c)⟩ :: rest.1, rest.2)

theorem runs_replay (answers : (c : I.Call) → I.Answer c) (p : Program I α) :
    Runs fragile p (p.replay answers).1 (some (p.replay answers).2) := by
  induction p with
  | done value => exact .done value
  | call c next ih => exact .answered (answers c) (ih (answers c))

theorem replay_bind (answers : (c : I.Call) → I.Answer c) (p : Program I α)
    (f : α → Program I β) :
    ((p >>= f).replay answers).2 = ((f (p.replay answers).2).replay answers).2 := by
  induction p with
  | done value => rfl
  | call c next ih => exact ih (answers c)

theorem replay_bind_exchanges (answers : (c : I.Call) → I.Answer c) (p : Program I α)
    (f : α → Program I β) :
    ((p >>= f).replay answers).1 =
      (p.replay answers).1 ++ ((f (p.replay answers).2).replay answers).1 := by
  induction p with
  | done value => rfl
  | call c next ih => exact congrArg (List.cons _) (ih (answers c))

namespace Runs

theorem of_done {value : α} {trace : List (Exchange I)} {outcome : Option α}
    (hrun : Runs fragile (.done value) trace outcome) : trace = [] ∧ outcome = some value := by
  cases hrun
  exact ⟨rfl, rfl⟩

theorem of_call {c : I.Call} {next : I.Answer c → Program I α} {trace : List (Exchange I)}
    {outcome : Option α} (hsure : ¬ fragile c)
    (hrun : Runs fragile (.call c next) trace outcome) :
    ∃ answer rest, trace = ⟨c, some answer⟩ :: rest ∧ Runs fragile (next answer) rest outcome := by
  cases hrun with
  | unanswered next hfragile => exact absurd hfragile hsure
  | answered answer rest => exact ⟨answer, _, rfl, rest⟩

/-- The two parts of a run that ends in its second part, or the first part when it does not end. -/
theorem of_bind {p : Program I α} {f : α → Program I β} {trace : List (Exchange I)}
    {outcome : Option β} (hrun : Runs fragile (p >>= f) trace outcome) :
    (∃ first second value, trace = first ++ second ∧ Runs fragile p first (some value) ∧
      Runs fragile (f value) second outcome) ∨
    (Runs fragile p trace none ∧ outcome = none) := by
  -- Each call of the first part is the next exchange; the first part may break off at any of them.
  induction p generalizing trace with
  | done value => exact .inl ⟨[], trace, value, rfl, .done value, hrun⟩
  | call c next ih =>
    rw [call_bind] at hrun
    cases hrun with
    | unanswered _ hfragile => exact .inr ⟨.unanswered next hfragile, rfl⟩
    | answered answer rest =>
      rcases ih answer rest with ⟨first, second, value, rfl, hfirst, hsecond⟩ | ⟨hfirst, hnone⟩
      · exact .inl ⟨⟨c, some answer⟩ :: first, second, value, rfl, .answered answer hfirst, hsecond⟩
      · exact .inr ⟨.answered answer hfirst, hnone⟩

theorem bind {p : Program I α} {f : α → Program I β} {first second : List (Exchange I)}
    {value : α} {outcome : Option β} (hfirst : Runs fragile p first (some value))
    (hsecond : Runs fragile (f value) second outcome) :
    Runs fragile (p >>= f) (first ++ second) outcome := by
  induction p generalizing first with
  | done a =>
    obtain ⟨rfl, hvalue⟩ := hfirst.of_done
    obtain rfl := Option.some.inj hvalue
    exact hsecond
  | call c next ih =>
    cases hfirst with
    | answered answer rest => exact .answered answer (ih answer rest)

/-- Of a trace one run of a program takes the same part as another. -/
theorem eq_of_append {p : Program I α} {first first' rest rest' : List (Exchange I)}
    {outcome outcome' : Option α} (hrun : Runs fragile p first outcome)
    (hrun' : Runs fragile p first' outcome') (heq : first ++ rest = first' ++ rest') :
    first = first' ∧ rest = rest' ∧ outcome = outcome' := by
  induction hrun generalizing first' with
  | done value =>
    obtain ⟨rfl, rfl⟩ := hrun'.of_done
    exact ⟨rfl, heq, rfl⟩
  | unanswered next hfragile =>
    cases hrun' with
    | unanswered => exact ⟨rfl, (List.cons.inj heq).2, rfl⟩
    | answered answer hrest => cases (List.cons.inj heq).1
  | answered answer hrest ih =>
    cases hrun' with
    | unanswered => cases (List.cons.inj heq).1
    | answered answer' hrest' =>
      obtain ⟨hsame, htail⟩ := List.cons.inj heq
      cases hsame
      obtain ⟨rfl, rfl, rfl⟩ := ih hrest' htail
      exact ⟨rfl, rfl, rfl⟩

/-! ### Programs that may fail -/

/-- A run of two parts of which the first may fail: then the second is left out. -/
theorem of_bind_except {x : ExceptT ε (Program I) α} {f : α → ExceptT ε (Program I) β}
    {trace : List (Exchange I)} {outcome : Option (Except ε β)}
    (hrun : Runs fragile (x >>= f).run trace outcome) :
    ∃ first reached, Runs fragile x.run first reached ∧
      match reached with
      | some (.ok value) => ∃ second, trace = first ++ second ∧
          Runs fragile (f value).run second outcome
      | some (.error e) => trace = first ∧ outcome = some (.error e)
      | none => trace = first ∧ outcome = none := by
  rw [ExceptT.run_bind] at hrun
  rcases hrun.of_bind with ⟨first, second, reached, rfl, hfirst, hsecond⟩ | ⟨hfirst, rfl⟩
  · refine ⟨first, some reached, hfirst, ?_⟩
    cases reached with
    | ok value => exact ⟨second, rfl, hsecond⟩
    | error e =>
      obtain ⟨rfl, rfl⟩ := hsecond.of_done
      exact ⟨List.append_nil first, rfl⟩
  · exact ⟨trace, none, hfirst, rfl, rfl⟩

end Runs

/-! ### Programs under way -/

/-- What is left of a program after some exchanges. -/
inductive Reaches (p : Program I α) : List (Exchange I) → Program I α → Prop where
  | start : Reaches p [] p
  | answered {trace : List (Exchange I)} {c : I.Call} {next : I.Answer c → Program I α}
      (hreaches : Reaches p trace (.call c next)) (answer : I.Answer c) :
      Reaches p (trace ++ [⟨c, some answer⟩]) (next answer)

/-- A run of what is left completes a run of the program. -/
theorem Reaches.runs {p q : Program I α} {trace rest : List (Exchange I)} {outcome : Option α}
    (hreaches : Reaches p trace q) (hrest : Runs fragile q rest outcome) :
    Runs fragile p (trace ++ rest) outcome := by
  induction hreaches generalizing rest with
  | start => exact hrest
  | answered _ answer ih =>
    rw [List.append_assoc]
    exact ih (.answered answer hrest)

end Program

end Governance

namespace Governance.Program

/-!
## What holds of all complete runs

A postcondition speaks of all that a program has exchanged and of the value that it ends with. It holds
always when it does whatever the calls are answered. There is one rule for each way in which a program
goes on; what was exchanged so far is carried inside the postcondition of the rest.
-/

variable {I : Interface} {fragile : I.Call → Prop} {α β ε : Type}

/-- Whatever the calls of a program are answered, `post` holds of its exchanges and its value. -/
def Always (post : List (Exchange I) → α → Prop) : Program I α → Prop
  | .done value => post [] value
  | .call c next =>
    ∀ answer, (next answer).Always fun trace value => post (⟨c, some answer⟩ :: trace) value

namespace Always

variable {post : List (Exchange I) → β → Prop}

/-- A run that ends with a value is one of those of which the postcondition holds. -/
theorem of_runs {p : Program I β} (hp : p.Always post) {trace : List (Exchange I)} {value : β}
    (hrun : Runs fragile p trace (some value)) : post trace value := by
  induction p generalizing trace post with
  | done b =>
    obtain ⟨rfl, hvalue⟩ := hrun.of_done
    obtain rfl := Option.some.inj hvalue
    exact hp
  | call c next ih =>
    cases hrun with
    | answered answer rest => exact ih answer (hp answer) rest

theorem mono {pre : List (Exchange I) → β → Prop} {p : Program I β} (hp : p.Always pre)
    (himp : ∀ trace value, pre trace value → post trace value) : p.Always post := by
  induction p generalizing pre post with
  | done b => exact himp [] b hp
  | call c next ih =>
    intro answer
    exact ih answer (hp answer) fun trace value => himp (⟨c, some answer⟩ :: trace) value

theorem pure {value : β} (hpost : post [] value) : (Pure.pure value : Program I β).Always post :=
  hpost

theorem bind {p : Program I α} {f : α → Program I β}
    (hp : p.Always fun trace a => (f a).Always fun trace' b => post (trace ++ trace') b) :
    (p >>= f).Always post := by
  induction p generalizing post with
  | done a => exact hp
  | call c next ih => exact fun answer => ih answer (hp answer)

theorem perform_bind {c : I.Call} {f : I.Answer c → Program I β}
    (hf : ∀ answer, (f answer).Always fun trace b => post (⟨c, some answer⟩ :: trace) b) :
    (perform c >>= f).Always post :=
  hf

/-! ### Programs that may fail -/

variable {post : List (Exchange I) → Except ε β → Prop}

theorem throw {e : ε} (hpost : post [] (.error e)) :
    (throw e : ExceptT ε (Program I) β).run.Always post :=
  hpost

theorem bind_except {x : ExceptT ε (Program I) α} {f : α → ExceptT ε (Program I) β}
    (hx : x.run.Always fun trace result => match result with
      | .ok a => (f a).run.Always fun trace' b => post (trace ++ trace') b
      | .error e => post trace (.error e)) :
    (x >>= f).run.Always post := by
  rw [ExceptT.run_bind]
  refine bind (hx.mono fun trace result h => ?_)
  cases result with
  | ok a => exact h
  | error e =>
    change post (trace ++ []) (.error e)
    rwa [List.append_nil]

theorem lift_bind {p : Program I α} {f : α → ExceptT ε (Program I) β}
    (hp : p.Always fun trace a => (f a).run.Always fun trace' b => post (trace ++ trace') b) :
    (ExceptT.lift p >>= f : ExceptT ε (Program I) β).run.Always post := by
  have hlift : (ExceptT.lift p : ExceptT ε (Program I) α).run = p >>= fun a => .done (.ok a) := rfl
  refine bind_except ?_
  rw [hlift]
  refine bind (hp.mono fun trace a h => ?_)
  change (f a).run.Always fun trace' b => post ((trace ++ []) ++ trace') b
  rwa [List.append_nil]

theorem lift_perform_bind {c : I.Call} {f : I.Answer c → ExceptT ε (Program I) β}
    (hf : ∀ answer, (f answer).run.Always fun trace b => post (⟨c, some answer⟩ :: trace) b) :
    (ExceptT.lift (perform c) >>= f : ExceptT ε (Program I) β).run.Always post :=
  lift_bind fun answer => hf answer

end Always

end Governance.Program
