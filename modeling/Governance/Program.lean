/-!
# Programs that make calls

A program is a computation that asks for things on its way: it has an answer, or it makes a call and
goes on with whatever is answered. What answers the calls is left open, so that one program can run
over any store, and so that several of them can take turns call by call.
-/

namespace Governance

/-- The calls that a program may make and the type of each answer. -/
structure Interface where
  Call : Type
  Answer : Call → Type

/-- A computation that makes calls. -/
inductive Program (I : Interface) (α : Type) : Type where
  | done (value : α)
  | call (c : I.Call) (next : I.Answer c → Program I α)

namespace Program

variable {I J : Interface} {α β γ : Type}

/-- Goes on with the answer of a program. -/
def andThen : Program I α → (α → Program I β) → Program I β
  | .done value, rest => rest value
  | .call c next, rest => .call c fun answer => (next answer).andThen rest

instance : Monad (Program I) where
  pure := .done
  bind := andThen

def perform (c : I.Call) : Program I (I.Answer c) := .call c .done

/-- Runs a program, each call being answered in a monad. -/
def run {m : Type → Type} [Monad m] (answer : (c : I.Call) → m (I.Answer c)) :
    Program I α → m α
  | .done value => pure value
  | .call c next => do (next (← answer c)).run answer

/-- A program whose calls are programs of another interface. -/
def translate (answer : (c : I.Call) → Program J (I.Answer c)) (p : Program I α) : Program J α :=
  p.run answer

@[simp] theorem pure_eq (value : α) : (pure value : Program I α) = .done value := rfl

@[simp] theorem done_bind (value : α) (rest : α → Program I β) :
    (Program.done value >>= rest) = rest value := rfl

@[simp] theorem call_bind (c : I.Call) (next : I.Answer c → Program I α)
    (rest : α → Program I β) :
    (Program.call c next >>= rest) = .call c fun answer => next answer >>= rest := rfl

theorem bind_assoc (p : Program I α) (f : α → Program I β) (g : β → Program I γ) :
    (p >>= f) >>= g = p >>= fun a => f a >>= g := by
  induction p with
  | done value => rfl
  | call c next ih => simp [ih]

theorem bind_done (p : Program I α) : (p >>= fun a => Program.done a) = p := by
  induction p with
  | done value => rfl
  | call c next ih => simp [ih]

instance : LawfulMonad (Program I) :=
  LawfulMonad.mk' _ bind_done (fun _ _ => rfl) bind_assoc

end Program

end Governance
