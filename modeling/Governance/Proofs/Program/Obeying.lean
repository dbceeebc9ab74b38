import Governance.Proofs.Program.Acting
import Governance.Program

/-!
# Programs that obey

A program obeys a rule when it makes only calls that it may make, provided that its calls are answered
as it may rely on. Nothing is said of who answers: it can be one store from the first call to the last,
or a store that many programs share, as long as what is relied on holds of every answer. The two uses
are `ensures_run`, for a program that runs by itself, and `Obeys.next`, for one that takes turns.
-/

namespace Governance.Program

variable {I : Interface} {α β σ : Type} {rely : (c : I.Call) → I.Answer c → Prop}
  {may : I.Call → Prop}

/-- A program makes only calls that it may make, and ends with a value of which `post` holds. -/
def Obeys (rely : (c : I.Call) → I.Answer c → Prop) (may : I.Call → Prop) (post : α → Prop) :
    Program I α → Prop
  | .done value => post value
  | .call c next => may c ∧ ∀ answer, rely c answer → Obeys rely may post (next answer)

namespace Obeys

variable {post : α → Prop}

theorem mono {pre : α → Prop} (himp : ∀ value, pre value → post value) {p : Program I α}
    (hp : p.Obeys rely may pre) : p.Obeys rely may post := by
  induction p with
  | done value => exact himp value hp
  | call c next ih => exact ⟨hp.1, fun answer hanswer => ih answer (hp.2 answer hanswer)⟩

theorem of_may {may' : I.Call → Prop} (himp : ∀ c, may c → may' c) {p : Program I α}
    (hp : p.Obeys rely may post) : p.Obeys rely may' post := by
  induction p with
  | done value => exact hp
  | call c next ih => exact ⟨himp c hp.1, fun answer hanswer => ih answer (hp.2 answer hanswer)⟩

theorem bind {post : β → Prop} {p : Program I α} {f : α → Program I β}
    (hp : p.Obeys rely may fun value => (f value).Obeys rely may post) :
    (p >>= f).Obeys rely may post := by
  induction p with
  | done value => exact hp
  | call c next ih => exact ⟨hp.1, fun answer hanswer => ih answer (hp.2 answer hanswer)⟩

/-- What is left of a program after its next call was answered as it relies on. -/
theorem next {c : I.Call} {next : I.Answer c → Program I α}
    (hp : (Program.call c next).Obeys rely may post) {answer : I.Answer c}
    (hanswer : rely c answer) : (next answer).Obeys rely may post :=
  hp.2 answer hanswer

end Obeys

/-- What every call keeps that a program may make, the program keeps. -/
theorem ensures_run {answer : (c : I.Call) → Acting σ (I.Answer c)} {P : σ → Prop}
    (hanswer : ∀ c s, may c → P s → (answer c).Ensures s fun value s' => rely c value ∧ P s')
    {post : α → Prop} {p : Program I α} (hp : p.Obeys rely may post) {s : σ} (hs : P s) :
    (p.run answer).Ensures s fun value s' => post value ∧ P s' := by
  induction p generalizing s with
  | done value => exact .pure ⟨hp, hs⟩
  | call c next ih =>
    refine .bind ((hanswer c s hp.1 hs).mono ?_)
    rintro value s' ⟨hvalue, hs'⟩
    exact ih value (hp.2 value hvalue) hs'

theorem run_bind {m : Type → Type} [Monad m] [LawfulMonad m]
    (answer : (c : I.Call) → m (I.Answer c)) (p : Program I α) (f : α → Program I β) :
    (p >>= f).run answer = p.run answer >>= fun value => (f value).run answer := by
  induction p with
  | done value => simp [run]
  | call c next ih => simp [run, ih]

/-!
## Programs that keep an account

An account stands beside a program and is carried on with every call, by what the call is answered. It
is nothing that the program computes; it says what the program may do next and why. A call must be
covered by the account as it stands, and whatever the answer is, there must be a way to carry on.
-/

section Accounts

variable {G : Type}

/-- Which calls an account covers, and what the answer to a call makes of it. -/
structure Ledger (I : Interface) (G : Type) where
  covers : G → I.Call → Prop
  carries : G → (c : I.Call) → I.Answer c → G → Prop

variable {L : Ledger I G} {g : G}

/-- Every call of a program is covered by its account, which ends as `post` says. -/
def Tracks (L : Ledger I G) (post : G → α → Prop) : G → Program I α → Prop
  | g, .done value => post g value
  | g, .call c next =>
    L.covers g c ∧ ∀ answer, ∃ g', L.carries g c answer g' ∧ Tracks L post g' (next answer)

namespace Tracks

theorem mono {pre post : G → α → Prop} (himp : ∀ g value, pre g value → post g value)
    {p : Program I α} (hp : p.Tracks L pre g) : p.Tracks L post g := by
  induction p generalizing g with
  | done value => exact himp g value hp
  | call c next ih =>
    refine ⟨hp.1, fun answer => ?_⟩
    obtain ⟨g', hcarries, hnext⟩ := hp.2 answer
    exact ⟨g', hcarries, ih answer hnext⟩

theorem bind {post : G → β → Prop} {p : Program I α} {f : α → Program I β}
    (hp : p.Tracks L (fun g value => (f value).Tracks L post g) g) : (p >>= f).Tracks L post g := by
  induction p generalizing g with
  | done value => exact hp
  | call c next ih =>
    refine ⟨hp.1, fun answer => ?_⟩
    obtain ⟨g', hcarries, hnext⟩ := hp.2 answer
    exact ⟨g', hcarries, ih answer hnext⟩

/-- A program that makes only calls which do not touch the account keeps it. -/
theorem of_obeys {rely : (c : I.Call) → I.Answer c → Prop} {may : I.Call → Prop} {post : α → Prop}
    (hrely : ∀ c answer, rely c answer) (hcovers : ∀ c, may c → L.covers g c)
    (hcarries : ∀ c answer, may c → L.carries g c answer g) {p : Program I α}
    (hp : p.Obeys rely may post) : p.Tracks L (fun g' _ => g' = g) g := by
  induction p with
  | done value => rfl
  | call c next ih =>
    refine ⟨hcovers c hp.1, fun answer => ⟨g, hcarries c answer hp.1, ?_⟩⟩
    exact ih answer (hp.2 answer (hrely c answer))

end Tracks

end Accounts

end Governance.Program
