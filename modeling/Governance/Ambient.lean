import Governance.Identifier
import Governance.Json.Value
import Governance.Time.Instant
import Governance.Uuid

/-!
# What a component draws from its surroundings

Components read the clock, draw random identifiers and report events. The clock is later at every
reading, no number is drawn twice, and events are only ever added. Nothing that a component answers
depends on the events.
-/

namespace Governance

/-- How much an event matters. -/
inductive Level where
  | trace
  | debug
  | info
  | warn
  | error
  deriving DecidableEq, Repr

def Level.word : Level → String
  | .trace => "TRACE"
  | .debug => "DEBUG"
  | .info => "INFO"
  | .warn => "WARN"
  | .error => "ERROR"

/-- Something that a component reports while it works. -/
structure Event where
  level : Level
  message : String
  fields : List (String × Json)
  deriving Repr

/-- The surroundings: the time of the next reading of the clock, the next number to be drawn, and the
events so far, latest first. -/
structure Ambient where
  clock : Instant
  draws : Nat
  events : List Event
  deriving Repr

/-- A component with a state that draws from the surroundings. -/
abbrev Acting (σ : Type) := StateT σ (StateM Ambient)

namespace Ambient

/-- The first of January 2030: surroundings in which nothing has happened. -/
def initial : Ambient := ⟨⟨1893456000, 0⟩, 0, []⟩

/-- The instant a microsecond later. -/
def later (t : Instant) : Instant :=
  if t.nanos + 1000 < 1000000000 then ⟨t.seconds, t.nanos + 1000⟩
  else ⟨t.seconds + 1, t.nanos + 1000 - 1000000000⟩

/-- Every reading of the clock is later than the one before. -/
theorem lt_later (t : Instant) : t.lt (later t) = true := by
  rw [later]
  split <;> simp only [Instant.lt, Bool.or_eq_true, Bool.and_eq_true, decide_eq_true_eq]
  · exact .inr ⟨trivial, by omega⟩
  · exact .inl (by omega)

def now : StateM Ambient Instant := fun a => (a.clock, { a with clock := later a.clock })

def draw : StateM Ambient Nat := fun a => (a.draws, { a with draws := a.draws + 1 })

def uuid : StateM Ambient Uuid := do return Uuid.ofRandom (← draw)

/-- Draws the identifier of a policy or a request. -/
def identifier (kind : IdKind) : StateM Ambient (Identifier kind) := do
  return ⟨(← uuid).render⟩

/-- Draws the identifier of an audit entry: the second of the clock and eight random digits. -/
def auditId : StateM Ambient AuditId := do
  let t ← now
  let n ← draw
  return ⟨"audit_" ++ toString t.seconds.toNat ++ "_" ++ String.ofList (Uuid.hexDigits 8 n)⟩

def emit (level : Level) (message : String) (fields : List (String × Json)) :
    StateM Ambient Unit :=
  fun a => ((), { a with events := ⟨level, message, fields⟩ :: a.events })

def emitAll (events : List Event) : StateM Ambient Unit :=
  fun a => ((), { a with events := events.reverse ++ a.events })

end Ambient

end Governance
