import Governance.Ambient
import Governance.Json.Coded

/-!
# Consoles

A console drives a component by commands, which are JSON objects, and answers in JSON. A session is a
component in a state, and what a command changes stays changed when the command fails. Members that a
command does not have count as null, as empty or as given by default.
-/

namespace Governance.Console

/-- What is said about a command that failed. -/
abbrev Failure := List (String × Json)

/-- A command to a component in a state. -/
abbrev Session (σ : Type) (α : Type) := ExceptT Failure (Acting σ) α

/-- Values that have a written form stand for it in answers. -/
scoped instance {α : Type} [Coded α] : CoeHead α Json := ⟨Coded.toJson⟩

def bare (kind : String) : Failure := [("error", kind)]

def failure (kind message : String) : Failure := [("error", kind), ("message", message)]

def obj (members : List (String × Json)) : Json := .object members

variable {σ τ α : Type}

def fail (kind message : String) : Session σ α := throw (failure kind message)

def failBare (kind : String) : Session σ α := throw (bare kind)

/-! ### Reading commands -/

def member (key : String) (j : Json) : Json := (j.member? key).getD .null

/-- A text of a command, if there is one. -/
def text? (key : String) (j : Json) : Option String :=
  match member key j with
  | .string s => some s
  | _ => none

/-- A text of a command. -/
def text (key : String) (j : Json) : String := (text? key j).getD ""

/-- A text of a command, or another one. -/
def textOr (key default : String) (j : Json) : String := (text? key j).getD default

def items (key : String) (j : Json) : List Json :=
  match member key j with
  | .array values => values
  | _ => []

def flag (key : String) (j : Json) : Bool :=
  match member key j with
  | .bool b => b
  | _ => false

/-- A natural number of a command, if there is one. -/
def nat? (key : String) (j : Json) : Option Nat :=
  match member key j with
  | .number (.integer n) => if n < 0 then none else some n.toNat
  | _ => none

/-- A natural number of a command, or another one. -/
def natOr (key : String) (default : Nat) (j : Json) : Nat := (nat? key j).getD default

def name (j : Json) : String := text "do" j

def decoded [Coded α] (j : Json) : Session σ α :=
  match Coded.ofJson j with
  | .ok a => pure a
  | .error _ => failBare "Deserialize"

def field [Coded α] (key : String) (j : Json) : Session σ α := decoded (member key j)

/-- A member of a command as a value of a type, or another one when it is null. -/
def fieldOr [Coded α] (key : String) (default : α) (j : Json) : Session σ α :=
  match member key j with
  | .null => pure default
  | value => decoded value

/-! ### Running commands -/

def ambient (act : StateM Ambient α) : Session σ α := ExceptT.lift (StateT.lift act)

def report (events : List Event) : Session σ Unit := ambient (Ambient.emitAll events)

def acting (act : Acting σ α) : Session σ α := ExceptT.lift act

def onPart (part : σ → τ) (put : τ → σ → σ) (act : Acting τ α) : Session σ α := do
  let (a, t) ← ambient (act.run (part (← get)))
  modify (put t)
  return a

/-- Does something with another state. -/
def separately (t : τ) (act : Acting τ α) : Session σ α := do
  return (← ambient (act.run t)).1

/-- The answer to a command: its value, or what is said about its failure. -/
def attempt (command : Session σ Json) : Acting σ Failure := do
  match ← command.run with
  | .ok value => return [("ok", value)]
  | .error e => return e

/-- The answers to commands, one after the other. -/
def attemptAll (command : Json → Session σ Json) : List Json → Acting σ (List Json)
  | [] => return []
  | j :: rest => do
    let answer ← attempt (command j)
    return obj answer :: (← attemptAll command rest)

/-- The values of commands, one after the other; the first failure ends the session. -/
def runAll (command : Json → Session σ Json) : List Json → Session σ (List Json)
  | [] => return []
  | j :: rest => do
    let value ← command j
    return value :: (← runAll command rest)

/-- Runs commands on a state of their own. -/
def inSession (t : τ) (act : Session τ α) : Session σ α := do
  match ← separately t act.run with
  | .ok a => return a
  | .error e => throw e

end Governance.Console
