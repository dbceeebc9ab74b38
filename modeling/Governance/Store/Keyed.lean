/-!
# Keyed collections

A list of values under distinct keys, in the order in which the keys came in. `get?` is the view: what
every operation does is said by what `get?` answers afterwards.
-/

namespace Governance

/-- Values under keys. -/
structure Keyed (κ α : Type) where
  entries : List (κ × α)
  deriving Repr

namespace Keyed

variable {κ α : Type} [DecidableEq κ]

def empty : Keyed κ α := ⟨[]⟩

/-- The value under a key in a list of entries. -/
def find (key : κ) : List (κ × α) → Option α
  | [] => none
  | (other, value) :: rest => if other = key then some value else find key rest

/-- The entries with another value under a key, which joins them at the end when it is new. -/
def enter (key : κ) (value : α) : List (κ × α) → List (κ × α)
  | [] => [(key, value)]
  | (other, old) :: rest =>
    if other = key then (key, value) :: rest else (other, old) :: enter key value rest

def get? (s : Keyed κ α) (key : κ) : Option α := find key s.entries

/-- Puts a value under a key, in the place of the one that was there. -/
def put (s : Keyed κ α) (key : κ) (value : α) : Keyed κ α := ⟨enter key value s.entries⟩

/-- Takes a key away. -/
def erase (s : Keyed κ α) (key : κ) : Keyed κ α := ⟨s.entries.filter fun e => e.1 ≠ key⟩

/-- The values in the order of their keys. -/
def values (s : Keyed κ α) : List α := s.entries.map (·.2)

@[simp] theorem get?_empty (key : κ) : (empty : Keyed κ α).get? key = none := rfl

theorem find_enter (key other : κ) (value : α) (entries : List (κ × α)) :
    find other (enter key value entries) =
      if key = other then some value else find other entries := by
  induction entries with
  | nil => rfl
  | cons e rest ih =>
    obtain ⟨k, v⟩ := e
    by_cases h : k = key
    · subst h
      by_cases ho : k = other <;> simp [enter, find, ho]
    · by_cases ho : k = other
      · subst ho
        simp [enter, find, h, Ne.symm h]
      · simp [enter, find, h, ho, ih]

/-- A collection answers with the value that was put last. -/
theorem get?_put (s : Keyed κ α) (key other : κ) (value : α) :
    (s.put key value).get? other = if key = other then some value else s.get? other :=
  find_enter key other value s.entries

theorem find_filter (key other : κ) (entries : List (κ × α)) :
    find other (entries.filter fun e => e.1 ≠ key) =
      if key = other then none else find other entries := by
  induction entries with
  | nil => simp [find]
  | cons e rest ih =>
    obtain ⟨k, v⟩ := e
    by_cases h : k = key
    · subst h
      by_cases ho : k = other <;> simp_all [find]
    · by_cases ho : k = other
      · subst ho
        simp [find, h, Ne.symm h]
      · simp_all [find]

/-- A key that was taken away has no value, and nothing else changes. -/
theorem get?_erase (s : Keyed κ α) (key other : κ) :
    (s.erase key).get? other = if key = other then none else s.get? other :=
  find_filter key other s.entries

end Keyed

end Governance
