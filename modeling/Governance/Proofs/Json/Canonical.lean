import Mathlib.Data.String.Basic
import Governance.Json.Decoder

/-!
# Objects as maps

Reading any value turns its objects into maps, whose members stand in the order of their keys. A value
whose objects are maps already is read as it is, and what was read once is such a value.
-/

namespace Governance.Json

/-- Every object of a value is a map. -/
def IsCanonical (j : Json) : Prop := j.canonical = j

/-- The keys of members ascend, so that none stands twice. -/
def Ascending (members : List (String × Json)) : Prop := members.Pairwise fun m n => m.1 < n.1

section Members

variable {key : String} {value : Json} {members entered : List (String × Json)}

theorem insertMember_of_lt (hlast : ∀ m ∈ entered, m.1 < key) :
    insertMember key value entered = entered ++ [(key, value)] := by
  induction entered with
  | nil => rfl
  | cons m rest ih =>
    have hm : m.1 < key := hlast m List.mem_cons_self
    rw [insertMember, if_neg hm.not_gt, if_neg hm.ne', ih fun n hn => hlast n (List.mem_cons_of_mem m hn)]
    rfl

theorem mem_insertMember {m : String × Json} (hm : m ∈ insertMember key value entered) :
    m = (key, value) ∨ m ∈ entered := by
  induction entered with
  | nil => exact .inl (List.mem_singleton.1 hm)
  | cons n rest ih =>
    rw [insertMember] at hm
    split at hm
    · exact List.mem_cons.1 hm
    split at hm
    · exact (List.mem_cons.1 hm).imp_right (List.mem_cons_of_mem n)
    · rcases List.mem_cons.1 hm with rfl | hlater
      · exact .inr List.mem_cons_self
      · exact (ih hlater).imp_right (List.mem_cons_of_mem n)

theorem ascending_insertMember (hentered : Ascending entered) :
    Ascending (insertMember key value entered) := by
  induction entered with
  | nil => exact List.pairwise_singleton _ _
  | cons n rest ih =>
    obtain ⟨hfirst, hrest⟩ := List.pairwise_cons.1 hentered
    rw [insertMember]
    split
    · rename_i hkey
      refine List.pairwise_cons.2 ⟨fun m hm => ?_, hentered⟩
      rcases List.mem_cons.1 hm with rfl | hlater
      · exact hkey
      · exact hkey.trans (hfirst m hlater)
    split
    · rename_i hkey
      refine List.pairwise_cons.2 ⟨fun m hm => ?_, hrest⟩
      rw [hkey]
      exact hfirst m hm
    · rename_i hnot hne
      refine List.pairwise_cons.2 ⟨fun m hm => ?_, ih hrest⟩
      rcases mem_insertMember hm with rfl | hlater
      · exact lt_of_le_of_ne (not_lt.1 hnot) (Ne.symm hne)
      · exact hfirst m hlater

theorem ascending_canonicalMembers (hentered : Ascending entered) :
    Ascending (canonicalMembers members entered) := by
  induction members generalizing entered with
  | nil => exact hentered
  | cons m rest ih => exact ih (ascending_insertMember hentered)

/-- Members that ascend are entered one behind the other. -/
theorem canonicalMembers_eq_append (hascending : Ascending (entered ++ members))
    (hvalues : ∀ m ∈ members, m.2.IsCanonical) :
    canonicalMembers members entered = entered ++ members := by
  induction members generalizing entered with
  | nil => exact (List.append_nil entered).symm
  | cons m rest ih =>
    have hvalue : m.2.canonical = m.2 := hvalues m List.mem_cons_self
    have hlast : ∀ n ∈ entered, n.1 < m.1 := fun n hn =>
      (List.pairwise_append.1 hascending).2.2 n hn m List.mem_cons_self
    have hmoved : entered ++ m :: rest = (entered ++ [m]) ++ rest := List.append_cons entered m rest
    rw [canonicalMembers, hvalue, insertMember_of_lt hlast, hmoved]
    exact ih (hmoved ▸ hascending) fun n hn => hvalues n (List.mem_cons_of_mem m hn)

end Members

mutual

/-- What was read once stays as it is when it is read again. -/
theorem isCanonical_canonical : (j : Json) → j.canonical.IsCanonical
  | .null => rfl
  | .bool _ => rfl
  | .number _ => rfl
  | .string _ => rfl
  | .array items => congrArg Json.array (canonicalItems_canonicalItems items)
  | .object members =>
    congrArg Json.object (canonicalMembers_eq_append (ascending_canonicalMembers List.Pairwise.nil)
      (isCanonical_canonicalMembers members [] nofun))

theorem canonicalItems_canonicalItems :
    (items : List Json) → canonicalItems (canonicalItems items) = canonicalItems items
  | [] => rfl
  | item :: rest =>
    congrArg₂ List.cons (isCanonical_canonical item) (canonicalItems_canonicalItems rest)

theorem isCanonical_canonicalMembers : (members entered : List (String × Json)) →
    (∀ m ∈ entered, m.2.IsCanonical) → ∀ m ∈ canonicalMembers members entered, m.2.IsCanonical
  | [], _, hentered => hentered
  | (_, value) :: rest, entered, hentered => by
    refine isCanonical_canonicalMembers rest _ fun m hm => ?_
    rcases mem_insertMember hm with rfl | hold
    · exact isCanonical_canonical value
    · exact hentered m hold

end

end Governance.Json
