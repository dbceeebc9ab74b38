import Mathlib.Data.List.Nodup
import Governance.Json.Coded
import Governance.Proofs.Json.Tokens

/-!
# Reading records

A record is written as an object, from which fields that are empty are left out, and is read field by
field. What a field holds is all that its reader sees of the record, so there is one lemma for each way
of reading a field, and records are read with these.
-/

namespace Governance.Json

variable {α β ε ε' : Type}

/-! ### Readers that do not fail -/

theorem bind_eq_ok {x : Except ε α} {f : α → Except ε β} {b : β} :
    (x >>= f) = .ok b ↔ ∃ a, x = .ok a ∧ f a = .ok b := by
  cases x with
  | error e =>
    constructor
    · intro h
      cases h
    · rintro ⟨a, h, _⟩
      cases h
  | ok a =>
    constructor
    · intro h
      exact ⟨a, rfl, h⟩
    · rintro ⟨_, h, hf⟩
      cases h
      exact hf

theorem map_eq_ok {x : Except ε α} {f : α → β} {b : β} :
    f <$> x = .ok b ↔ ∃ a, x = .ok a ∧ f a = b := by
  cases x with
  | error e => simp [Functor.map, Except.map]
  | ok a => simp [Functor.map, Except.map]

theorem mapError_eq_ok {x : Except ε α} {f : ε → ε'} {a : α} : x.mapError f = .ok a ↔ x = .ok a := by
  cases x <;> simp [Except.mapError]

/-! ### Lists -/

theorem decodeItems_map {decode : Decoder β} {encode : α → Json} {f : α → β} {items : List α}
    (h : ∀ a ∈ items, decode (encode a) = .ok (f a)) (index : Nat) :
    decodeItems decode index (items.map encode) = .ok (items.map f) := by
  induction items generalizing index with
  | nil => rfl
  | cons a rest ih =>
    have hfirst : within (toString index) (decode (encode a)) = .ok (f a) := by
      rw [h a List.mem_cons_self]
      rfl
    have hrest := ih (fun b hb => h b (List.mem_cons_of_mem a hb)) (index + 1)
    exact bind_eq_ok.2 ⟨f a, hfirst, bind_eq_ok.2 ⟨rest.map f, hrest, rfl⟩⟩

theorem asList_ofList {decode : Decoder β} {encode : α → Json} {f : α → β} {items : List α}
    (h : ∀ a ∈ items, decode (encode a) = .ok (f a)) :
    asList decode (ofList items encode) = .ok (items.map f) :=
  decodeItems_map h 0

theorem asList_ofList_self {decode : Decoder α} {encode : α → Json} {items : List α}
    (h : ∀ a ∈ items, decode (encode a) = .ok a) :
    asList decode (ofList items encode) = .ok items := by
  rw [asList_ofList h, List.map_id']

theorem exists_of_mem_decodeItems {decode : Decoder α} {values : List Json} {items : List α}
    {index : Nat} (h : decodeItems decode index values = .ok items) {a : α} (ha : a ∈ items) :
    ∃ j, decode j = .ok a := by
  induction values generalizing index items with
  | nil =>
    cases h
    cases ha
  | cons value rest ih =>
    obtain ⟨first, hfirst, h⟩ := bind_eq_ok.1 h
    obtain ⟨others, hothers, h⟩ := bind_eq_ok.1 h
    cases h
    rcases List.mem_cons.1 ha with rfl | hlater
    · cases hvalue : decode value with
      | error e =>
        rw [hvalue] at hfirst
        cases hfirst
      | ok b =>
        rw [hvalue] at hfirst
        cases hfirst
        exact ⟨value, hvalue⟩
    · exact ih hothers hlater

theorem exists_of_mem_asList {decode : Decoder α} {j : Json} {items : List α}
    (h : asList decode j = .ok items) {a : α} (ha : a ∈ items) : ∃ j', decode j' = .ok a := by
  cases j with
  | array values => exact exists_of_mem_decodeItems h ha
  | _ => cases h

/-! ### Numbers -/

theorem asInt32_ofInt (n : Int32) : asInt32 (ofInt n.toInt) = .ok n := by
  have hbounds : (Int32.minValue.toInt ≤ n.toInt && n.toInt ≤ Int32.maxValue.toInt) = true := by
    rw [Bool.and_eq_true, decide_eq_true_eq, decide_eq_true_eq]
    exact ⟨n.minValue_le_toInt, n.toInt_le⟩
  rw [asInt32, ofInt, asInteger, if_pos hbounds]
  exact congrArg Except.ok (Int32.ofInt_toInt n)

theorem asInteger_ofNat {n : Nat} (hn : n < UInt64.size) :
    asInteger 0 (UInt64.size - 1 : Nat) (ofNat n) = .ok n := by
  have hbounds : (0 ≤ (n : Int) && (n : Int) ≤ (UInt64.size - 1 : Nat)) = true := by
    rw [Bool.and_eq_true, decide_eq_true_eq, decide_eq_true_eq]
    omega
  rw [ofNat, asInteger, if_pos hbounds]

theorem asUInt64_ofNat (n : UInt64) : asUInt64 (ofNat n.toNat) = .ok n := by
  rw [asUInt64, asInteger_ofNat n.toNat_lt_size]
  exact congrArg Except.ok UInt64.ofNat_toNat

theorem asFloat_ofFloat {x : Float} (hx : x.isFinite) : asFloat (ofFloat x) = .ok x := by
  rw [ofFloat, if_pos hx]
  rfl

theorem isFinite_of_asFloat {x y : Float} (h : asFloat (ofFloat x) = .ok y) : x.isFinite := by
  by_contra hx
  rw [ofFloat, if_neg hx] at h
  cases h

/-! ### Writing records -/

/-- The members of a record of which some fields are left out. -/
def present (fields : List (String × Option Json)) : List (String × Json) :=
  fields.filterMap fun field => field.2.map (field.1, ·)

theorem present_append (fields others : List (String × Option Json)) :
    present (fields ++ others) = present fields ++ present others :=
  List.filterMap_append

theorem entry_eq (name : String) (j : Json) : entry name j = present [(name, some j)] := rfl

theorem entryIfSome_eq (name : String) (value : Option α) (encode : α → Json) :
    entryIfSome name value encode = present [(name, value.map encode)] := by
  cases value <;> rfl

theorem entryUnless_eq (empty : Bool) (name : String) (j : Json) :
    entryUnless empty name j = present [(name, if empty then none else some j)] := by
  cases empty <;> rfl

/-- A record that is written field by field is the object of the fields that are present. -/
theorem ofEntries_present (fields : List (String × Option Json)) :
    ofEntries (fields.map fun field => present [field]) = .object (present fields) := by
  have hflatten : (fields.map fun field => present [field]).flatten = present fields := by
    induction fields with
    | nil => rfl
    | cons field rest ih =>
      rw [List.map_cons, List.flatten_cons, ih, ← present_append]
      rfl
  exact congrArg Json.object hflatten

section Present

variable {fields : List (String × Option Json)} {name : String} {value : Option Json}

theorem keys_present_sublist : ((present fields).map (·.1)).Sublist (fields.map (·.1)) := by
  induction fields with
  | nil => exact List.Sublist.refl _
  | cons field rest ih =>
    obtain ⟨key, _ | j⟩ := field
    · exact ih.cons key
    · exact ih.cons_cons key

theorem lookup_of_not_mem {members : List (String × Json)} (hname : name ∉ members.map (·.1)) :
    lookup name members = none := by
  induction members with
  | nil => rfl
  | cons m rest ih =>
    rw [List.map_cons, List.mem_cons, not_or] at hname
    rw [lookup, if_neg (Ne.symm hname.1), ih hname.2]

theorem lookup_present (hdistinct : (fields.map (·.1)).Nodup) (hfield : (name, value) ∈ fields) :
    lookup name (present fields) = value := by
  induction fields with
  | nil => cases hfield
  | cons field rest ih =>
    obtain ⟨key, content⟩ := field
    rw [List.map_cons, List.nodup_cons] at hdistinct
    obtain ⟨hfresh, hrest⟩ := hdistinct
    rcases List.mem_cons.1 hfield with hhere | hlater
    · cases hhere
      cases value with
      | none => exact lookup_of_not_mem fun h => hfresh (keys_present_sublist.subset h)
      | some j => exact if_pos rfl
    · have hne : key ≠ name := by
        rintro rfl
        exact hfresh (List.mem_map.2 ⟨_, hlater, rfl⟩)
      cases content with
      | none => exact ih hrest hlater
      | some j => exact (if_neg hne).trans (ih hrest hlater)

theorem distinctNames_of_nodup {names : List String} {members : List (String × Json)}
    (hdistinct : (members.map (·.1)).Nodup) : distinctNames names members = true := by
  induction members with
  | nil => rfl
  | cons m rest ih =>
    rw [List.map_cons, List.nodup_cons] at hdistinct
    have hnone : rest.any (·.1 == m.1) = false := by
      rw [List.any_eq_false]
      intro n hn hsame
      exact hdistinct.1 (List.mem_map.2 ⟨n, hn, by simpa using hsame⟩)
    rw [distinctNames, hnone, ih hdistinct.2]
    simp

theorem asFields_present {names : List String} (hdistinct : (fields.map (·.1)).Nodup) :
    asFields names (.object (present fields)) = .ok (.named (present fields)) :=
  if_pos (distinctNames_of_nodup (hdistinct.sublist keys_present_sublist))

end Present

/-! ### Reading fields -/

theorem asOption_of_ne_null {decode : Decoder α} {j : Json} (hnull : j ≠ .null) :
    asOption decode j = (decode j).map some := by
  cases j with
  | null => exact absurd rfl hnull
  | _ => rfl

namespace Fields

variable {fields : Fields} {name : String} {decode : Decoder α} {value : α} {j : Json}

theorem orElse_of_some (hfound : fields.find? name = some j) (hvalue : decode j = .ok value)
    (other : α) : fields.orElse name other decode = .ok value := by
  unfold orElse
  rw [hfound]
  dsimp only
  rw [hvalue]
  cases fields <;> rfl

theorem required_of_some (hfound : fields.find? name = some j) (hvalue : decode j = .ok value) :
    fields.required name decode = .ok value := by
  unfold required
  rw [hfound]
  dsimp only
  rw [hvalue]
  cases fields <;> rfl

theorem orElse_of_none (hfound : fields.find? name = none) (other : α) :
    fields.orElse name other decode = .ok other := by
  unfold orElse
  rw [hfound]

theorem orElse_of_unless {items : List β} {decode : Decoder (List β)}
    (hfound : fields.find? name = if items.isEmpty then none else some j)
    (hitems : decode j = .ok items) : fields.orElse name [] decode = .ok items := by
  split at hfound
  · rename_i hempty
    rw [List.isEmpty_iff.1 hempty]
    exact orElse_of_none hfound []
  · exact orElse_of_some hfound hitems []

theorem optional_of_map {given : Option α} {encode : α → Json}
    (hfound : fields.find? name = given.map encode)
    (hread : ∀ a ∈ given, encode a ≠ .null ∧ decode (encode a) = .ok a) :
    fields.optional name decode = .ok given := by
  cases given with
  | none => exact orElse_of_none hfound none
  | some a =>
    obtain ⟨hnull, hvalue⟩ := hread a rfl
    refine orElse_of_some hfound ?_ none
    rw [asOption_of_ne_null hnull, hvalue]
    rfl

theorem optional_asString {given : Option String} (hfound : fields.find? name = given.map .string) :
    fields.optional name asString = .ok given :=
  optional_of_map hfound fun _ _ => ⟨nofun, rfl⟩

/-- A field that was required has no need of a value for its absence. -/
theorem orElse_of_required (h : fields.required name decode = .ok value) (other : α) :
    fields.orElse name other decode = .ok value := by
  unfold required at h
  unfold orElse
  cases hfound : fields.find? name with
  | none =>
    rw [hfound] at h
    cases h
  | some j =>
    rw [hfound] at h
    exact h

theorem eq_or_exists_of_orElse {other : α} (h : fields.orElse name other decode = .ok value) :
    value = other ∨ ∃ j, decode j = .ok value := by
  unfold orElse at h
  split at h
  · rename_i j hfound
    right
    cases hvalue : decode j with
    | error e =>
      rw [hvalue] at h
      cases fields <;> cases h
    | ok a =>
      rw [hvalue] at h
      refine ⟨j, ?_⟩
      cases fields <;> (cases h; exact hvalue)
  · exact .inl (Except.ok.inj h).symm

theorem decode_of_required (hfound : fields.find? name = some j)
    (h : fields.required name decode = .ok value) : decode j = .ok value := by
  unfold required at h
  rw [hfound] at h
  dsimp only at h
  cases hvalue : decode j with
  | error e =>
    rw [hvalue] at h
    cases fields <;> cases h
  | ok a =>
    rw [hvalue] at h
    cases fields <;> (cases h; rfl)

theorem exists_of_required (h : fields.required name decode = .ok value) :
    ∃ j, decode j = .ok value := by
  cases hfound : fields.find? name with
  | none =>
    unfold required at h
    rw [hfound] at h
    cases h
  | some j => exact ⟨j, decode_of_required hfound h⟩

theorem exists_of_optional {given : Option α} (h : fields.optional name decode = .ok given)
    (hgiven : value ∈ given) : ∃ j, decode j = .ok value := by
  cases hgiven
  rcases eq_or_exists_of_orElse h with hnone | ⟨j, hj⟩
  · cases hnone
  · cases j with
    | null => cases hj
    | _ =>
      obtain ⟨_, hj, hsome⟩ := map_eq_ok.1 hj
      cases hsome
      exact ⟨_, hj⟩

/-- A field that is there and not null was read, although it could have been left out. -/
theorem exists_decode_of_optional {given : Option α} (hfound : fields.find? name = some j)
    (hnull : j ≠ .null) (h : fields.optional name decode = .ok given) :
    ∃ a, decode j = .ok a := by
  have hread : fields.required name (asOption decode) = .ok given := by
    unfold optional orElse at h
    unfold required
    rw [hfound] at h ⊢
    exact h
  have hvalue := decode_of_required hfound hread
  rw [asOption_of_ne_null hnull] at hvalue
  obtain ⟨a, ha, -⟩ := map_eq_ok.1 hvalue
  exact ⟨a, ha⟩

theorem forall_of_required {decode : Decoder α} {P : α → Prop} {items : List α}
    (hread : ∀ j a, decode j = .ok a → P a)
    (h : fields.required name (asList decode) = .ok items) : ∀ a ∈ items, P a := by
  intro a ha
  obtain ⟨j, hj⟩ := exists_of_required h
  obtain ⟨j', hj'⟩ := exists_of_mem_asList hj ha
  exact hread j' a hj'

/-- What holds of every item that is read holds of the items of a list that may be left out. -/
theorem forall_of_orElse {decode : Decoder α} {P : α → Prop} {items : List α}
    (hread : ∀ j a, decode j = .ok a → P a)
    (h : fields.orElse name [] (asList decode) = .ok items) : ∀ a ∈ items, P a := by
  intro a ha
  rcases eq_or_exists_of_orElse h with rfl | ⟨j, hj⟩
  · cases ha
  · obtain ⟨j', hj'⟩ := exists_of_mem_asList hj ha
    exact hread j' a hj'

theorem forall_of_optional {decode : Decoder α} {P : α → Prop} {given : Option (List α)}
    (hread : ∀ j a, decode j = .ok a → P a)
    (h : fields.optional name (asList decode) = .ok given) :
    ∀ items, given = some items → ∀ a ∈ items, P a := by
  rintro items rfl a ha
  rcases eq_or_exists_of_orElse h with hnone | ⟨j, hj⟩
  · cases hnone
  · have hnull : j ≠ .null := by
      rintro rfl
      cases hj
    rw [asOption_of_ne_null hnull] at hj
    obtain ⟨_, hj, hsome⟩ := map_eq_ok.1 hj
    cases hsome
    obtain ⟨j', hj'⟩ := exists_of_mem_asList hj ha
    exact hread j' a hj'

end Fields

/-! ### Records as texts -/

section Texts

variable {room : Nat}

theorem readable_present {fields : List (String × Option Json)}
    (hfields : ∀ f ∈ fields, ∀ j ∈ f.2, Readable room j) :
    Readable (room + 1) (.object (present fields)) := by
  refine .object fun m hm => ?_
  obtain ⟨f, hf, hfm⟩ := List.mem_filterMap.1 hm
  obtain ⟨j, hj, rfl⟩ := Option.map_eq_some_iff.1 hfm
  exact hfields f hf j hj

theorem readable_ofList {encode : α → Json} {items : List α}
    (hitems : ∀ a ∈ items, Readable room (encode a)) :
    Readable (room + 1) (ofList items encode) := by
  refine .array fun j hj => ?_
  obtain ⟨a, ha, rfl⟩ := List.mem_map.1 hj
  exact hitems a ha

theorem readable_ofStrings (texts : List String) : Readable (room + 1) (ofStrings texts) :=
  readable_ofList fun s _ => .string s

theorem readable_ofNat {n : Nat} (hn : n < UInt64.size) : Readable room (ofNat n) := by
  have hlowest : Int64.minValue.toInt ≤ 0 := by decide
  refine .number (readsBack_integer ?_)
  rw [Number.isExact, Bool.and_eq_true, decide_eq_true_eq, decide_eq_true_eq]
  exact ⟨Int.le_trans hlowest (Int.natCast_nonneg n), Int.ofNat_lt.2 hn⟩

theorem readable_ofInt32 (n : Int32) : Readable room (ofInt n.toInt) := by
  have hlowest : Int64.minValue.toInt ≤ Int32.minValue.toInt := by decide
  have hhighest : Int32.maxValue.toInt < (UInt64.size : Nat) := by decide
  refine .number (readsBack_integer ?_)
  rw [Number.isExact, Bool.and_eq_true, decide_eq_true_eq, decide_eq_true_eq]
  exact ⟨Int.le_trans hlowest n.minValue_le_toInt, Int.lt_of_le_of_lt n.toInt_le hhighest⟩

theorem readable_ofFloat {x : Float} (hx : Number.ReadsBack (.real x)) :
    Readable room (ofFloat x) := by
  unfold ofFloat
  split
  · exact .number hx
  · exact .null

/-- A value that can be decoded is decoded from its text as well, whatever the decoder looks at. -/
theorem readAs_render (interest : Interest) {decode : Decoder α} {j : Json} {a : α}
    (hj : Readable depthLimit j) (hdecode : decode j = .ok a) :
    readAs interest decode j.render = .ok a := by
  rw [readAs, render, String.toList_ofList, readFor_text interest hj]
  dsimp only
  rw [hdecode]

end Texts

end Governance.Json
