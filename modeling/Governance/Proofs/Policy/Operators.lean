import Governance.Policy.Matching
import Governance.Proofs.Text.Lowercase

/-!
# What the operators mean

Which texts are found in facts, and how the operators hang together.
-/

namespace Governance

/-!
## Texts that facts contain

A condition that asks whether a fact contains a text puts both into lower case first. A text that has the
same lower case wherever it stands is found wherever it stands character for character, and every text
without a capital sigma is such a text. Of any other text there is an occurrence that is not found: one
next to a letter, where a sigma of the text no longer ends a word or has come to end one.
-/

open Text

namespace Condition

variable {field text : String} {operand : Json} {r : Request}

/-- A condition on a fact that is there is decided by the text of the fact. -/
theorem holds_of_render (op : Operator) (hfact : (r.fact field).render = some text) (value : Json) :
    (Condition.mk field op.word value).holds r = op.holds text value := by
  unfold Request.fact at hfact
  unfold holds
  cases haddress : Address.ofField? field with
  | none =>
    rw [haddress] at hfact
    cases hfact
  | some address =>
    rw [haddress] at hfact
    simp only [Operator.ofWord?_word, hfact]

/-- What all operators that look for a text in a fact say when the text is found. -/
structure Finds (r : Request) (field : String) (operand : Json) : Prop where
  contains : (Condition.mk field "contains" operand).holds r = true
  containsAny : ∀ operands, operand ∈ operands →
    (Condition.mk field "contains_any" (.array operands)).holds r = true
  notContains : (Condition.mk field "not_contains" operand).holds r = false

/-- The three operators agree: they look for the lower case of the operand in that of the fact. -/
theorem finds_iff (hfact : (r.fact field).render = some text) :
    Finds r field operand ↔ occursFolded (operandText operand) text = true := by
  have hcontains := holds_of_render .contains hfact operand
  constructor
  · intro hfinds
    exact hcontains.symm.trans hfinds.contains
  · intro hoccurs
    refine ⟨hcontains.trans hoccurs, ?_, ?_⟩
    · intro operands hmem
      have hany := holds_of_render .containsAny hfact (.array operands)
      exact hany.trans (List.any_eq_true.2 ⟨_, List.mem_map_of_mem hmem, hoccurs⟩)
    · have hnot := holds_of_render .notContains hfact operand
      exact hnot.trans (by simp [Operator.holds, hoccurs])

theorem render_query (query : String) :
    ((Request.plain ⟨"acme"⟩ query).fact "query").render = some query :=
  congrArg some String.ofList_toList

/-- A text is found in every fact in which it stands character for character if and only if it has the
same lower case wherever it stands, which every text without a capital sigma has. -/
theorem literal_found_iff_steady (needle : String) :
    ((∀ (r : Request) (field text : String) (operand : Json),
        (r.fact field).render = some text → operandText operand = needle →
        needle.toList <:+: text.toList → Finds r field operand) ↔
      isSteady needle.toList = true) ∧
    (capitalSigma ∉ needle.toList → isSteady needle.toList = true) := by
  refine ⟨⟨fun hfound => ?_, fun hsteady r field text operand hfact hneedle hwithin => ?_⟩,
    fun hnone => isSteadyAfter_of_not_mem hnone []⟩
  · rw [isSteady_iff]
    intro cs hwithin
    have hquery := render_query (String.ofList cs)
    have hfinds := hfound _ "query" _ (.string needle) hquery rfl (by rwa [String.toList_ofList])
    have hoccurs := (finds_iff hquery).1 hfinds
    rwa [operandText, occursFolded, String.toList_ofList] at hoccurs
  · rw [finds_iff hfact, hneedle]
    exact occurs_lowercase_of_isSteady hsteady hwithin

/-- The sigma of this text ends a word, wherever the text stands. -/
theorem finds_ended_word :
    "totalΣ is".toList <:+: "the totalΣ is high".toList ∧ isSteady "totalΣ is".toList = true ∧
      Finds (.plain ⟨"acme"⟩ "the totalΣ is high") "query" (.string "totalΣ is") := by
  have hwithin : "totalΣ is".toList <:+: "the totalΣ is high".toList :=
    ⟨"the ".toList, " high".toList, by decide +kernel⟩
  have hsteady : isSteady "totalΣ is".toList = true := by decide +kernel
  have hfound := (literal_found_iff_steady "totalΣ is").1.2 hsteady
  exact ⟨hwithin, hsteady, hfound _ "query" "the totalΣ is high" _ (render_query _) rfl hwithin⟩

/-- A word that ends in a sigma is not found at the beginning of a longer one. -/
theorem longer_word_hides :
    "totalΣ".toList <:+: "totalΣtax".toList ∧
      ((Request.plain ⟨"acme"⟩ "totalΣtax").fact "query").render = some "totalΣtax" ∧
      (Condition.mk "query" "contains" (.string "totalΣ")).holds
        (.plain ⟨"acme"⟩ "totalΣtax") = false ∧
      (Condition.mk "query" "contains_any" (.array [.string "totalΣ"])).holds
        (.plain ⟨"acme"⟩ "totalΣtax") = false ∧
      (Condition.mk "query" "not_contains" (.string "totalΣ")).holds
        (.plain ⟨"acme"⟩ "totalΣtax") = true :=
  ⟨⟨[], "tax".toList, by decide +kernel⟩, render_query _, by decide +kernel⟩

end Condition

/-!
## How the operators hang together

Three operators are the negations of three others, and those that take a list ask about the values of the
list one by one. This is so of every fact, and of a fact that is missing too: no operator finds it, and
every negated one is content. A field that addresses nothing satisfies no operator at all. And a fact that
comes out of a JSON value is told by that value, for the value has the same text as an operand.
-/

open Json Text

/-! ### What can be addressed -/

/-- A field that names something a request may have. -/
def Addressable (field : String) : Prop :=
  field = "query" ∨ field = "request_type" ∨ "user.".toList <+: field.toList ∨
    "context.".toList <+: field.toList

theorem isSome_afterStart? {start text : String} :
    (afterStart? start text).isSome = true ↔ start.toList <+: text.toList := by
  unfold afterStart?
  rw [← List.isPrefixOf_iff_prefix]
  split <;> simp_all

theorem afterStart?_append (start rest : String) : afterStart? start (start ++ rest) = some rest := by
  have hstart : start.toList.isPrefixOf (start ++ rest).toList = true := by
    rw [List.isPrefixOf_iff_prefix, String.toList_append]
    exact List.prefix_append _ _
  rw [afterStart?, if_pos hstart, String.toList_append, List.drop_left' String.length_toList,
    String.ofList_toList]

theorem isAddressable_iff {field : String} : isAddressable field = true ↔ Addressable field := by
  unfold isAddressable Addressable Address.ofField?
  rw [← isSome_afterStart?, ← isSome_afterStart?]
  split
  · simp_all
  split
  · simp_all
  cases afterStart? "user." field <;> simp_all

theorem ofField?_context (key : String) :
    Address.ofField? ("context." ++ key) = some (.context key) := by
  have hhead (s : String) (hs : s.toList.head? ≠ some 'c') : "context." ++ key ≠ s := by
    rintro rfl
    simp at hs
  have huser : afterStart? "user." ("context." ++ key) = none := by
    rw [← Option.not_isSome_iff_eq_none, isSome_afterStart?, String.toList_append]
    simp
  rw [Address.ofField?, if_neg (hhead _ (by decide)), if_neg (hhead _ (by decide)), huser,
    afterStart?_append]
  rfl

/-! ### One fact and one operator -/

/-- Whether a fact of a request satisfies an operator with an operand. -/
def Request.satisfies (r : Request) (field : String) (op : Operator) (operand : Json) : Bool :=
  (Condition.mk field op.word operand).holds r

variable {r : Request} {field : String}

theorem Request.satisfies_eq (r : Request) (field : String) (op : Operator) (operand : Json) :
    r.satisfies field op operand = (isAddressable field &&
      match (r.fact field).render with
      | some text => op.holds text operand
      | none => op.isNegated) := by
  unfold satisfies Condition.holds isAddressable fact
  rw [Operator.ofWord?_word]
  cases Address.ofField? field with
  | none => rfl
  | some address =>
    cases hfact : (r.factAt address).render <;> simp [hfact]

theorem Operator.holds_isIn (text : String) (items : List Json) :
    isIn.holds text (.array items) = items.any (equals.holds text ·) := by
  have hany : (items.map operandText).contains text = items.any (equals.holds text ·) := by
    rw [List.contains_eq_any_beq, List.any_map]
    rfl
  exact hany

theorem Operator.holds_containsAny (text : String) (items : List Json) :
    containsAny.holds text (.array items) = items.any (contains.holds text ·) := by
  have hany : (items.map operandText).any (occursFolded · text) = items.any (contains.holds text ·) := by
    rw [List.any_map]
    rfl
  exact hany

theorem operandTexts?_of_unlisted {v : Json} (hlist : ∀ items, v ≠ .array items) :
    operandTexts? v = none := by
  cases v with
  | array items => exact absurd rfl (hlist items)
  | _ => rfl

/-- What the operators say of a fact, one with the other. -/
structure OperatorLaws (r : Request) (field : String) : Prop where
  notEquals : ∀ v, r.satisfies field .notEquals v = !r.satisfies field .equals v
  notContains : ∀ v, r.satisfies field .notContains v = !r.satisfies field .contains v
  notIn : ∀ v, r.satisfies field .notIn v = !r.satisfies field .isIn v
  isIn : ∀ items, r.satisfies field .isIn (.array items) = items.any (r.satisfies field .equals)
  containsAny : ∀ items,
    r.satisfies field .containsAny (.array items) = items.any (r.satisfies field .contains)
  unlisted : ∀ v, (∀ items, v ≠ .array items) →
    r.satisfies field .isIn v = false ∧ r.satisfies field .containsAny v = false

/-- A fact that is missing is in no list and contains nothing. -/
theorem OperatorLaws.of_missing (haddress : isAddressable field = true)
    (hmissing : (r.fact field).render = none) : OperatorLaws r field := by
  have hnegated (op : Operator) (v : Json) : r.satisfies field op v = op.isNegated := by
    rw [r.satisfies_eq, haddress, hmissing, Bool.true_and]
  constructor <;> simp [hnegated, Operator.isNegated]

theorem OperatorLaws.of_render {text : String} (haddress : isAddressable field = true)
    (hfact : (r.fact field).render = some text) : OperatorLaws r field := by
  have hholds (op : Operator) : r.satisfies field op = op.holds text := by
    funext v
    rw [r.satisfies_eq, haddress, hfact, Bool.true_and]
  constructor
  · simp [hholds, Operator.holds]
  · simp [hholds, Operator.holds]
  · intro v
    rw [hholds, hholds, Operator.holds, Operator.holds]
    cases operandTexts? v <;> rfl
  · intro items
    rw [hholds, hholds, Operator.holds_isIn]
  · intro items
    rw [hholds, hholds, Operator.holds_containsAny]
  · intro v hlist
    rw [hholds, hholds, Operator.holds, Operator.holds, operandTexts?_of_unlisted hlist]
    exact ⟨rfl, rfl⟩

theorem operatorLaws (r : Request) (haddress : Addressable field) : OperatorLaws r field := by
  rw [← isAddressable_iff] at haddress
  cases hfact : (r.fact field).render with
  | none => exact .of_missing haddress hfact
  | some text => exact .of_render haddress hfact

theorem satisfies_of_not_addressable (r : Request) (haddress : ¬ Addressable field) (op : Operator)
    (operand : Json) : r.satisfies field op operand = false := by
  rw [← isAddressable_iff, Bool.not_eq_true] at haddress
  rw [r.satisfies_eq, haddress, Bool.false_and]

/-! ### Several conditions -/

/-- Conditions are joined by conjunction, in whatever order they stand. -/
structure ConjunctionLaws (r : Request) : Prop where
  append : ∀ cs ds, allHold (cs ++ ds) r = (allHold cs r && allHold ds r)
  perm : ∀ cs ds, List.Perm cs ds → allHold cs r = allHold ds r

/-- The operators are related to each other in the same way on every field that addresses something, no
operator is satisfied on any other field, and several conditions hold when each of them does. -/
theorem operators_and_conditions_lawful (r : Request) :
    (∀ field, Addressable field → OperatorLaws r field) ∧
      (∀ field, ¬ Addressable field → ∀ op operand, r.satisfies field op operand = false) ∧
      ConjunctionLaws r :=
  ⟨fun _ haddress => operatorLaws r haddress, fun _ haddress => satisfies_of_not_addressable r haddress,
    fun _ _ => List.all_append, fun _ _ hperm => hperm.all_eq⟩

/-- The region of this request is missing, and it has no headers that could be addressed. -/
theorem operators_lawful_on_missing_region :
    Addressable "context.region" ∧ OperatorLaws (.plain ⟨"acme"⟩ "hello") "context.region" ∧
      ¬ Addressable "headers.host" ∧
      (Request.plain ⟨"acme"⟩ "hello").satisfies "headers.host" .notEquals (.string "x") = false := by
  have hregion : Addressable "context.region" := isAddressable_iff.1 (by decide)
  have hhost : ¬ Addressable "headers.host" := mt isAddressable_iff.2 (by decide)
  obtain ⟨hlaws, hfalse, _⟩ := operators_and_conditions_lawful (.plain ⟨"acme"⟩ "hello")
  exact ⟨hregion, hlaws _ hregion, hhost, hfalse _ hhost _ _⟩

/-! ### Facts as operands -/

/-- A value tells of itself by every operator that compares. -/
structure Request.Recognizes (r : Request) (field : String) (v : Json) : Prop where
  equals : r.satisfies field .equals v = true
  isIn : r.satisfies field .isIn (.array [v]) = true
  contains : r.satisfies field .contains v = true
  notEquals : r.satisfies field .notEquals v = false
  notIn : r.satisfies field .notIn (.array [v]) = false
  notContains : r.satisfies field .notContains v = false

/-- A value has the same text whether it is a fact or an operand. -/
theorem Fact.render_ofJson {v : Json} (hv : v ≠ .null) :
    (Fact.ofJson v).render = some (operandText v) := by
  cases v with
  | null => exact absurd rfl hv
  | string s => exact congrArg some String.ofList_toList
  | _ => rfl

theorem Request.fact_context (r : Request) (key : String) :
    r.fact ("context." ++ key) = match lookup key r.context with
      | some v => Fact.ofJson v
      | none => .absent := by
  rw [fact, ofField?_context]
  rfl

theorem addressable_context (key : String) : Addressable ("context." ++ key) := by
  rw [← isAddressable_iff, isAddressable, ofField?_context]
  rfl

theorem occursFolded_self (text : String) : occursFolded text text = true :=
  occurs_iff.2 List.infix_rfl

theorem Request.recognizes_of_render {v : Json} (haddress : Addressable field)
    (hfact : (r.fact field).render = some (operandText v)) : r.Recognizes field v := by
  have hlaws := operatorLaws r haddress
  have hholds (op : Operator) (operand : Json) :
      r.satisfies field op operand = op.holds (operandText v) operand :=
    Condition.holds_of_render op hfact operand
  have hequals : r.satisfies field .equals v = true := by simp [hholds, Operator.holds]
  have hcontains : r.satisfies field .contains v = true := by
    rw [hholds]
    exact occursFolded_self _
  have hisIn : r.satisfies field .isIn (.array [v]) = true := by
    simp [hlaws.isIn, hequals]
  constructor
  · exact hequals
  · exact hisIn
  · exact hcontains
  · rw [hlaws.notEquals, hequals, Bool.not_true]
  · rw [hlaws.notIn, hisIn, Bool.not_true]
  · rw [hlaws.notContains, hcontains, Bool.not_true]

theorem Condition.holds_congr {c : Condition} {r r' : Request} (hfact : r.fact c.field = r'.fact c.field) :
    c.holds r = c.holds r' := by
  unfold Request.fact at hfact
  unfold holds
  cases haddress : Address.ofField? c.field with
  | none => rfl
  | some address =>
    rw [haddress] at hfact
    cases Operator.ofWord? c.operator with
    | none => rfl
    | some op =>
      dsimp only at hfact ⊢
      rw [hfact]

/-- An entry of the context tells of itself unless it is null, and one that is null is as good as missing. -/
theorem entry_recognized_unless_null (r : Request) (key : String) (v : Json)
    (hentry : lookup key r.context = some v) :
    (v ≠ .null → r.Recognizes ("context." ++ key) v) ∧
      (v = .null → ∀ r' : Request, lookup key r'.context = none → ∀ operator operand,
        (Condition.mk ("context." ++ key) operator operand).holds r =
          (Condition.mk ("context." ++ key) operator operand).holds r') := by
  refine ⟨fun hv => ?_, ?_⟩
  · have hfact : (r.fact ("context." ++ key)).render = some (operandText v) := by
      rw [r.fact_context, hentry]
      exact Fact.render_ofJson hv
    exact Request.recognizes_of_render (addressable_context key) hfact
  · rintro rfl r' hmissing operator operand
    apply Condition.holds_congr
    rw [r.fact_context, r'.fact_context, hentry, hmissing]
    rfl

/-- A request that carries one entry in its context. -/
def Request.carrying (key : String) (v : Json) : Request :=
  { Request.plain ⟨"acme"⟩ "hello" with context := [(key, v)] }

/-- A list with nothing, a truth value and an object in it is recognized, and nothing by itself is not. -/
theorem nested_entry_recognized :
    (Request.carrying "k" (.array [.null, .bool true, .object [("n", .number (.real 0.5))]])).Recognizes
        ("context." ++ "k") (.array [.null, .bool true, .object [("n", .number (.real 0.5))]]) ∧
      (Condition.mk ("context." ++ "k") "not_equals" .null).holds (.carrying "k" .null) =
        (Condition.mk ("context." ++ "k") "not_equals" .null).holds (.plain ⟨"acme"⟩ "hello") :=
  ⟨(entry_recognized_unless_null _ "k" _ rfl).1 (by simp),
    (entry_recognized_unless_null (.carrying "k" .null) "k" .null rfl).2 rfl _ rfl "not_equals" .null⟩

end Governance
