import Governance.Proofs.Sql.Places
import Governance.Proofs.Time.Text
import Governance.Sql.AuditTable
import Governance.Sql.PolicyTable

/-!
# Texts with places for values

A listing and a search for audit entries are put together from what was asked for. Every filter that is
there adds words with a place for its value, and the places are numbered as they come. The text hangs on
which filters there are and on nothing else.
-/

namespace Governance.Sql

/-! ### Slots -/

/-- A value with the words before and behind its place. -/
structure Slot where
  before : String
  value : Value
  after : String

namespace Slot

def text (first : Nat) : List Slot → String
  | [] => ""
  | s :: rest => s.before ++ "$" ++ toString first ++ s.after ++ text (first + 1) rest

/-- What a slot says of itself, whatever its value is. -/
def words (s : Slot) : String × String := (s.before, s.after)

theorem text_append (first : Nat) (slots others : List Slot) :
    text first (slots ++ others) = text first slots ++ text (first + slots.length) others := by
  induction slots generalizing first with
  | nil => simp [text]
  | cons s rest ih =>
    simp only [List.cons_append, text, ih, List.length_cons, String.append_assoc]
    rw [Nat.add_assoc, Nat.add_comm 1]

theorem text_congr {slots slots' : List Slot} (hwords : slots.map words = slots'.map words)
    (first : Nat) : text first slots = text first slots' := by
  induction slots generalizing slots' first with
  | nil =>
    obtain rfl := List.map_eq_nil_iff.1 hwords.symm
    rfl
  | cons s rest ih =>
    cases slots' with
    | nil => cases hwords
    | cons s' rest' =>
      obtain ⟨hs, hrest⟩ := List.cons.inj hwords
      obtain ⟨hbefore, hafter⟩ := Prod.mk.inj hs
      rw [text, text, hbefore, hafter, ih hrest]

end Slot

/-! ### Places in a text -/

/-- The numbers that stand behind the dollar signs of a text. -/
def placeholders : List Char → List Nat
  | [] => []
  | c :: rest =>
    if c = '$' then Nat.ofDigitChars 10 (rest.takeWhile Char.isDigit) 0 :: placeholders rest
    else placeholders rest

theorem placeholders_append_of_not_mem {words : List Char} (hwords : '$' ∉ words)
    (rest : List Char) : placeholders (words ++ rest) = placeholders rest := by
  induction words with
  | nil => rfl
  | cons c words ih =>
    rw [List.mem_cons, not_or] at hwords
    rw [List.cons_append, placeholders, if_neg (Ne.symm hwords.1), ih hwords.2]

/-- Whether a text could go on with a digit. -/
def StartsDigit (text : List Char) : Prop := text.head?.any Char.isDigit

theorem placeholders_number {rest : List Char} (hrest : ¬ StartsDigit rest) (n : Nat) :
    placeholders ('$' :: Nat.toDigits 10 n ++ rest) = n :: placeholders rest := by
  have hdigits : ∀ c ∈ Nat.toDigits 10 n, c.isDigit = true :=
    fun c hc => Nat.isDigit_of_mem_toDigits (by decide) (by decide) hc
  have hdollar : '$' ∉ Nat.toDigits 10 n := by
    intro hmem
    have := hdigits '$' hmem
    contradiction
  have hend : rest.takeWhile Char.isDigit = [] := by
    cases rest with
    | nil => rfl
    | cons c rest => exact List.takeWhile_cons_of_neg hrest
  rw [List.cons_append, placeholders, if_pos rfl, placeholders_append_of_not_mem hdollar,
    List.takeWhile_append_of_pos hdigits, hend, List.append_nil, Nat.ofDigitChars_ten_toDigits]

/-- Words that hold no place and could not be taken for part of a number. -/
def IsQuiet (words : String) : Prop := '$' ∉ words.toList ∧ ¬ StartsDigit words.toList

instance (words : String) : Decidable (IsQuiet words) :=
  inferInstanceAs (Decidable (_ ∧ ¬ (_ = true)))

/-- A slot has no other place than its own. -/
structure Slot.IsQuiet (s : Slot) : Prop where
  nonempty : s.before.toList ≠ []
  before : Sql.IsQuiet s.before
  after : Sql.IsQuiet s.after

theorem Slot.isQuiet {before after : String} {value : Value}
    (h : before.toList ≠ [] ∧ Sql.IsQuiet before ∧ Sql.IsQuiet after) :
    Slot.IsQuiet ⟨before, value, after⟩ :=
  ⟨h.1, h.2.1, h.2.2⟩

theorem startsDigit_append {words rest : List Char} (hwords : ¬ StartsDigit words)
    (hrest : words = [] → ¬ StartsDigit rest) : ¬ StartsDigit (words ++ rest) := by
  cases words with
  | nil => exact hrest rfl
  | cons c words => exact hwords

theorem placeholders_slots {slots : List Slot} (hslots : ∀ s ∈ slots, s.IsQuiet) {tail : List Char}
    (htail : ¬ StartsDigit tail) (first : Nat) :
    ¬ StartsDigit ((Slot.text first slots).toList ++ tail) ∧
      placeholders ((Slot.text first slots).toList ++ tail) =
        List.range' first slots.length ++ placeholders tail := by
  induction slots generalizing first with
  | nil => exact ⟨htail, rfl⟩
  | cons s rest ih =>
    obtain ⟨hs, hrest⟩ := List.forall_mem_cons.1 hslots
    obtain ⟨hquiet, hnumbers⟩ := ih hrest (first + 1)
    have hafter := startsDigit_append hs.after.2 fun _ => hquiet
    have hnumber : (toString first : String).toList = Nat.toDigits 10 first := by
      simp [toString]
    have htext : (Slot.text first (s :: rest)).toList ++ tail = s.before.toList ++
        ('$' :: Nat.toDigits 10 first ++
          (s.after.toList ++ ((Slot.text (first + 1) rest).toList ++ tail))) := by
      rw [Slot.text, String.toList_append, String.toList_append, String.toList_append,
        String.toList_append, hnumber]
      simp only [List.append_assoc, List.cons_append]
      rfl
    rw [htext]
    refine ⟨startsDigit_append hs.before.2 fun hempty => absurd hempty hs.nonempty, ?_⟩
    rw [placeholders_append_of_not_mem hs.before.1, placeholders_number hafter,
      placeholders_append_of_not_mem hs.after.1, hnumbers]
    rfl

theorem not_mem_intercalate {c : Char} {between : String} {texts : List String}
    (hbetween : c ∉ between.toList) (htexts : ∀ text ∈ texts, c ∉ text.toList) :
    c ∉ (between.intercalate texts).toList := by
  induction texts with
  | nil => simp
  | cons text rest ih =>
    obtain ⟨htext, hrest⟩ := List.forall_mem_cons.1 htexts
    cases rest with
    | nil => simpa using htext
    | cons next rest =>
      rw [String.intercalate_cons_cons]
      simp only [String.toList_append, List.mem_append, not_or]
      exact ⟨⟨htext, hbetween⟩, ih hrest⟩

/-- What a selection begins with holds no place if no name does. -/
theorem not_mem_selecting {t : Table} {source : String} (hcolumns : ∀ name ∈ t.columnNames,
    '$' ∉ name.toList) (hsource : '$' ∉ source.toList) :
    '$' ∉ ("SELECT " ++ ", ".intercalate t.columnNames ++ source).toList := by
  simp only [String.toList_append, List.mem_append, not_or]
  exact ⟨⟨by decide, not_mem_intercalate (by decide) hcolumns⟩, hsource⟩

/-! ### Pieces -/

theorem Piece.text_append (first : Nat) (pieces others : List Piece) :
    Piece.text first (pieces ++ others) =
      Piece.text first pieces ++ Piece.text (first + (Piece.values pieces).length) others := by
  induction pieces generalizing first with
  | nil => simp [Piece.text, Piece.values]
  | cons piece rest ih =>
    cases piece with
    | words text => simp only [List.cons_append, Piece.text, Piece.values, ih, String.append_assoc]
    | bound value =>
      simp only [List.cons_append, Piece.text, Piece.values, ih, String.append_assoc,
        List.length_cons]
      rw [Nat.add_assoc, Nat.add_comm 1]

theorem Piece.values_append (pieces others : List Piece) :
    Piece.values (pieces ++ others) = Piece.values pieces ++ Piece.values others := by
  induction pieces with
  | nil => rfl
  | cons piece rest ih => cases piece <;> simp [Piece.values, ih]

theorem Piece.joined_cons (between : String) (pieces : List Piece) (rest : List (List Piece)) :
    Piece.joined between (pieces :: rest) =
      pieces ++ rest.flatMap fun more => .words between :: more := by
  induction rest generalizing pieces with
  | nil => simp [Piece.joined]
  | cons more rest ih => rw [Piece.joined, ih, List.flatMap_cons, List.cons_append]; simp

theorem filterPieces_cons (test : Test) (tests : List Test) :
    filterPieces (test :: tests) =
      (.words " WHERE " :: test.pieces) ++ tests.flatMap fun t => .words " AND " :: t.pieces := by
  rw [filterPieces, List.map_cons, Piece.joined_cons, List.flatMap_map, List.cons_append]

/-- Pieces are written as slots, and bind their values. -/
structure Piece.Says (pieces : List Piece) (slots : List Slot) : Prop where
  text : ∀ first, Piece.text first pieces = Slot.text first slots
  values : Piece.values pieces = slots.map Slot.value

namespace Piece.Says

variable {pieces others : List Piece} {slots more : List Slot}

theorem nil : Piece.Says [] [] := ⟨fun _ => rfl, rfl⟩

theorem append (h : Piece.Says pieces slots) (hothers : Piece.Says others more) :
    Piece.Says (pieces ++ others) (slots ++ more) := by
  constructor
  · intro first
    rw [Piece.text_append, Slot.text_append, h.text, hothers.text, h.values, List.length_map]
  · rw [Piece.values_append, List.map_append, h.values, hothers.values]

/-- Words in front of the first slot are words of this slot. -/
theorem lead {words before before' after : String} {value : Value}
    (h : Piece.Says pieces (⟨before, value, after⟩ :: more)) (hbefore : words ++ before = before') :
    Piece.Says (.words words :: pieces) (⟨before', value, after⟩ :: more) := by
  subst hbefore
  constructor
  · intro first
    rw [Piece.text, h.text, Slot.text, Slot.text]
    simp only [String.append_assoc]
  · exact h.values

theorem compare (column : String) (relation : Relation) (value : Value) :
    Piece.Says (Test.compare column relation (.bound value)).pieces
      [⟨column ++ " " ++ relation.sign ++ " ", value, ""⟩] := by
  constructor
  · intro first
    simp only [Test.pieces, Operand.piece, Piece.text, Slot.text, String.append_assoc,
      String.append_empty]
  · rfl

theorem optional {α : Type} {given : Option α} {test : α → Test} {slots : α → List Slot}
    (h : ∀ a, Piece.Says (.words " AND " :: (test a).pieces) (slots a)) :
    Piece.Says ((given.toList.map test).flatMap fun t => .words " AND " :: t.pieces)
      (given.toList.flatMap slots) := by
  cases given with
  | none => exact nil
  | some a => simpa using h a

theorem amount (word : String) (count : Nat) :
    Piece.Says (amountPieces word (some (.bound count)))
      [⟨" " ++ word ++ " ", .integer count, ""⟩] := by
  constructor
  · intro first
    simp only [amountPieces, Piece.text, Slot.text, String.append_assoc, String.append_empty]
  · rfl

end Piece.Says

theorem quiet_optional {α : Type} {given : Option α} {slots : α → List Slot}
    (h : ∀ a, ∀ s ∈ slots a, s.IsQuiet) : ∀ s ∈ given.toList.flatMap slots, s.IsQuiet := by
  intro s hs
  obtain ⟨a, -, hslot⟩ := List.mem_flatMap.1 hs
  exact h a s hslot

/-- Filters that are there add the same words, whatever their values are. -/
theorem words_optional {α : Type} {given given' : Option α} {slots : α → List Slot}
    (hgiven : given.isSome = given'.isSome)
    (hwords : ∀ a b, (slots a).map Slot.words = (slots b).map Slot.words) :
    (given.toList.flatMap slots).map Slot.words = (given'.toList.flatMap slots).map Slot.words := by
  cases given with
  | none =>
    cases given' with
    | none => rfl
    | some b => cases hgiven
  | some a =>
    cases given' with
    | none => cases hgiven
    | some b => simpa using hwords a b

/-! ### Commands -/

/-- How a command is sent: its text has the slots between a head and a tail, the values of the slots go
with it, and the places of the text are numbered from one on, as many as there are values. -/
structure Command.SentWith (c : Command) (head : String) (slots : List Slot) (tail : String) :
    Prop where
  text : c.text = head ++ Slot.text 1 slots ++ tail
  values : c.values = slots.map Slot.value
  numbered : placeholders c.text.toList = List.range' 1 c.values.length

theorem Command.SentWith.of_pieces {c : Command} {head tail : String} {pieces : List Piece}
    {slots : List Slot} (htext : c.text = head ++ Piece.text 1 pieces ++ tail)
    (hvalues : c.values = Piece.values pieces) (hpieces : Piece.Says pieces slots)
    (hslots : ∀ s ∈ slots, s.IsQuiet) (hhead : '$' ∉ head.toList) (htail : IsQuiet tail) :
    c.SentWith head slots tail := by
  have hall : c.text = head ++ Slot.text 1 slots ++ tail := by rw [htext, hpieces.text]
  refine ⟨hall, hvalues.trans hpieces.values, ?_⟩
  have hnone : placeholders tail.toList = [] := by
    have h := placeholders_append_of_not_mem htail.1 []
    rwa [List.append_nil] at h
  have hnumbers := (placeholders_slots hslots htail.2 1).2
  rw [hall, String.toList_append, String.toList_append, List.append_assoc,
    placeholders_append_of_not_mem hhead, hnumbers, hnone, List.append_nil, hvalues, hpieces.values,
    List.length_map]

namespace PolicyTable

variable {tenant tenant' : TenantId} {l l' : Listing}

/-- The slots of the filters of a listing. A text to search for has two of them. -/
def filterSlots (tenant : TenantId) (l : Listing) : List Slot :=
  [⟨" WHERE tenant_id = ", .text tenant.text, ""⟩] ++
    (l.kind.toList.flatMap fun kind => [⟨" AND policy_type = ", .text kind.word, ""⟩]) ++
    (l.enabled.toList.flatMap fun enabled => [⟨" AND enabled = ", .boolean enabled, ""⟩]) ++
    (l.search.toList.flatMap fun text =>
      [⟨" AND (name ILIKE ", .text ("%" ++ text ++ "%"), ""⟩,
        ⟨" OR description ILIKE ", .text ("%" ++ text ++ "%"), ")"⟩])

def orderWords (l : Listing) : String :=
  " ORDER BY " ++ l.sort.word ++ (if l.ascending then " ASC" else " DESC") ++ ", id"

def pageSlots (l : Listing) : List Slot :=
  [⟨orderWords l ++ " LIMIT ", .integer l.pageSize.toNat, ""⟩,
    ⟨" OFFSET ", .integer (min l.offset.toNat largestOffset : Nat), ""⟩]

theorem says_filters (tenant : TenantId) (l : Listing) :
    Piece.Says (filterPieces (listingTests tenant l)) (filterSlots tenant l) := by
  have hsearch (text : String) : Piece.Says
      (.words " AND " :: (Test.resembles ["name", "description"] ("%" ++ text ++ "%")).pieces)
      [⟨" AND (name ILIKE ", .text ("%" ++ text ++ "%"), ""⟩,
        ⟨" OR description ILIKE ", .text ("%" ++ text ++ "%"), ")"⟩] := by
    constructor
    · intro first
      have hname : " AND " ++ ("(" ++ ("name" ++ " ILIKE ")) = " AND (name ILIKE " := rfl
      have hdescription : " OR " ++ ("description" ++ " ILIKE ") = " OR description ILIKE " := rfl
      simp only [Test.pieces, Piece.joined, List.map_cons, List.map_nil, List.cons_append,
        List.nil_append, Piece.text, Slot.text, ← hname, ← hdescription, String.append_assoc,
        String.append_empty]
    · rfl
  rw [listingTests, List.cons_append, List.cons_append, filterPieces_cons, List.flatMap_append,
    List.flatMap_append, ← List.append_assoc, ← List.append_assoc]
  refine .append (.append (.append ?_ ?_) ?_) ?_
  · exact (Piece.Says.compare ..).lead rfl
  · exact .optional fun kind => (Piece.Says.compare ..).lead rfl
  · exact .optional fun enabled => (Piece.Says.compare ..).lead rfl
  · exact .optional hsearch

theorem says_page (l : Listing) : Piece.Says (orderPieces (listingOrder l) ++
    amountPieces "LIMIT" (some (.bound l.pageSize.toNat)) ++
    amountPieces "OFFSET" (some (.bound (min l.offset.toNat largestOffset)))) (pageSlots l) := by
  have hsize : Piece.Says (orderPieces (listingOrder l) ++
      amountPieces "LIMIT" (some (.bound l.pageSize.toNat)))
      [⟨orderWords l ++ " LIMIT ", .integer l.pageSize.toNat, ""⟩] := by
    refine (Piece.Says.amount "LIMIT" _).lead ?_
    unfold listingOrder orderWords
    cases l.ascending <;> cases l.sort <;> rfl
  exact hsize.append (.amount "OFFSET" _)

theorem quiet_filterSlots (tenant : TenantId) (l : Listing) :
    ∀ s ∈ filterSlots tenant l, s.IsQuiet := by
  refine List.forall_mem_append.2 ⟨List.forall_mem_append.2 ⟨List.forall_mem_append.2 ⟨?_, ?_⟩, ?_⟩, ?_⟩
  · exact List.forall_mem_singleton.2 (Slot.isQuiet (by decide))
  · exact quiet_optional fun kind => List.forall_mem_singleton.2 (Slot.isQuiet (by decide))
  · exact quiet_optional fun enabled => List.forall_mem_singleton.2 (Slot.isQuiet (by decide))
  · refine quiet_optional fun text => List.forall_mem_cons.2 ⟨(Slot.isQuiet (by decide)), ?_⟩
    · exact List.forall_mem_singleton.2 (Slot.isQuiet (by decide))

theorem quiet_pageSlots (l : Listing) : ∀ s ∈ pageSlots l, s.IsQuiet := by
  refine List.forall_mem_cons.2 ⟨Slot.isQuiet ?_, ?_⟩
  · unfold orderWords
    cases l.ascending <;> cases l.sort <;> decide
  · exact List.forall_mem_singleton.2 (Slot.isQuiet (by decide))

def countHead : String := "SELECT COUNT(*) FROM policies"

def pageHead : String := "SELECT " ++ ", ".intercalate policyTable.columnNames ++ " FROM policies"

theorem sentWith_listingCount (tenant : TenantId) (l : Listing) :
    (listingCount tenant l).SentWith countHead (filterSlots tenant l) "" := by
  refine .of_pieces ?_ rfl (says_filters tenant l) (quiet_filterSlots tenant l) (by decide) (by decide)
  rw [String.append_empty]
  rfl

theorem sentWith_listingPage (tenant : TenantId) (l : Listing) :
    (listingPage tenant l).SentWith pageHead (filterSlots tenant l ++ pageSlots l) "" := by
  have hpieces : Selection.pieces { Selection.all policyTable (listingTests tenant l) with
      order := listingOrder l
      limit := some (.bound l.pageSize.toNat)
      offset := some (.bound (min l.offset.toNat largestOffset)) } =
      .words pageHead :: (filterPieces (listingTests tenant l) ++ (orderPieces (listingOrder l) ++
        amountPieces "LIMIT" (some (.bound l.pageSize.toNat)) ++
        amountPieces "OFFSET" (some (.bound (min l.offset.toNat largestOffset))))) := by
    simp only [Selection.pieces, Selection.all, List.cons_append, List.append_assoc]
    rfl
  refine .of_pieces ?_ ?_ ((says_filters tenant l).append (says_page l))
    (List.forall_mem_append.2 ⟨quiet_filterSlots tenant l, quiet_pageSlots l⟩)
    (not_mem_selecting (by simp [policyTable, Table.columnNames]) (by decide)) (by decide)
  · rw [String.append_empty, listingPage, Command.text, hpieces]
    rfl
  · rw [listingPage, Command.values, hpieces]
    rfl

/-- Listings with the same filters, each with a value of its own, and with the same order. -/
structure SameForm (l l' : Listing) : Prop where
  kind : l.kind.isSome = l'.kind.isSome
  enabled : l.enabled.isSome = l'.enabled.isSome
  search : l.search.isSome = l'.search.isSome
  sort : l.sort = l'.sort
  ascending : l.ascending = l'.ascending

theorem words_filterSlots (h : SameForm l l') (tenant tenant' : TenantId) :
    (filterSlots tenant l).map Slot.words = (filterSlots tenant' l').map Slot.words := by
  unfold filterSlots
  simp only [List.map_append]
  rw [words_optional h.kind fun _ _ => rfl, words_optional h.enabled fun _ _ => rfl,
    words_optional h.search fun _ _ => rfl]
  rfl

theorem words_pageSlots (h : SameForm l l') :
    (pageSlots l).map Slot.words = (pageSlots l').map Slot.words := by
  unfold pageSlots orderWords
  rw [h.sort, h.ascending]
  rfl

end PolicyTable

/-! ### Searching audit entries -/

namespace AuditTable

variable {c c' : Criteria}

def searchHead : String :=
  "SELECT " ++ ", ".intercalate auditTable.columnNames ++ " FROM audit_logs WHERE 1=1"

def searchOrder : String := " ORDER BY timestamp DESC"

/-- The slots of the filters of a search. -/
def searchSlots (c : Criteria) : List Slot :=
  (c.email.toList.flatMap fun email => [⟨" AND user_email = ", .text email, ""⟩]) ++
    (c.client.toList.flatMap fun client => [⟨" AND client_id = ", .text client, ""⟩]) ++
    (c.requestKind.toList.flatMap fun kind => [⟨" AND request_type = ", .text kind, ""⟩]) ++
    (c.start.toList.flatMap fun start => [⟨" AND timestamp >= ", .instant start, ""⟩]) ++
    (c.finish.toList.flatMap fun finish => [⟨" AND timestamp <= ", .instant finish, ""⟩])

/-- The slot of the limit, which stands behind the order. -/
def limitSlots (c : Criteria) : List Slot :=
  c.cap.toList.flatMap fun n => [⟨searchOrder ++ " LIMIT ", .integer (min n largest : Nat), ""⟩]

/-- What is left of the order if no slot says it. -/
def searchTail (c : Criteria) : String := if c.cap.isSome then "" else searchOrder

/-- The tests that hang on the criteria. -/
def filterTests (c : Criteria) : List Test :=
  testIfSome "user_email" .equal .text c.email ++ testIfSome "client_id" .equal .text c.client ++
    testIfSome "request_type" .equal .text c.requestKind ++
    testIfSome "timestamp" .atLeast .instant c.start ++
    testIfSome "timestamp" .atMost .instant c.finish

theorem filterPieces_searchTests (c : Criteria) : filterPieces (searchTests c) =
    .words " WHERE " :: .words "1=1" ::
      (filterTests c).flatMap fun t => .words " AND " :: t.pieces :=
  filterPieces_cons .always (filterTests c)

theorem says_filterTests (c : Criteria) :
    Piece.Says ((filterTests c).flatMap fun t => .words " AND " :: t.pieces) (searchSlots c) := by
  have hoptional {α : Type} (column : String) (relation : Relation) (encode : α → Value)
      (given : Option α) {before : String}
      (hbefore : " AND " ++ (column ++ " " ++ relation.sign ++ " ") = before) :
      Piece.Says ((testIfSome column relation encode given).flatMap fun t =>
        .words " AND " :: t.pieces) (given.toList.flatMap fun a => [⟨before, encode a, ""⟩]) :=
    .optional fun a => (Piece.Says.compare ..).lead hbefore
  rw [filterTests, List.flatMap_append, List.flatMap_append, List.flatMap_append,
    List.flatMap_append]
  refine .append (.append (.append (.append ?_ ?_) ?_) ?_) ?_
  · exact hoptional "user_email" .equal .text c.email rfl
  · exact hoptional "client_id" .equal .text c.client rfl
  · exact hoptional "request_type" .equal .text c.requestKind rfl
  · exact hoptional "timestamp" .atLeast .instant c.start rfl
  · exact hoptional "timestamp" .atMost .instant c.finish rfl

theorem quiet_searchSlots (c : Criteria) : ∀ s ∈ searchSlots c ++ limitSlots c, s.IsQuiet := by
  refine List.forall_mem_append.2 ⟨List.forall_mem_append.2 ⟨List.forall_mem_append.2
    ⟨List.forall_mem_append.2 ⟨List.forall_mem_append.2 ⟨?_, ?_⟩, ?_⟩, ?_⟩, ?_⟩, ?_⟩ <;>
  exact quiet_optional fun _ => List.forall_mem_singleton.2 (Slot.isQuiet (by decide))

/-- A search behind its head: the filters, the order and the limit. -/
def searchPieces (c : Criteria) : List Piece :=
  ((filterTests c).flatMap fun t => .words " AND " :: t.pieces) ++
    .words searchOrder :: amountPieces "LIMIT" (c.cap.map fun n => .bound (min n largest))

theorem searching_pieces (c : Criteria) : Selection.pieces
    { Selection.all auditTable (searchTests c) with
      order := [⟨"timestamp", some .descending⟩]
      limit := c.cap.map fun n => .bound (min n largest) } =
    .words ("SELECT " ++ ", ".intercalate auditTable.columnNames ++ " FROM " ++ "audit_logs") ::
      .words " WHERE " :: .words "1=1" :: searchPieces c := by
  have horder : orderPieces [⟨"timestamp", some .descending⟩] = [.words searchOrder] := rfl
  have hoffset : amountPieces "OFFSET" none = [] := rfl
  simp only [Selection.pieces, Selection.all, filterPieces_searchTests, horder, hoffset,
    List.cons_append, List.nil_append, List.append_assoc, Bool.false_eq_true, if_false,
    List.append_nil]
  rfl

theorem text_searching (c : Criteria) :
    (searching c).text = searchHead ++ Piece.text 1 (searchPieces c) := by
  have hfrom : " FROM audit_logs WHERE 1=1" = " FROM " ++ ("audit_logs" ++ (" WHERE " ++ "1=1")) := rfl
  rw [searching, Command.text, searching_pieces, searchHead, hfrom]
  simp only [Piece.text, String.append_assoc]

theorem values_searching (c : Criteria) :
    (searching c).values = Piece.values (searchPieces c) := by
  rw [searching, Command.values, searching_pieces]
  rfl

theorem sentWith_searching (c : Criteria) :
    (searching c).SentWith searchHead (searchSlots c ++ limitSlots c) (searchTail c) := by
  have hquiet := quiet_searchSlots c
  have htext := text_searching c
  have hvalues := values_searching c
  have hhead : '$' ∉ searchHead.toList :=
    not_mem_selecting (by simp [auditTable, Table.columnNames]) (by decide)
  unfold searchPieces at htext hvalues
  unfold limitSlots at hquiet ⊢
  unfold searchTail
  -- Without a limit the order is the end of the text; otherwise it leads to the limit.
  cases hcap : c.cap with
  | none =>
    rw [hcap] at htext hvalues hquiet
    refine .of_pieces ?_ ?_ ((says_filterTests c).append .nil) hquiet hhead (by decide)
    · rw [htext, List.append_nil, String.append_assoc]
      exact congrArg _ (Piece.text_append_words 1 _ searchOrder)
    · rw [hvalues, Piece.values_append, Piece.values_append]
      rfl
  | some n =>
    rw [hcap] at htext hvalues hquiet
    have htail : IsQuiet "" := by decide
    refine .of_pieces ?_ hvalues ((says_filterTests c).append ((Piece.Says.amount "LIMIT" _).lead rfl))
      hquiet hhead htail
    rw [htext]
    exact (String.append_empty ..).symm

/-- Criteria with the same filters, each with a value of its own. A limit of nought is none. -/
structure SameForm (c c' : Criteria) : Prop where
  email : c.email.isSome = c'.email.isSome
  client : c.client.isSome = c'.client.isSome
  requestKind : c.requestKind.isSome = c'.requestKind.isSome
  start : c.start.isSome = c'.start.isSome
  finish : c.finish.isSome = c'.finish.isSome
  cap : c.cap.isSome = c'.cap.isSome

theorem words_searchSlots (h : SameForm c c') : (searchSlots c ++ limitSlots c).map Slot.words =
    (searchSlots c' ++ limitSlots c').map Slot.words := by
  unfold searchSlots limitSlots
  simp only [List.map_append]
  rw [words_optional h.email fun _ _ => rfl, words_optional h.client fun _ _ => rfl,
    words_optional h.requestKind fun _ _ => rfl, words_optional h.start fun _ _ => rfl,
    words_optional h.finish fun _ _ => rfl, words_optional h.cap fun _ _ => rfl]

end AuditTable

/-! ### What is never part of a text -/

theorem Command.SentWith.text_eq {c c' : Command} {head tail : String} {slots slots' : List Slot}
    (h : c.SentWith head slots tail) (h' : c'.SentWith head slots' tail)
    (hwords : slots.map Slot.words = slots'.map Slot.words) : c.text = c'.text := by
  rw [h.text, h'.text, Slot.text_congr hwords]

/-- The texts of listings and searches have numbered places, each behind the words of the filter whose value
is sent under its number, and no others. Listings and searches of the same form have the same text. -/
theorem values_kept_apart :
    (∀ tenant l,
      (PolicyTable.listingCount tenant l).SentWith PolicyTable.countHead
        (PolicyTable.filterSlots tenant l) "" ∧
      (PolicyTable.listingPage tenant l).SentWith PolicyTable.pageHead
        (PolicyTable.filterSlots tenant l ++ PolicyTable.pageSlots l) "") ∧
    (∀ c, (AuditTable.searching c).SentWith AuditTable.searchHead
      (AuditTable.searchSlots c ++ AuditTable.limitSlots c) (AuditTable.searchTail c)) ∧
    (∀ tenant tenant' l l', PolicyTable.SameForm l l' →
      (PolicyTable.listingCount tenant l).text = (PolicyTable.listingCount tenant' l').text ∧
      (PolicyTable.listingPage tenant l).text = (PolicyTable.listingPage tenant' l').text) ∧
    ∀ c c', AuditTable.SameForm c c' → (AuditTable.searching c).text = (AuditTable.searching c').text := by
  refine ⟨fun tenant l => ⟨PolicyTable.sentWith_listingCount tenant l,
    PolicyTable.sentWith_listingPage tenant l⟩, AuditTable.sentWith_searching, ?_, ?_⟩
  · intro tenant tenant' l l' h
    have hfilters := PolicyTable.words_filterSlots h tenant tenant'
    refine ⟨(PolicyTable.sentWith_listingCount tenant l).text_eq
      (PolicyTable.sentWith_listingCount tenant' l') hfilters, ?_⟩
    refine (PolicyTable.sentWith_listingPage tenant l).text_eq
      (PolicyTable.sentWith_listingPage tenant' l') ?_
    rw [List.map_append, List.map_append, hfilters, PolicyTable.words_pageSlots h]
  · intro c c' h
    have htail : AuditTable.searchTail c = AuditTable.searchTail c' := by
      rw [AuditTable.searchTail, AuditTable.searchTail, h.cap]
    have hsent := AuditTable.sentWith_searching c
    rw [htail] at hsent
    exact hsent.text_eq (AuditTable.sentWith_searching c') (AuditTable.words_searchSlots h)

def mentioning (text : String) : Listing := { Listing.standard with search := some text }

def writtenBy (email : String) : Criteria := { Criteria.all with email := some email }

theorem quotes_kept_apart :
    PolicyTable.SameForm (mentioning "card") (mentioning "' OR '1'='1") ∧
    (PolicyTable.listingCount ⟨"acme"⟩ (mentioning "card")).text =
      (PolicyTable.listingCount ⟨"globex"⟩ (mentioning "' OR '1'='1")).text ∧
    AuditTable.SameForm (writtenBy "alice@example.com") (writtenBy "'; DROP TABLE audit_logs; --") ∧
    (AuditTable.searching (writtenBy "alice@example.com")).text =
      (AuditTable.searching (writtenBy "'; DROP TABLE audit_logs; --")).text := by
  have hlisting : PolicyTable.SameForm (mentioning "card") (mentioning "' OR '1'='1") :=
    ⟨rfl, rfl, rfl, rfl, rfl⟩
  have hsearch : AuditTable.SameForm (writtenBy "alice@example.com")
      (writtenBy "'; DROP TABLE audit_logs; --") := ⟨rfl, rfl, rfl, rfl, rfl, rfl⟩
  have hapart := values_kept_apart.2.2
  exact ⟨hlisting, (hapart.1 ⟨"acme"⟩ ⟨"globex"⟩ _ _ hlisting).1, hsearch, hapart.2 _ _ hsearch⟩

example : (PolicyTable.listingCount ⟨"acme"⟩ (mentioning "' OR '1'='1")).text =
    "SELECT COUNT(*) FROM policies WHERE tenant_id = $1 AND (name ILIKE $2 OR description ILIKE $3)" := by
  decide

end Governance.Sql
