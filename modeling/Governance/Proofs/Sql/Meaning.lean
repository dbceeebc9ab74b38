import Mathlib.Data.List.Infix
import Mathlib.Data.String.Basic
import Governance.Sql.Row
import Governance.Text.Lowercase

/-!
# What commands mean

A command is sent as a text with values; what a database is to make of its parts is told here. A pattern
is of a text or not, a test holds of a row or not, and the columns that rows are ordered by say which of
two rows comes first. A selection tells its answer only as far as its order tells rows apart: every order
of the others is an answer too.
-/

namespace Governance.Sql

/-! ### Patterns -/

namespace Like

/-- Whether a character has a meaning of its own in a pattern. -/
def isMark (c : Char) : Bool := c = '%' || c = '_' || c = '\\'

/-- Whether a text is of a pattern. `%` stands for any stretch and `_` for any one character; a backslash
takes the character behind it for what it is. -/
def fits : List Char → List Char → Bool
  | [], text => text.isEmpty
  | '\\' :: c :: rest, text => text.head? = some c && fits rest text.tail
  | '%' :: rest, text => text.tails.any (fits rest)
  | '_' :: rest, text => !text.isEmpty && fits rest text.tail
  | c :: rest, text => text.head? = some c && fits rest text.tail

/-- Whether a text is of a pattern, upper and lower case being the same. -/
def fitsFolded (pattern text : String) : Bool :=
  fits (Text.lowercase pattern.toList) (Text.lowercase text.toList)

/-- A character as it is written in a pattern that stands for it. -/
def escapeChar (c : Char) : List Char := if isMark c then ['\\', c] else [c]

/-- A text as it is written in a pattern that stands for it. -/
def escape (text : List Char) : List Char := text.flatMap escapeChar

theorem fits_of_not_isMark {c : Char} (hc : isMark c = false) (rest text : List Char) :
    fits (c :: rest) text = (text.head? = some c && fits rest text.tail) := by
  simp only [isMark, Bool.or_eq_false_iff, decide_eq_false_iff_not] at hc
  obtain ⟨⟨hstretch, hone⟩, hescape⟩ := hc
  rw [fits]
  · rintro d rest' rfl
    exact absurd rfl hescape
  · exact hstretch
  · exact hone

theorem fits_escapeChar (c : Char) (rest text : List Char) :
    fits (escapeChar c ++ rest) text = (text.head? = some c && fits rest text.tail) := by
  unfold escapeChar
  cases hc : isMark c with
  | true => rfl
  | false => exact fits_of_not_isMark hc rest text

/-- What is escaped stands for itself. -/
theorem fits_escape_append {needle rest text : List Char} :
    fits (escape needle ++ rest) text ↔ ∃ left, text = needle ++ left ∧ fits rest left := by
  induction needle generalizing text with
  | nil => simp [escape]
  | cons c needle ih =>
    have hcons : escape (c :: needle) ++ rest = escapeChar c ++ (escape needle ++ rest) := by
      rw [escape, List.flatMap_cons, List.append_assoc, escape]
    rw [hcons, fits_escapeChar]
    cases text with
    | nil => simp
    | cons d text =>
      simp only [List.head?_cons, Option.some.injEq, List.tail_cons, Bool.and_eq_true,
        decide_eq_true_eq, ih, List.cons_append, List.cons.injEq]
      exact ⟨fun ⟨hd, left, htext, hleft⟩ => ⟨left, ⟨hd, htext⟩, hleft⟩,
        fun ⟨left, ⟨hd, htext⟩, hleft⟩ => ⟨hd, left, htext, hleft⟩⟩

theorem fits_stretch {rest text : List Char} :
    fits ('%' :: rest) text ↔ ∃ left, left <:+ text ∧ fits rest left := by
  have hany : fits ('%' :: rest) text = text.tails.any (fits rest) := by rw [fits]
  rw [hany, List.any_eq_true]
  simp only [List.mem_tails]

theorem fits_anything (text : List Char) : fits ['%'] text :=
  fits_stretch.2 ⟨[], List.nil_suffix, rfl⟩

/-- The pattern of a text between two stretches is that of the texts in which it stands. -/
theorem fits_around (needle text : List Char) :
    fits ('%' :: escape needle ++ ['%']) text = Text.occurs needle text := by
  rw [Bool.eq_iff_iff, Text.occurs_iff, List.cons_append, fits_stretch]
  constructor
  · rintro ⟨left, hsuffix, hleft⟩
    obtain ⟨after, rfl, -⟩ := fits_escape_append.1 hleft
    exact (List.prefix_append needle after).isInfix.trans hsuffix.isInfix
  · rintro ⟨before, after, rfl⟩
    refine ⟨needle ++ after, ⟨before, (List.append_assoc before needle after).symm⟩, ?_⟩
    exact fits_escape_append.2 ⟨after, rfl, fits_anything after⟩

/-- A text without a backslash is of its own pattern, whatever else it holds. -/
theorem fits_self_append {needle rest left : List Char} (hneedle : '\\' ∉ needle)
    (hleft : fits rest left) : fits (needle ++ rest) (needle ++ left) := by
  induction needle with
  | nil => exact hleft
  | cons c needle ih =>
    rw [List.mem_cons, not_or] at hneedle
    have hrest := ih hneedle.2
    rw [List.cons_append, List.cons_append]
    by_cases hstretch : c = '%'
    · subst hstretch
      exact fits_stretch.2 ⟨needle ++ left, List.suffix_cons '%' _, hrest⟩
    · by_cases hone : c = '_'
      · subst hone
        rw [fits]
        exact hrest
      · have hplain : isMark c = false := by
          simp [isMark, hstretch, hone, Ne.symm hneedle.1]
        rw [fits_of_not_isMark hplain]
        simpa using hrest

end Like

/-! ### Tests -/

/-- Which of two things comes first. -/
def inOrder {α : Type} (lt : α → α → Bool) (a b : α) : Ordering :=
  if lt a b then .lt else if lt b a then .gt else .eq

/-- Which of two values comes first. Nothing, and values of two types, are not compared; of the other types
there are no columns that a command compares. -/
def Value.compare? : Value → Value → Option Ordering
  | .text a, .text b => some (inOrder (· < ·) a b)
  | .integer a, .integer b => some (inOrder (· < ·) a b)
  | .boolean a, .boolean b => some (inOrder (fun a b => !a && b) a b)
  | .instant a, .instant b => some (inOrder Instant.lt (kept a) (kept b))
  | _, _ => none

/-- Whether what is compared stands in a relation. -/
def Relation.allows : Relation → Ordering → Bool
  | .equal, o => o.isEq
  | .atLeast, o => o.isGE
  | .atMost, o => o.isLE

def Operand.value : Operand → Value
  | .bound value => value
  | .word text => .text text
  | .truth => .boolean true

/-- Whether a value is a text of a pattern. -/
def Value.resembles (pattern : String) : Value → Bool
  | .text s => Like.fitsFolded pattern s
  | _ => false

/-- Whether a row passes a test. -/
def Test.holds (row : Row) : Test → Bool
  | .always => true
  | .compare column relation operand =>
    ((row.value column).compare? operand.value).any relation.allows
  | .resembles columns pattern => columns.any fun column => (row.value column).resembles pattern

/-- The rows that pass tests. -/
def passing (tests : List Test) (rows : List Row) : List Row :=
  rows.filter fun row => tests.all (·.holds row)

/-! ### Orders and answers -/

/-- Which of two rows comes first by a column. -/
def OrderKey.compare (k : OrderKey) (a b : Row) : Ordering :=
  let order := ((a.value k.column).compare? (b.value k.column)).getD .eq
  if k.direction = some .descending then order.swap else order

/-- Which of two rows comes first by columns, the later ones being asked where the earlier ones are
equal. -/
def compareBy : List OrderKey → Row → Row → Ordering
  | [], _, _ => .eq
  | k :: rest, a, b => (k.compare a b).then (compareBy rest a b)

def Amount.count : Amount → Nat
  | .bound count => count
  | .fixed count => count

def Row.only (columns : List String) (row : Row) : Row := columns.map fun name => (name, row.value name)

/-- The rows that a selection asks for, of those it selects in their order. -/
def Selection.part (s : Selection) (sorted : List Row) : List Row :=
  let rest := sorted.drop (s.offset.elim 0 Amount.count)
  (s.limit.elim rest fun amount => rest.take amount.count).map (Row.only s.columns)

/-- Whether rows answer a selection from a table. -/
def Selection.IsAnswer (s : Selection) (table found : List Row) : Prop :=
  ∃ sorted : List Row, sorted.Perm (passing s.tests table) ∧
    sorted.Pairwise (fun a b => (compareBy s.order a b).isLE) ∧ found = s.part sorted

/-- Whether rows answer a command that reads a table. -/
def Command.IsAnswer (table found : List Row) : Command → Prop
  | .select s => s.IsAnswer table found
  | .count _ tests => found = [[(countColumn, .integer (passing tests table).length)]]
  | _ => False

end Governance.Sql
