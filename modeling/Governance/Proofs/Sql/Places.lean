import Governance.Sql.Row

/-!
# Values in their places

The text of a command names columns and, in the places of their values, numbers; the values are sent
beside it. What a database makes of the two is told here from the columns, the numbers and the values
alone: the row that an insertion adds, and the row that an update makes of another. The text says the
same columns and numbers in the same order.
-/

namespace Governance.Sql

/-- A column with the number under which its value is sent. -/
abbrev Place := String × Nat

/-- How a place is written where a column is set or compared. -/
def Place.text (p : Place) : String := p.1 ++ " = $" ++ toString p.2

/-- The columns of fields, numbered from `first` on. -/
def placesFrom (first : Nat) (fields : List (String × Value)) : List Place :=
  (fields.map (·.1)).zipIdx first

namespace Command

/-- The columns that a command gives values to. -/
def assigned : Command → List Place
  | insert _ fields => placesFrom 1 fields
  | update _ keys fields => placesFrom (keys.length + 1) fields
  | _ => []

/-- The columns whose values choose the rows that a command changes. -/
def compared : Command → List Place
  | update _ keys _ => placesFrom 1 keys
  | delete _ keys => placesFrom 1 keys
  | _ => []

/-- The value that is sent under a number. -/
def valueAt (c : Command) (number : Nat) : Value := (c.values[number - 1]?).getD .null

/-- The row that an insertion adds. -/
def addedRow (c : Command) : Row := c.assigned.map fun p => (p.1, c.valueAt p.2)

/-- The row that an update makes of a row, which stays as it is unless it has the values that are compared. -/
def appliedTo (c : Command) (row : Row) : Row :=
  if c.compared.all fun p => row.value p.1 == c.valueAt p.2 then
    row.map fun field => (field.1, ((c.assigned.lookup field.1).map c.valueAt).getD field.2)
  else row

end Command

/-! ### The text -/

section Text

variable {table : Table} {keys fields : List (String × Value)}

theorem Piece.text_append_words (first : Nat) (pieces : List Piece) (words : String) :
    Piece.text first (pieces ++ [.words words]) = Piece.text first pieces ++ words := by
  induction pieces generalizing first with
  | nil => simp [Piece.text]
  | cons piece rest ih =>
    cases piece <;> simp only [List.cons_append, Piece.text, ih, String.append_assoc]

/-- The text of pieces that each have one value goes on with the next number. -/
theorem Piece.text_joined (between : String) (write : String → Nat → String)
    (pieces : String × Value → List Piece)
    (hpieces : ∀ field first rest, Piece.text first (pieces field ++ rest) =
      write field.1 first ++ Piece.text (first + 1) rest)
    (first : Nat) (fields : List (String × Value)) :
    Piece.text first (Piece.joined between (fields.map pieces)) =
      between.intercalate ((placesFrom first fields).map fun p => write p.1 p.2) := by
  induction fields generalizing first with
  | nil => rfl
  | cons field rest ih =>
    cases rest with
    | nil =>
      have hone := hpieces field first []
      simpa [placesFrom, Piece.joined, Piece.text] using hone
    | cons next rest =>
      have hrest := ih (first + 1)
      simp only [placesFrom, List.map_cons, List.zipIdx_cons, Piece.joined, hpieces, Piece.text,
        String.intercalate_cons_cons, String.append_assoc] at hrest ⊢
      rw [hrest]

theorem text_fieldPieces (between : String) (first : Nat) (fields : List (String × Value)) :
    Piece.text first (fieldPieces between fields) =
      between.intercalate ((placesFrom first fields).map Place.text) := by
  refine Piece.text_joined between (fun column n => Place.text (column, n)) _ ?_ first fields
  rintro ⟨column, value⟩ first rest
  have hsign : " = $" = " = " ++ "$" := rfl
  simp only [List.cons_append, List.nil_append, Piece.text, Place.text, hsign, String.append_assoc]

/-- An insertion in words: the columns that get values, and the numbers of these in the same order. -/
def insertText (table : Table) (assigned : List Place) : String :=
  "INSERT INTO " ++ table.name ++ " (" ++ (if table.isSpaced then " " else "") ++
    ", ".intercalate (assigned.map (·.1)) ++ (if table.isSpaced then " " else "") ++ ") VALUES (" ++
    ", ".intercalate (assigned.map fun p => "$" ++ toString p.2) ++ ")"

/-- An update in words: the columns that get values and those that are compared, each with the number of
its value. -/
def updateText (table : Table) (assigned compared : List Place) : String :=
  "UPDATE " ++ table.name ++ " SET " ++ ", ".intercalate (assigned.map Place.text) ++ " WHERE " ++
    " AND ".intercalate (compared.map Place.text)

namespace Command

theorem text_insert (table : Table) (fields : List (String × Value)) :
    (insert table fields).text = insertText table (insert table fields).assigned := by
  have hcolumns : (placesFrom 1 fields).map (·.1) = fields.map (·.1) := by
    rw [placesFrom, List.zipIdx_map_fst]
  have hvalues : Piece.text 1 (Piece.joined ", " (fields.map fun field => [.bound field.2])) =
      ", ".intercalate ((placesFrom 1 fields).map fun p => "$" ++ toString p.2) :=
    Piece.text_joined ", " (fun _ n => "$" ++ toString n) (fun field => [.bound field.2])
      (fun _ _ _ => rfl) 1 fields
  unfold text insertionPieces insertText assigned
  rw [hcolumns, ← hvalues]
  simp only [List.cons_append, Piece.text, Piece.text_append_words, String.append_assoc]

theorem text_update (table : Table) (keys fields : List (String × Value)) :
    (update table keys fields).text =
      updateText table (update table keys fields).assigned (update table keys fields).compared := by
  rw [text, text_fieldPieces, text_fieldPieces]
  rfl

end Command

end Text

/-! ### The rows -/

section Rows

variable {table : Table} {keys fields : List (String × Value)} {row : Row}

/-- Under the number of a column its value is sent, whatever is sent before and after. -/
theorem map_placesFrom (before fields after : List (String × Value)) :
    (placesFrom (before.length + 1) fields).map (fun p =>
      (p.1, (((before ++ fields ++ after).map (·.2))[p.2 - 1]?).getD .null)) = fields := by
  induction fields generalizing before with
  | nil => rfl
  | cons field rest ih =>
    have hrest := ih (before ++ [field])
    have hall : before ++ [field] ++ rest ++ after = before ++ field :: rest ++ after := by simp
    have hfield : ((before ++ field :: rest ++ after).map (·.2))[before.length]? = some field.2 := by
      simp
    rw [hall, List.length_append, List.length_singleton] at hrest
    simp only [placesFrom, List.map_cons, List.zipIdx_cons, Nat.add_sub_cancel, hfield,
      Option.getD_some] at hrest ⊢
    rw [hrest]

theorem lookup_map_values {α β : Type} (f : α → β) (column : String) (places : List (String × α)) :
    (places.lookup column).map f = (places.map fun p => (p.1, f p.2)).lookup column := by
  induction places with
  | nil => rfl
  | cons p rest ih =>
    rw [List.map_cons, List.lookup_cons, List.lookup_cons]
    cases column == p.1 with
    | true => rfl
    | false => exact ih

namespace Command

theorem addedRow_insert (table : Table) (fields : List (String × Value)) :
    (insert table fields).addedRow = fields := by
  have h := map_placesFrom [] fields []
  rwa [List.nil_append, List.append_nil] at h

theorem map_assigned_update (table : Table) (keys fields : List (String × Value)) :
    (update table keys fields).assigned.map
      (fun p => (p.1, (update table keys fields).valueAt p.2)) = fields := by
  have h := map_placesFrom keys fields []
  rwa [List.append_nil, List.map_append] at h

theorem map_compared_update (table : Table) (keys fields : List (String × Value)) :
    (update table keys fields).compared.map
      (fun p => (p.1, (update table keys fields).valueAt p.2)) = keys := by
  have h := map_placesFrom [] keys fields
  rwa [List.nil_append, List.map_append] at h

theorem appliedTo_update (hkeys : ∀ key ∈ keys, row.value key.1 == key.2) :
    (update table keys fields).appliedTo row =
      row.map fun field => (field.1, (fields.lookup field.1).getD field.2) := by
  have hcompared : ((update table keys fields).compared.all fun p =>
      row.value p.1 == (update table keys fields).valueAt p.2) = true := by
    rw [← map_compared_update table keys fields, List.forall_mem_map] at hkeys
    exact List.all_eq_true.2 hkeys
  rw [appliedTo, if_pos hcompared]
  refine List.map_congr_left fun field _ => ?_
  rw [lookup_map_values, map_assigned_update]

end Command

end Rows

end Governance.Sql
