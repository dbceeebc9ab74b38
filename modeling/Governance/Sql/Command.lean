import Governance.Json.Decoder

/-!
# Commands and the values they carry

What a database is told to do, and the values that go with it and come back.
-/

namespace Governance.Sql

/-!
## Values in a database

A column has a type, and a field of a row has a value of that type or none. A database keeps instants to
the microsecond and counts them from the first of January 2000; what lies between two microseconds
becomes the one that is nearer to that day.
-/

inductive ColumnType where
  | text
  | integer
  | boolean
  | double
  | uuid
  | document
  | instant
  deriving DecidableEq, Repr

/-- The value of a field. -/
inductive Value where
  | null
  | text (value : String)
  | integer (value : Int)
  | boolean (value : Bool)
  | double (value : Float)
  | uuid (value : Uuid)
  | document (value : Json)
  | instant (value : Instant)
  deriving BEq, Repr

/-- The second from which a database counts: the first of January 2000. -/
def firstSecond : Int := 946684800

/-- An instant as a database keeps it. -/
def kept (t : Instant) : Instant :=
  let micros := ((t.seconds - firstSecond) * 1000000000 + t.nanos).tdiv 1000
  ⟨firstSecond + micros.fdiv 1000000, (micros.fmod 1000000).toNat * 1000⟩

/-- An instant in whole microseconds is kept as it is. -/
theorem kept_eq_self (seconds : Int) (micros : Nat) (h : micros < 1000000) :
    kept ⟨seconds, micros * 1000⟩ = ⟨seconds, micros * 1000⟩ := by
  have whole : (seconds - firstSecond) * 1000000000 + ((micros * 1000 : Nat) : Int) =
      ((seconds - firstSecond) * 1000000 + micros) * 1000 := by omega
  have quotient : ((seconds - firstSecond) * 1000000 + (micros : Int)).fdiv 1000000 =
      seconds - firstSecond := by
    rw [Int.fdiv_eq_ediv_of_nonneg _ (by omega)]; omega
  have rest : ((seconds - firstSecond) * 1000000 + (micros : Int)).fmod 1000000 = micros := by
    rw [Int.fmod_eq_emod_of_nonneg _ (by omega)]; omega
  have back : firstSecond + (seconds - firstSecond) = seconds := by omega
  rw [kept, whole, Int.mul_tdiv_cancel _ (by omega), quotient, rest, back, Int.toNat_natCast]

namespace Value

/-- A value, or nothing. -/
def ofOption {α : Type} (encode : α → Value) : Option α → Value
  | some a => encode a
  | none => null

/-- A value as it is shown. -/
def toJson : Value → Json
  | null => .null
  | text s => .string s
  | integer n => .ofInt n
  | boolean b => .bool b
  | double x => .ofFloat x
  | uuid u => .string u.render
  | document j => j
  | instant t => Json.ofInstant (kept t)

/-- The value of a type that is written in JSON. Null stands for no value, and so does what is not of the
type. -/
def ofJson (type : ColumnType) (j : Json) : Value :=
  match type, j with
  | _, .null => null
  | .text, .string s => text s
  | .integer, .number (.integer n) => integer n
  | .boolean, .bool b => boolean b
  | .double, .number n => double n.toFloat
  | .uuid, .string s => ofOption uuid (Uuid.parse? s)
  | .document, j => document j
  | .instant, .string s => ofOption (fun t => instant (kept t)) (Instant.parse? s)
  | _, _ => null

end Value

/-!
## Commands to a database

A command is built from tables, columns and values, and its text follows from it. Values never become
part of the text: in their places stand numbers, and the values are sent beside the text in the order of
these numbers. Only what the library itself fixes is written out.
-/

/-- A table with its columns. `isSpaced` says whether its columns are written with blanks inside the
brackets when a row is inserted. -/
structure Table where
  name : String
  columns : List (String × ColumnType)
  isSpaced : Bool
  deriving Repr

def Table.columnNames (t : Table) : List String := t.columns.map (·.1)

def Table.typeOf? (t : Table) (column : String) : Option ColumnType := t.columns.lookup column

/-- How a column is compared. -/
inductive Relation where
  | equal
  | atLeast
  | atMost
  deriving DecidableEq, Repr

def Relation.sign : Relation → String
  | .equal => "="
  | .atLeast => ">="
  | .atMost => "<="

/-- What a column is compared with: a value sent beside the text, or a text or truth that is fixed. -/
inductive Operand where
  | bound (value : Value)
  | word (text : String)
  | truth
  deriving BEq, Repr

/-- A test that rows have to pass. -/
inductive Test where
  | always
  | compare (column : String) (relation : Relation) (operand : Operand)
  | resembles (columns : List String) (pattern : String)
  deriving BEq, Repr

/-- The direction of an order. -/
inductive Direction where
  | ascending
  | descending
  deriving DecidableEq, Repr

def Direction.word : Direction → String
  | .ascending => "ASC"
  | .descending => "DESC"

/-- A column that rows are ordered by; ascending unless it says otherwise. -/
structure OrderKey where
  column : String
  direction : Option Direction
  deriving DecidableEq, Repr

/-- How many rows are wanted: a number sent beside the text, or one that is fixed. -/
inductive Amount where
  | bound (count : Nat)
  | fixed (count : Nat)
  deriving DecidableEq, Repr

/-- Which rows of a table are wanted, in which order, and how many of them. A row may be locked until the
transaction ends. -/
structure Selection where
  table : Table
  columns : List String
  tests : List Test
  order : List OrderKey
  limit : Option Amount
  offset : Option Amount
  isLocked : Bool
  deriving Repr

/-- All columns of the rows that pass tests, in no particular order. -/
def Selection.all (table : Table) (tests : List Test) : Selection :=
  ⟨table, table.columnNames, tests, [], none, none, false⟩

/-- What a database can be told to do. -/
inductive Command where
  | define (text : String)
  | probe
  | select (s : Selection)
  | count (table : Table) (tests : List Test)
  | insert (table : Table) (fields : List (String × Value))
  | update (table : Table) (keys fields : List (String × Value))
  | delete (table : Table) (keys : List (String × Value))
  deriving Repr

/-! ### The text of a command -/

/-- A piece of a command: words of the text, or a value sent beside it. -/
inductive Piece where
  | words (text : String)
  | bound (value : Value)
  deriving BEq, Repr

/-- The text of pieces, the values being numbered from `first` on. -/
def Piece.text (first : Nat) : List Piece → String
  | [] => ""
  | .words text :: rest => text ++ Piece.text first rest
  | .bound _ :: rest => "$" ++ toString first ++ Piece.text (first + 1) rest

/-- The values sent beside the text of pieces. -/
def Piece.values : List Piece → List Value
  | [] => []
  | .words _ :: rest => Piece.values rest
  | .bound value :: rest => value :: Piece.values rest

/-- Pieces with a text between them. -/
def Piece.joined (between : String) : List (List Piece) → List Piece
  | [] => []
  | [pieces] => pieces
  | pieces :: rest => pieces ++ .words between :: Piece.joined between rest

def Operand.piece : Operand → Piece
  | .bound value => .bound value
  | .word text => .words ("'" ++ text ++ "'")
  | .truth => .words "TRUE"

def Test.pieces : Test → List Piece
  | .always => [.words "1=1"]
  | .compare column relation operand =>
    [.words (column ++ " " ++ relation.sign ++ " "), operand.piece]
  | .resembles columns pattern =>
    .words "(" :: Piece.joined " OR " (columns.map fun column =>
      [.words (column ++ " ILIKE "), .bound (.text pattern)]) ++ [.words ")"]

def filterPieces (tests : List Test) : List Piece :=
  .words " WHERE " :: Piece.joined " AND " (tests.map Test.pieces)

def OrderKey.text (k : OrderKey) : String :=
  match k.direction with
  | some direction => k.column ++ " " ++ direction.word
  | none => k.column

def orderPieces (keys : List OrderKey) : List Piece :=
  if keys.isEmpty then []
  else [.words (" ORDER BY " ++ ", ".intercalate (keys.map OrderKey.text))]

def amountPieces (word : String) : Option Amount → List Piece
  | none => []
  | some (.bound count) => [.words (" " ++ word ++ " "), .bound (.integer count)]
  | some (.fixed count) => [.words (" " ++ word ++ " " ++ toString count)]

def Selection.pieces (s : Selection) : List Piece :=
  .words ("SELECT " ++ ", ".intercalate s.columns ++ " FROM " ++ s.table.name) ::
    filterPieces s.tests ++ orderPieces s.order ++ amountPieces "LIMIT" s.limit ++
    amountPieces "OFFSET" s.offset ++ (if s.isLocked then [.words " FOR UPDATE"] else [])

/-- Fields with their values, a text between them. -/
def fieldPieces (between : String) (fields : List (String × Value)) : List Piece :=
  Piece.joined between (fields.map fun (column, value) =>
    [.words (column ++ " = "), .bound value])

def insertionPieces (table : Table) (fields : List (String × Value)) : List Piece :=
  let edge := if table.isSpaced then " " else ""
  .words ("INSERT INTO " ++ table.name ++ " (" ++ edge ++ ", ".intercalate (fields.map (·.1)) ++
    edge ++ ") VALUES (") ::
    Piece.joined ", " (fields.map fun (_, value) => [.bound value]) ++ [.words ")"]

namespace Command

/-- The text of a command. The keys of an update have the first numbers, although they stand behind the
fields. -/
def text : Command → String
  | define text => text
  | probe => "SELECT 1"
  | select s => Piece.text 1 s.pieces
  | count table tests =>
    Piece.text 1 (.words ("SELECT COUNT(*) FROM " ++ table.name) :: filterPieces tests)
  | insert table fields => Piece.text 1 (insertionPieces table fields)
  | update table keys fields =>
    "UPDATE " ++ table.name ++ " SET " ++
      Piece.text (keys.length + 1) (fieldPieces ", " fields) ++
      " WHERE " ++ Piece.text 1 (fieldPieces " AND " keys)
  | delete table keys =>
    Piece.text 1 (.words ("DELETE FROM " ++ table.name ++ " WHERE ") :: fieldPieces " AND " keys)

/-- The values that are sent beside the text, in the order of their numbers. -/
def values : Command → List Value
  | define _ => []
  | probe => []
  | select s => Piece.values s.pieces
  | count _ tests => Piece.values (filterPieces tests)
  | insert _ fields => fields.map (·.2)
  | update _ keys fields => keys.map (·.2) ++ fields.map (·.2)
  | delete _ keys => keys.map (·.2)

/-- The name under which a count is returned. -/
def countColumn : String := "count"

/-- The columns of the rows that a command returns. -/
def returned : Command → List (String × ColumnType)
  | select s => s.columns.filterMap fun name => (s.table.typeOf? name).map (name, ·)
  | count .. => [(countColumn, .integer)]
  | _ => []

end Command

end Governance.Sql
