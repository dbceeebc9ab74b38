import Governance.Sql.Call

/-!
# Reading rows

The fields of a row are read one after the other, each as what its column is to hold; the first one that
holds something else is what is wrong with the row.
-/

namespace Governance.Sql.Row

/-- What is read off a row. -/
abbrev Read (α : Type) := Except SqlError α

/-- The value of a column; a column that the row does not have holds nothing. -/
def value (r : Row) (column : String) : Value := (r.lookup column).getD .null

/-- A field that may hold nothing. -/
def optional {α : Type} (read : Row → String → Read α) (r : Row) (column : String) :
    Read (Option α) :=
  match r.value column with
  | .null => .ok none
  | _ => (read r column).map some

def text (r : Row) (column : String) : Read String :=
  match r.value column with
  | .text s => .ok s
  | _ => .error (.unreadable column)

def integer (r : Row) (column : String) : Read Int :=
  match r.value column with
  | .integer n => .ok n
  | _ => .error (.unreadable column)

def int32 (r : Row) (column : String) : Read Int32 := (r.integer column).map Int32.ofInt

def boolean (r : Row) (column : String) : Read Bool :=
  match r.value column with
  | .boolean b => .ok b
  | _ => .error (.unreadable column)

def double (r : Row) (column : String) : Read Float :=
  match r.value column with
  | .double x => .ok x
  | _ => .error (.unreadable column)

def uuid (r : Row) (column : String) : Read Uuid :=
  match r.value column with
  | .uuid u => .ok u
  | _ => .error (.unreadable column)

def instant (r : Row) (column : String) : Read Instant :=
  match r.value column with
  | .instant t => .ok t
  | _ => .error (.unreadable column)

def document {α : Type} (decode : Json.Decoder α) (r : Row) (column : String) : Read α :=
  match r.value column with
  | .document j => match decode j with
    | .ok a => .ok a
    | .error _ => .error (.unreadable column)
  | _ => .error (.unreadable column)

end Governance.Sql.Row

namespace Governance.Sql

/-- What a reader makes of the rows of a result. -/
def Result.readAll {α : Type} (read : Row → Row.Read α) (r : Result) : Row.Read (List α) :=
  r.rows.mapM read

/-- What a reader makes of the first row of a result, if there is one. -/
def Result.readFirst? {α : Type} (read : Row → Row.Read α) (r : Result) :
    Row.Read (Option α) :=
  match r.rows with
  | [] => .ok none
  | row :: _ => (read row).map some

/-- The number that a result consists of. Fewer than none are none. -/
def Result.readCount (r : Result) : Row.Read Nat :=
  match r.rows with
  | [] => .error .noRow
  | row :: _ => (row.integer Command.countColumn).map Int.toNat

end Governance.Sql
