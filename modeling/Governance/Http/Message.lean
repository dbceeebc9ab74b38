import Governance.Json.Value
import Governance.Text.Basic
import Governance.Text.Percent

/-!
# Messages over HTTP

Requests and responses, the types that their bodies are said to have, and the query strings of their
targets.
-/

namespace Governance

/-!
## Requests and responses over HTTP

A request is a method, a target, headers and a body; a response is a status and a body. Names of headers
have no case, of several headers with one name the first counts, and a value with anything but visible
ASCII counts as if it were not there.
-/

/-- What is to be done with a target. -/
inductive HttpMethod where
  | get
  | head
  | post
  | put
  | delete
  | other (word : String)
  deriving DecidableEq, Repr

def HttpMethod.ofWord : String → HttpMethod
  | "GET" => .get
  | "HEAD" => .head
  | "POST" => .post
  | "PUT" => .put
  | "DELETE" => .delete
  | word => .other word

structure HttpRequest where
  method : HttpMethod
  target : String
  headers : List (String × String)
  body : String
  deriving DecidableEq, Repr

namespace HttpRequest

/-- The target without the fragment that may stand behind it. -/
def address (r : HttpRequest) : List Char := r.target.toList.takeWhile (· ≠ '#')

def path (r : HttpRequest) : String := String.ofList (r.address.takeWhile (· ≠ '?'))

/-- What stands behind the question mark of the target. -/
def query (r : HttpRequest) : String := String.ofList ((r.address.dropWhile (· ≠ '?')).drop 1)

/-- Whether a character may stand in the value of a header. -/
def isHeaderChar (c : Char) : Bool := c = '\t' || (' ' ≤ c && c < '\x7f')

def header? (r : HttpRequest) (name : String) : Option String :=
  ((r.headers.find? fun h => h.1.toLower = name).map (·.2)).filter fun value =>
    value.toList.all isHeaderChar

end HttpRequest

inductive HttpBody where
  | empty
  | text (text : String)
  | json (value : Json)
  deriving BEq, Repr

structure HttpResponse where
  status : Nat
  body : HttpBody
  deriving BEq, Repr

namespace HttpResponse

/-- A response that says nothing but its status. -/
def bare (status : Nat) : HttpResponse := ⟨status, .empty⟩

def json (status : Nat) (value : Json) : HttpResponse := ⟨status, .json value⟩

def headOnly (r : HttpResponse) : HttpResponse := { r with body := .empty }

end HttpResponse

/-!
## Media types

A media type is a type and a subtype, in which a suffix may stand behind the last plus sign, and then
parameters. Letters have no case. A body is JSON when its type is `application` and its subtype or its
suffix is `json`.
-/

/-- A type of content without its parameters, in lower case. -/
structure MediaType where
  type : String
  subtype : String
  suffix : Option String
  deriving DecidableEq, Repr

namespace MediaType

/-- The marks that may stand in a token beside letters and digits. -/
def tokenMarks : List Char := "!#$%&'*+-.^_`|~".toList

def isTokenChar (c : Char) : Bool := c.isAlphanum || tokenMarks.contains c

/-- Splits the token off the beginning of a text. -/
def spanToken (cs : List Char) : List Char × List Char :=
  (cs.takeWhile isTokenChar, cs.dropWhile isTokenChar)

/-- What stands behind the value of a parameter: the parameters that follow, or nothing at all. -/
def afterValue? : List Char → Option (List Char)
  | [] => some []
  | ';' :: rest => some rest
  | _ => none

/-- What stands behind a value in quotation marks, whose first character may be any. -/
def afterQuoted? (cs : List Char) : Option (List Char) :=
  match cs with
  | [] => none
  | first :: rest =>
    let inside := rest.takeWhile (· ≠ '"')
    match rest.dropWhile (· ≠ '"') with
    | '"' :: behind =>
      if (first :: inside).all (fun c => 31 < c.toNat && c.toNat ≠ 127) then
        afterValue? (behind.dropWhile (· = ' '))
      else none
    | _ => none

/-- What stands behind the first parameter. -/
def afterParameter? (cs : List Char) : Option (List Char) :=
  match spanToken cs with
  | ([], _) => none
  | (_, '=' :: '"' :: rest) => afterQuoted? rest
  | (_, '=' :: rest) =>
    match spanToken rest with
    | ([], []) => some []
    | ([], _) => none
    | (_, behind) => afterValue? behind
  | _ => none

/-- Whether a text is a list of parameters; `fuel` is more than its length. -/
def areParameters : Nat → List Char → Bool
  | 0, _ => false
  | fuel + 1, cs =>
    match cs.dropWhile (· = ' ') with
    | [] => true
    | parameter => match afterParameter? parameter with
      | some rest => areParameters fuel rest
      | none => false

/-- The subtype and the suffix of what stands behind the slash. A plus sign at its beginning parts
nothing. -/
def splitSuffix (cs : List Char) : String × Option String :=
  let suffix := (cs.drop 1).reverse.takeWhile (· ≠ '+')
  if (cs.drop 1).contains '+' then
    (String.ofList (cs.take (cs.length - suffix.length - 1)), some (String.ofList suffix.reverse))
  else (String.ofList cs, none)

def parse? (text : String) : Option MediaType :=
  match spanToken text.toLower.toList with
  | ([], _) => none
  | (type, '/' :: rest) =>
    let (subtype, behind) := spanToken rest
    let (name, suffix) := splitSuffix subtype
    let whole : MediaType := ⟨String.ofList type, name, suffix⟩
    match behind with
    | [] => some whole
    | ';' :: parameters =>
      if !subtype.isEmpty && areParameters (parameters.length + 1) parameters then some whole
      else none
    | _ => none
  | _ => none

def isJson (m : MediaType) : Bool :=
  m.type = "application" && (m.subtype = "json" || m.suffix = some "json")

end MediaType

/-!
## Query strings

What stands behind the question mark of an address are names and values. A plus sign stands for a blank,
and of several values of one name the last counts.
-/

/-- Names and values in the order of an address. -/
structure QueryString where
  pairs : List (String × String)
  deriving DecidableEq, Repr

namespace QueryString

/-- The text that stands behind the escapes of a name or a value. -/
def decodePart (cs : List Char) : String :=
  Text.percentDecode (String.ofList (cs.map fun c => if c = '+' then ' ' else c))

/-- A name and a value; a name may stand alone. -/
def decodePair (cs : List Char) : String × String :=
  (decodePart (cs.takeWhile (· ≠ '=')), decodePart ((cs.dropWhile (· ≠ '=')).drop 1))

def ofText (text : String) : QueryString :=
  ⟨((Text.splitAtMark '&' text.toList).filter (!·.isEmpty)).map decodePair⟩

def find? (q : QueryString) (name : String) : Option String :=
  (q.pairs.reverse.find? (·.1 = name)).map (·.2)

end QueryString

end Governance
