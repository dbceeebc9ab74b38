import Governance.Json.Token

/-!
# Reading JSON

The reader is a stack machine over the tokens: an open array or object is a frame, and a value that
is complete joins the frame on top. At most 127 arrays and objects may be open at once.

A reader may be interested in some members only. What stands under the others has to have the right
form, but it may be void and as deep as it likes.

A text that is no document is not lost: `Broken.seen` is what had been read when it broke off, with
the open arrays and objects closed, and `Broken.spine` is the path of those that were open.
-/

namespace Governance.Json

/-- A step from a value to a part of it. -/
inductive PathStep where
  | key (name : String)
  | index (place : Nat)
  deriving DecidableEq, Repr

def PathStep.text : PathStep → String
  | .key name => name
  | .index place => toString place

/-- What a reader wants to know of a value: all of it, the members of a record, or the items of a
list. A record may be written as a list of its members in their order. -/
inductive Interest where
  | everything
  | record (fields : List (String × Interest))
  | items (each : Interest)
  deriving Repr

/-- The interest among members in the first one with a key. -/
def Interest.find (key : String) : List (String × Interest) → Option Interest
  | [] => none
  | (other, interest) :: rest => if other = key then some interest else find key rest

/-- An interest in some members, of a few of which only a part matters. -/
def Interest.ofFields (names : List String) (partly : List (String × Interest)) : Interest :=
  .record (names.map fun name => (name, (find name partly).getD .everything))

def Interest.part : Interest → PathStep → Option Interest
  | .record fields, .key key => find key fields
  | .record fields, .index index => fields[index]?.map (·.2)
  | .items each, .index _ => some each
  | _, _ => some .everything

/-- The interest in a part of a value at the end of a path. -/
def Interest.under (interest : Interest) (path : List PathStep) : Option Interest :=
  path.foldlM part interest

/-- An array or object that is still open. -/
inductive Frame where
  | array (items : List Json)
  | object (members : List (String × Json))
  | member (key : String) (members : List (String × Json))
  deriving Repr

/-- What may come next. -/
inductive Expectation where
  | value
  | firstItem
  | firstKey
  | key
  | colon
  | separator
  | done
  deriving DecidableEq, Repr

/-- The reader between two tokens. Frames are innermost first, their contents in reverse. -/
structure ReadState where
  frames : List Frame
  next : Expectation
  result : Option Json
  deriving Repr

/-- A text that is no document. -/
structure Broken where
  /-- What stood before the break, its open arrays and objects closed. -/
  seen : Option Json
  /-- The keys and indices that lead to the innermost array or object open at the break, if one is. -/
  spine : Option (List PathStep)
  deriving Repr

/-- The most arrays and objects that may be open at once. -/
def depthLimit : Nat := 127

/-- Hands a complete value to the innermost frame. -/
def ReadState.complete (frames : List Frame) (value : Json) : ReadState :=
  match frames with
  | [] => ⟨[], .done, some value⟩
  | .array items :: rest => ⟨.array (value :: items) :: rest, .separator, none⟩
  | .member key members :: rest => ⟨.object ((key, value) :: members) :: rest, .separator, none⟩
  | .object members :: rest => ⟨.object members :: rest, .separator, none⟩

/-- The path to the value that comes next, the outermost step first. -/
def stepsOf (frames : List Frame) : List PathStep :=
  frames.reverse.filterMap fun
    | .array items => some (.index items.length)
    | .member key _ => some (.key key)
    | .object _ => none

/-- Whether anybody wants to know what stands in some frames. -/
def Interest.covers (interest : Interest) (frames : List Frame) : Bool :=
  (interest.under (stepsOf frames)).isSome

/-- Opens an array or object unless too many are open. -/
def ReadState.push (interest : Interest) (frames : List Frame) (frame : Frame)
    (next : Expectation) : Option ReadState :=
  if frames.length < depthLimit || !interest.covers frames then
    some ⟨frame :: frames, next, none⟩
  else none

/-- Reads a token where a value may stand. -/
def ReadState.startValue (interest : Interest) (frames : List Frame) : Token → Option ReadState
  | .null => some (.complete frames .null)
  | .void => if interest.covers frames then none else some (.complete frames .null)
  | .bool b => some (.complete frames (.bool b))
  | .number n => some (.complete frames (.number n))
  | .string s => some (.complete frames (.string s))
  | .openArray => ReadState.push interest frames (.array []) .firstItem
  | .openObject => ReadState.push interest frames (.object []) .firstKey
  | _ => none

def ReadState.close : List Frame → Token → Option ReadState
  | .array items :: rest, .closeArray => some (.complete rest (.array items.reverse))
  | .object members :: rest, .closeObject => some (.complete rest (.object members.reverse))
  | _, _ => none

def ReadState.startMember (interest : Interest) : List Frame → Token → Option ReadState
  | .object members :: rest, .string key => some ⟨.member key members :: rest, .colon, none⟩
  | .object members :: rest, .void =>
    if interest.covers rest then none else some ⟨.member "" members :: rest, .colon, none⟩
  | _, _ => none

/-- Reads one token. Nothing means that no document continues this way. -/
def ReadState.read (interest : Interest) (state : ReadState) (token : Token) :
    Option ReadState :=
  match state.next with
  | .value => ReadState.startValue interest state.frames token
  | .firstItem =>
    match token with
    | .closeArray => ReadState.close state.frames token
    | _ => ReadState.startValue interest state.frames token
  | .firstKey =>
    match token with
    | .closeObject => ReadState.close state.frames token
    | _ => ReadState.startMember interest state.frames token
  | .key => ReadState.startMember interest state.frames token
  | .colon => match token with
    | .colon => some ⟨state.frames, .value, none⟩
    | _ => none
  | .separator =>
    match token, state.frames with
    | .comma, .array items :: rest => some ⟨.array items :: rest, .value, none⟩
    | .comma, .object members :: rest => some ⟨.object members :: rest, .key, none⟩
    | _, frames => ReadState.close frames token
  | .done => none

/-- The members of an object that broke off behind a key. The key is kept when it stands there already,
since it is one too many whatever comes behind it. -/
def closeMember (key : String) (value : Option Json) (members : List (String × Json)) :
    List (String × Json) :=
  match value with
  | some value => (key, value) :: members
  | none => if members.any (·.1 = key) then (key, .null) :: members else members

/-- Closes the frames of a text that broke off, innermost first, around the value inside. -/
def closeFrames : Option Json → List Frame → Option Json
  | value, [] => value
  | value, .array items :: rest => closeFrames (some (.array (value.toList ++ items).reverse)) rest
  | _, .object members :: rest => closeFrames (some (.object members.reverse)) rest
  | value, .member key members :: rest =>
    closeFrames (some (.object (closeMember key value members).reverse)) rest

/-- What a state shows of a document that broke off in it. -/
def ReadState.broken (state : ReadState) : Broken :=
  ⟨closeFrames state.result state.frames, match state.frames with
    | [] => none
    | _ :: outer => some (stepsOf outer)⟩

/-- Reads tokens from a state on. -/
def readTokens (interest : Interest) (state : ReadState) :
    List (Option Token) → Except Broken Json
  | [] => match state.result with
    | some value => .ok value
    | none => .error state.broken
  | none :: _ => .error state.broken
  | some token :: rest => match state.read interest token with
    | some next => readTokens interest next rest
    | none => .error state.broken

/-- Reads a document of which only some members matter, in the order of the text. -/
def readFor (interest : Interest) (cs : List Char) : Except Broken Json :=
  readTokens interest ⟨[], .value, none⟩ (scan cs)

/-- Reads a document, members in the order of the text. -/
def read (cs : List Char) : Except Broken Json := readFor .everything cs

/-- Reads a document as a value whose objects are maps. -/
def parse? (text : String) : Option Json :=
  match read text.toList with
  | .ok value => some value.canonical
  | .error _ => none

end Governance.Json
