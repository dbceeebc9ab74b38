import Governance.Config.Address
import Governance.Http.Message
import Governance.Text.Basic

/-!
# Addresses of databases

A database is named by a URL: a scheme, an authority with a user and a host, a path that names the
database, and parameters. Only the form is looked at; nobody is asked whether there is a database. What
stands behind escapes must be UTF-8, and a few parameters must be of a certain form.
-/

namespace Governance

/-- The parts of a URL. The parts of the authority are missing when it has none. -/
structure ConnectionUrl where
  scheme : String
  user : Option (List Char)
  host : Option (List Char)
  port : Option (List Char)
  path : List Char
  query : List Char
  deriving DecidableEq, Repr

namespace ConnectionUrl

/-! ### Splitting -/

/-- The part in front of a mark, and the part behind it if there is one. -/
def splitFirst (mark : Char) (cs : List Char) : List Char × Option (List Char) :=
  match cs.dropWhile (· ≠ mark) with
  | [] => (cs, none)
  | _ :: behind => (cs.takeWhile (· ≠ mark), some behind)

/-- The part in front of the last mark if there is one, and the part behind it. -/
def splitLast (mark : Char) (cs : List Char) : Option (List Char) × List Char :=
  match splitFirst mark cs.reverse with
  | (behind, some front) => (some front.reverse, behind.reverse)
  | (_, none) => (none, cs)

/-- The characters of a text that count: none of the controls and blanks around it, and neither tabs
nor line breaks in it. -/
def meaningful (text : String) : List Char :=
  let isEdge := fun (c : Char) => c.toNat ≤ 32
  let inner := ((text.toList.dropWhile isEdge).reverse.dropWhile isEdge).reverse
  inner.filter fun c => c ≠ '\t' && c ≠ '\n' && c ≠ '\r'

def isScheme : List Char → Bool
  | [] => false
  | c :: rest => c.isAlpha && rest.all fun c => c.isAlphanum || c = '+' || c = '-' || c = '.'

/-- The schemes of the web, in which a backslash is as good as a slash and a host has to be named. -/
def webSchemes : List String := ["http", "https", "ws", "wss", "ftp", "file"]

/-- Splits the host and the port, in front of which there may be a colon in brackets. -/
def splitPort (cs : List Char) : List Char × Option (List Char) :=
  match cs with
  | '[' :: _ =>
    let (inside, behind) := splitFirst ']' cs
    match behind with
    | none => (cs, none)
    | some behind =>
      let (more, port) := splitFirst ':' behind
      (inside ++ ']' :: more, port)
  | _ => splitFirst ':' cs

/-- The URL in a text, or nothing when it has no scheme. -/
def split? (text : String) : Option ConnectionUrl :=
  let (scheme, behind) := splitFirst ':' (meaningful text)
  match behind with
  | none => none
  | some behind =>
    if !isScheme scheme then none
    else
      let name := (String.ofList scheme).toLower
      let (address, query) := splitFirst '?' (behind.takeWhile (· ≠ '#'))
      let address := if webSchemes.contains name then
        address.map fun c => if c = '\\' then '/' else c else address
      let query := query.getD []
      match address with
      | '/' :: '/' :: rest =>
        let (user, place) := splitLast '@' (rest.takeWhile (· ≠ '/'))
        let (host, port) := splitPort place
        some ⟨name, user, some host, port, rest.dropWhile (· ≠ '/'), query⟩
      | path => some ⟨name, none, none, none, path, query⟩

/-! ### The form of the parts -/

/-- The characters that may not stand in a host. -/
def hostMarks : List Char :=
  ['\x00', '\t', '\n', '\r', ' ', '#', '/', ':', '<', '>', '?', '@', '[', '\\', ']', '^', '|']

/-- Whether characters are a host: an address of version six in brackets, or a name. -/
def isHost (cs : List Char) : Bool :=
  match cs with
  | '[' :: rest =>
    match rest.reverse with
    | ']' :: inside => (SocketAddress.readAddress6 inside.reverse).any (·.2.isEmpty)
    | _ => false
  | cs => cs.all fun c => !hostMarks.contains c

def isPort (cs : List Char) : Bool := cs.isEmpty || (Text.digits? cs).any (· < 65536)

/-- Whether the authority of a URL has its form: where a user or a port is named, there is a host. -/
def hasAuthority (u : ConnectionUrl) : Bool :=
  match u.host with
  | none => !webSchemes.contains u.scheme
  | some host => isHost host && u.port.all isPort &&
    (!host.isEmpty || (u.port.isNone && u.user.all (·.isEmpty) &&
      (u.scheme = "file" || !webSchemes.contains u.scheme)))

/-- Whether what stands behind the escapes of a part is UTF-8. -/
def isReadable (cs : List Char) : Bool := (Text.percentDecode? (String.ofList cs)).isSome

/-- How a connection may be secured. -/
def securityModes : List String :=
  ["disable", "allow", "prefer", "require", "verify-ca", "verify-full"]

/-- Whether a text is an address of the Internet Protocol. -/
def isNetworkAddress (text : String) : Bool :=
  let cs := text.toList
  (SocketAddress.readOctets true 4 cs).any (·.2.isEmpty) ||
    (SocketAddress.readAddress6 cs).any (·.2.isEmpty)

/-- Whether a parameter has its form. -/
def isParameter (parameter : String × String) : Bool :=
  let (name, value) := parameter
  let below (bound : Nat) : Bool := (Text.natural? value.toList).any (· < bound)
  match name with
  | "sslmode" | "ssl-mode" => securityModes.contains value.toLower
  | "statement-cache-capacity" => below UInt64.size
  | "hostaddr" => isNetworkAddress value
  | "port" => below 65536
  | _ => true

/-- Whether a connection can be set up with a URL. -/
def isUsable (u : ConnectionUrl) : Bool :=
  u.hasAuthority && u.user.all isReadable && isReadable u.path &&
    (QueryString.ofText (String.ofList u.query)).pairs.all isParameter

/-- The URL in a text, if a connection can be set up with it. -/
def parse? (text : String) : Option ConnectionUrl := (split? text).filter isUsable

end ConnectionUrl

end Governance
