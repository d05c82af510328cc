import Rollout.Text.Utf8

/-!
# Rollout.Url — addresses

An address is a scheme, an authority, a path, a query and a fragment, each already in its encoded form.

* `Url.percent`: bytes outside a set are written as `%` and two digits.
* `Url.text`: the address written out; `Url.target` is what is asked of the server, if it `Url.isAskable`.
* `Url.extend`: adds segments to the path, each encoded as one segment; dot segments are left out.
-/

namespace Rollout

/-- A host: a name or number already in canonical form. -/
inductive UrlHost
  | name (text : String)
  | ipv6 (pieces : List Nat)
deriving DecidableEq, Repr, Inhabited

/-- Credentials, host and port. -/
structure Authority where
  user : String
  password : String
  host : UrlHost
  port : Option Nat
deriving DecidableEq, Repr, Inhabited

/-- The path: segments between slashes, or a text that has none. -/
inductive UrlPath
  | segments (items : List String)
  | opaqueText (text : String)
deriving DecidableEq, Repr, Inhabited

/-- An address. -/
structure Url where
  scheme : String
  authority : Option Authority
  path : UrlPath
  query : Option String
  fragment : Option String
deriving DecidableEq, Repr, Inhabited

namespace Url

/-! ## Percent encoding -/

/-- A byte as `%` and two upper-case digits. -/
def percentByte (b : UInt8) : List Char :=
  let digit (n : Nat) : Char := if n < 10 then Char.ofNat (48 + n) else Char.ofNat (55 + n)
  ['%', digit (b.toNat / 16), digit (b.toNat % 16)]

/-- One character, encoded if it is a control, outside ASCII or among `marks`. -/
def percentChar (marks : List Char) (c : Char) : List Char :=
  if c.toNat < 0x20 || 0x7E < c.toNat || marks.contains c then (Text.encodeChar c).flatMap percentByte else [c]

/-- A text in which controls, characters outside ASCII and `marks` are encoded. -/
def percent (marks : List Char) (cs : List Char) : String := String.ofList (cs.flatMap (percentChar marks))

def fragmentMarks : List Char := [' ', '"', '<', '>', '\x60']

def queryMarks (special : Bool) : List Char := [' ', '"', '#', '<', '>'] ++ if special then ['\''] else []

def pathMarks : List Char := fragmentMarks ++ ['#', '?', '\x7b', '\x7d']

def segmentMarks (special : Bool) : List Char := pathMarks ++ ['/', '%'] ++ if special then ['\\'] else []

def userMarks : List Char := pathMarks ++ ['/', ':', ';', '=', '@', '[', '\\', ']', '^', '|']

/-! ## Schemes -/

/-- The port that goes without saying. -/
def defaultPort? (scheme : String) : Option Nat :=
  if scheme = "http" || scheme = "ws" then some 80
  else if scheme = "https" || scheme = "wss" then some 443
  else if scheme = "ftp" then some 21
  else none

/-- Schemes whose addresses always have a host or are files. -/
def isSpecial (scheme : String) : Bool := (defaultPort? scheme).isSome || scheme = "file"

/-! ## Writing -/

/-- The longest run of two or more zeros: its start and its length. -/
def zeroRun (pieces : List Nat) : Nat × Nat :=
  let rec go (i start len bestStart bestLen : Nat) : List Nat → Nat × Nat
    | [] => if bestLen < len then (start, len) else (bestStart, bestLen)
    | p :: rest =>
      if p = 0 then go (i + 1) (if len = 0 then i else start) (len + 1) bestStart bestLen rest
      else if bestLen < len then go (i + 1) 0 0 start len rest
      else go (i + 1) 0 0 bestStart bestLen rest
  go 0 0 0 0 1 pieces

def hex (n : Nat) : String := String.ofList (Nat.toDigits 16 n)

def hostText : UrlHost → String
  | .name text => text
  | .ipv6 pieces =>
    let (start, len) := zeroRun pieces
    let join (ps : List Nat) : String := String.intercalate ":" (ps.map hex)
    if len < 2 then "[" ++ join pieces ++ "]"
    else "[" ++ join (pieces.take start) ++ "::" ++ join (pieces.drop (start + len)) ++ "]"

def Authority.text (a : Authority) : String :=
  let credentials :=
    if a.user = "" && a.password = "" then ""
    else a.user ++ (if a.password = "" then "" else ":" ++ a.password) ++ "@"
  credentials ++ hostText a.host ++ (match a.port with
    | some p => ":" ++ toString p
    | none => "")

def pathText : UrlPath → String
  | .segments items => String.join (items.map fun s => "/" ++ s)
  | .opaqueText text => text

def queryText (u : Url) : String :=
  match u.query with
  | some q => "?" ++ q
  | none => ""

/-- The address written out. -/
def text (u : Url) : String :=
  u.scheme ++ ":" ++
    (match u.authority with
      | some a => "//" ++ Authority.text a
      | none => if (pathText u.path).startsWith "//" then "/." else "") ++
    pathText u.path ++ u.queryText ++
    (match u.fragment with
      | some f => "#" ++ f
      | none => "")

/-- What is asked of the server: path and query. -/
def target (u : Url) : String := pathText u.path ++ u.queryText

/-- The address without its credentials. -/
def anonymous (u : Url) : Url :=
  { u with authority := u.authority.map fun a => { a with user := "", password := "" } }

/-- How many octets an address may have that is asked for. -/
def maxSize : Nat := 65534

/-- Whether a server can be asked for the address: it is of the web, not too long, and its host has no quotes and no
braces. -/
def isAskable (u : Url) : Bool :=
  (u.scheme = "http" || u.scheme = "https") && u.anonymous.text.utf8ByteSize ≤ maxSize &&
    u.authority.all fun a => (hostText a.host).toList.all fun c => !(['"', '\x60', '\x7b', '\x7d'].contains c)

/-! ## Paths -/

/-- Whether a segment stands for the directory itself. -/
def isDot (s : String) : Bool := [".", "%2e", "%2E"].contains s

/-- Whether a segment stands for the directory above. -/
def isDotDot (s : String) : Bool :=
  ["..", "%2e%2e", "%2e%2E", "%2E%2e", "%2E%2E", "%2e.", "%2E.", ".%2e", ".%2E"].contains s

/-- Whether a text begins as the name of a drive does: a letter with a colon or a bar. -/
def beginsDrive (cs : List Char) : Bool :=
  match cs with
  | a :: b :: _ => a.isAlpha && (b = ':' || b = '|')
  | _ => false

/-- Whether a segment names a drive. -/
def isDrive (s : String) : Bool := s.length = 2 && beginsDrive s.toList

/-- Whether a segment stays where the directory above it is asked for, because it names a drive or begins as one
does before a backslash. -/
def staysPut (s : String) : Bool :=
  isDrive s || (beginsDrive s.toList && s.toList[2]? = some '\\')

/-- A path with one more segment; a dot segment takes effect and leaves an empty one if it is the last.  The path of
a file may begin with a drive, whose name is a letter and a colon. -/
def addSegment (scheme : String) (items : List String) (s : String) (last : Bool) : List String :=
  let ending := if last then [""] else []
  if isDotDot s then (if items.getLast?.any staysPut then items else items.dropLast) ++ ending
  else if isDot s then items ++ ending
  else if scheme = "file" && items = [] && isDrive s then [String.ofList (s.toList.take 1 ++ [':'])]
  else items ++ [s]

/-- Tab, line feed and carriage return, which no address holds. -/
def isDropped (c : Char) : Bool := c = '\t' || c = '\n' || c = '\r'

/-- The path without an empty last segment. -/
def trimEmpty (items : List String) : List String := if items.getLast? = some "" then items.dropLast else items

/-- Adds one segment, encoded as a whole; the segments `.` and `..` are left out. -/
def pushSegment (scheme : String) (items : List String) (s : String) : List String :=
  if s = "." || s = ".." then items
  else
    let encoded := percent (segmentMarks (isSpecial scheme)) (s.toList.filter fun c => !isDropped c)
    let items := if items = [""] then [] else items
    addSegment scheme items encoded true

/-- The address with further path segments; none if its path is no list of segments. -/
def extend? (u : Url) (more : List String) : Option Url :=
  match u.path with
  | .segments items =>
    some { u with path := .segments (more.foldl (pushSegment u.scheme) (trimEmpty items)) }
  | .opaqueText _ => none

end Url

end Rollout
