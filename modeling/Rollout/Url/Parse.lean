import Rollout.Text.Digit
import Rollout.Text.Search
import Rollout.Url.Basic
import Rollout.Url.Domain

/-!
# Rollout.Url.Parse — reading addresses

An address is read from its scheme on; without a scheme it is refused.  Addresses of the common schemes always
have a host, a host that ends in a number is an IPv4 address, and dot segments of the path take effect.
-/

namespace Rollout

namespace UrlHost

/-! ## IPv4 -/

/-- A part of an IPv4 address: hexadecimal, octal or decimal. -/
def ipv4Part? (cs : List Char) : Option Nat :=
  match cs with
  | [] => none
  | '0' :: 'x' :: rest => Text.digits? 16 rest
  | '0' :: 'X' :: rest => Text.digits? 16 rest
  | '0' :: d :: rest => Text.digits? 8 (d :: rest)
  | cs => Text.digits? 10 cs

/-- The labels of a host without an empty last one. -/
def labels (cs : List Char) : List (List Char) :=
  let parts := Text.splitAt '.' cs
  if parts.getLast? = some [] && 1 < parts.length then parts.dropLast else parts

/-- Whether a host counts as an IPv4 address. -/
def endsInNumber (cs : List Char) : Bool :=
  match (labels cs).getLast? with
  | none => false
  | some [] => false
  | some label => label.all Char.isDigit || (ipv4Part? label).isSome

/-- The value of an IPv4 address of one to four parts. -/
def ipv4? (cs : List Char) : Option Nat := do
  let parts ← (labels cs).mapM ipv4Part?
  if parts = [] || 4 < parts.length then none
  let last ← parts.getLast?
  let first := parts.dropLast
  if first.any (255 < ·) || 1 <<< (8 * (5 - parts.length)) ≤ last then none
  return (first.zipIdx.foldl (fun n (p, i) => n + p <<< (8 * (3 - i))) last)

def ipv4Text (n : Nat) : String :=
  String.intercalate "." ([3, 2, 1, 0].map fun i => toString (n >>> (8 * i) % 256))

/-! ## IPv6 -/

/-- One piece of up to four hexadecimal digits. -/
def ipv6Piece? (cs : List Char) : Option Nat := if cs = [] || 4 < cs.length then none else Text.digits? 16 cs

/-- The decimal numbers of an IPv4 address at the end of an IPv6 address, as two pieces. -/
def ipv4Pieces? (cs : List Char) : Option (List Nat) := do
  let parts ← (Text.splitAt '.' cs).mapM fun p =>
    if p = [] || !p.all Char.isDigit || (p.head? = some '0' && 1 < p.length) then none
    else (Text.digits? 10 p).bind fun n => if n ≤ 255 then some n else none
  match parts with
  | [a, b, c, d] => some [a * 256 + b, c * 256 + d]
  | _ => none

/-- The pieces between colons; the last may be an IPv4 address. -/
def ipv6Pieces? (cs : List Char) : Option (List Nat) :=
  if cs = [] then some []
  else
    let rec go : List (List Char) → Option (List Nat)
      | [] => some []
      | [p] => if p.contains '.' then ipv4Pieces? p else (ipv6Piece? p).map fun n => [n]
      | p :: rest => do return (← ipv6Piece? p) :: (← go rest)
    go (Text.splitAt ':' cs)

/-- Splits at the first two colons in a row. -/
def splitGap : List Char → Option (List Char × List Char)
  | ':' :: ':' :: rest => some ([], rest)
  | c :: rest => (splitGap rest).map fun (a, b) => (c :: a, b)
  | [] => none

/-- The eight pieces of an IPv6 address. -/
def ipv6? (cs : List Char) : Option (List Nat) := do
  match splitGap cs with
  | none =>
    let pieces ← ipv6Pieces? cs
    if pieces.length = 8 then some pieces else none
  | some (left, right) =>
    let a ← ipv6Pieces? left
    let b ← ipv6Pieces? right
    if left.contains '.' || 7 < a.length + b.length then none
    else some (a ++ List.replicate (8 - a.length - b.length) 0 ++ b)

/-! ## Names -/

/-- Bytes with their percent encoding undone. -/
def unpercent : List UInt8 → List UInt8
  | 0x25 :: a :: b :: rest =>
    match Text.digit? 16 (Char.ofNat a.toNat), Text.digit? 16 (Char.ofNat b.toNat) with
    | some x, some y => (x * 16 + y).toUInt8 :: unpercent rest
    | _, _ => 0x25 :: unpercent (a :: b :: rest)
  | b :: rest => b :: unpercent rest
  | [] => []

/-- Characters that no host holds. -/
def isForbidden (c : Char) : Bool :=
  c.toNat = 0 || ['\t', '\n', '\r', ' ', '#', '/', ':', '<', '>', '?', '@', '[', '\\', ']', '^', '|'].contains c

/-- Characters that no domain name holds. -/
def isForbiddenInDomain (c : Char) : Bool := isForbidden c || c.toNat < 0x20 || c = '%' || c.toNat = 0x7F

/-- The host of an address of a common scheme. -/
def special? (cs : List Char) : Option UrlHost :=
  match cs with
  | '[' :: rest =>
    if rest.getLast? = some ']' then (ipv6? rest.dropLast).map .ipv6 else none
  | _ => do
    let ascii ← Domain.toAscii? (← Text.decode? (unpercent (Text.encode (String.ofList cs))))
    if ascii = [] || ascii.any isForbiddenInDomain then none
    else if endsInNumber ascii then (ipv4? ascii).map fun n => .name (ipv4Text n)
    else some (.name (String.ofList ascii))

/-- The host of an address of any other scheme. -/
def other? (cs : List Char) : Option UrlHost :=
  match cs with
  | '[' :: rest =>
    if rest.getLast? = some ']' then (ipv6? rest.dropLast).map .ipv6 else none
  | _ => if cs.any isForbidden then none else some (.name (Url.percent [] cs))

end UrlHost

namespace Url

/-- The scheme in lower case and what follows its colon. -/
def scheme? (cs : List Char) : Option (String × List Char) :=
  match cs with
  | c :: _ =>
    if !c.isAlpha then none
    else
      let isSchemeChar (c : Char) : Bool := c.isAlphanum || c = '+' || c = '-' || c = '.'
      match cs.dropWhile isSchemeChar with
      | ':' :: rest => some (String.ofList ((cs.takeWhile isSchemeChar).map Char.toLower), rest)
      | _ => none
  | [] => none

/-- Splits before the first character that satisfies `p`. -/
def splitBefore (p : Char → Bool) (cs : List Char) : List Char × List Char :=
  (cs.takeWhile fun c => !p c, cs.dropWhile fun c => !p c)

/-- Splits at the last occurrence of a character. -/
def splitLast (sep : Char) (cs : List Char) : Option (List Char × List Char) :=
  if cs.contains sep then
    let after := (cs.reverse.takeWhile (· ≠ sep)).reverse
    some (cs.take (cs.length - after.length - 1), after)
  else none

/-- The part of a host up to the colon of its port; colons inside brackets do not count. -/
def splitPort (cs : List Char) : List Char × Option (List Char) :=
  let rec go (inside : Bool) (host : List Char) : List Char → List Char × Option (List Char)
    | [] => (host.reverse, none)
    | c :: rest =>
      if c = ':' && !inside then (host.reverse, some rest)
      else go (if c = '[' then true else if c = ']' then false else inside) (c :: host) rest
  go false [] cs

/-- The port; none inside if it is the one that goes without saying. -/
def port? (scheme : String) (cs : Option (List Char)) : Option (Option Nat) :=
  match cs with
  | none => some none
  | some [] => some none
  | some digits =>
    if digits.all Char.isDigit then
      match Text.digits? 10 digits with
      | some n => if n ≤ 65535 then some (if defaultPort? scheme = some n then none else some n) else none
      | none => none
    else none

/-- Credentials, host and port; `atEnd` tells whether nothing follows them. -/
def authority? (scheme : String) (atEnd : Bool) (cs : List Char) : Option Authority := do
  let (credentials, hostPort) := match splitLast '@' cs with
    | some (c, h) => (some c, h)
    | none => (none, cs)
  let (user, password) := match credentials with
    | none => ([], [])
    | some c => match splitBefore (· = ':') c with
      | (u, ':' :: p) => (u, p)
      | (u, _) => (u, [])
  let (host, port) := splitPort hostPort
  if host = [] && (port.isSome || user ≠ [] || password ≠ [] || (credentials = some [] && !atEnd)) then none
  let host ← if isSpecial scheme then UrlHost.special? host else UrlHost.other? host
  let port ← port? scheme port
  some ⟨percent userMarks user, percent userMarks password, host, port⟩

/-- The segments of a path after its first slash. -/
def segments (scheme : String) (cs : List Char) : List String :=
  let parts := Text.splitAt '/' (cs.map fun c => if isSpecial scheme && c = '\\' then '/' else c)
  let rec go (items : List String) : List (List Char) → List String
    | [] => items
    | [p] => addSegment scheme items (percent pathMarks p) true
    | p :: rest => go (addSegment scheme items (percent pathMarks p) false) rest
  go [] parts

/-- Query and fragment. -/
def tail (special : Bool) (cs : List Char) : Option String × Option String :=
  let (query, fragment) := splitBefore (· = '#') cs
  (match query with
    | '?' :: q => some (percent (queryMarks special) q)
    | _ => none,
   match fragment with
    | '#' :: f => some (percent fragmentMarks f)
    | _ => none)

/-- The path and what follows it, after the authority. -/
def withPath (scheme : String) (authority : Option Authority) (cs : List Char) : Url :=
  let special := isSpecial scheme
  let (path, rest) := splitBefore (fun c => c = '?' || c = '#') cs
  let items := match path with
    | [] => if special then [""] else []
    | _ :: p => segments scheme p
  let (query, fragment) := tail special rest
  ⟨scheme, authority, .segments items, query, fragment⟩

/-! ## Files -/

/-- A file on a host.  Its path has no empty segments in front, and one that begins with a drive is on this
machine. -/
def file (host : UrlHost) (cs : List Char) : Url :=
  let authority (host : UrlHost) : Option Authority := some ⟨"", "", host, none⟩
  let u := withPath "file" (authority host) cs
  match u.path with
  | .segments items =>
    let kept := items.dropWhile (· = "")
    let local_ := items.head?.any isDrive
    { u with
      authority := authority (if local_ then .name "" else host)
      path := .segments (if kept = [] then [""] else kept) }
  | .opaqueText _ => u

/-- The address of a file, after its scheme: on the host after two slashes, or on this machine. -/
def file? (cs : List Char) : Option Url := do
  let isSlash (c : Char) : Bool := c = '/' || c = '\\'
  let here : UrlHost := .name ""
  match cs with
  | a :: b :: rest =>
    if isSlash a && isSlash b then
      let (host, path) := splitBefore (fun c => isSlash c || c = '?' || c = '#') rest
      if host = [] then return file here path
      else if isDrive (String.ofList host) then return file here ('/' :: rest)
      else
        let host ← UrlHost.special? host
        return file (if host = .name "localhost" then here else host) path
    else return file here (if isSlash a then cs else '/' :: cs)
  | [a] => return file here (if isSlash a then cs else '/' :: cs)
  | [] => return file here []

/-! ## Addresses -/

/-- Splits an authority from what follows it.  A backslash ends it where it stands for a slash, and after the digits
of a port in any case; the path after that begins with a slash of its own. -/
def splitAuthority (special : Bool) (cs : List Char) : List Char × List Char :=
  let (authority, path) := splitBefore (fun c => c = '/' || c = '?' || c = '#' || (special && c = '\\')) cs
  let hostPort := ((splitLast '@' authority).map Prod.snd).getD authority
  match (splitPort hostPort).2 with
  | some port =>
    let after := port.dropWhile (· ≠ '\\')
    if after = [] then (authority, path)
    else (authority.take (authority.length - after.length), '/' :: (after ++ path))
  | none => (authority, path)

/-- An address with an authority, after its slashes. -/
def withAuthority? (scheme : String) (cs : List Char) : Option Url := do
  let (authority, path) := splitAuthority (isSpecial scheme) cs
  return withPath scheme (some (← authority? scheme (path = []) authority)) path

/-- Reads an address. -/
def parse? (text : String) : Option Url := do
  let isEdge (c : Char) : Bool := c.toNat ≤ 0x20
  let cs := ((text.toList.dropWhile isEdge).reverse.dropWhile isEdge).reverse.filter fun c => !isDropped c
  let (scheme, rest) ← scheme? cs
  if scheme = "file" then file? rest
  else if isSpecial scheme then withAuthority? scheme (rest.dropWhile fun c => c = '/' || c = '\\')
  else
    match rest with
    | '/' :: '/' :: rest => withAuthority? scheme rest
    | '/' :: _ => return withPath scheme none rest
    | _ =>
      let (path, after) := splitBefore (fun c => c = '?' || c = '#') rest
      let (query, fragment) := tail false after
      return ⟨scheme, none, .opaqueText (percent [] path), query, fragment⟩

/-- Whether the path is a list of segments. -/
def isHierarchical (u : Url) : Bool :=
  match u.path with
  | .segments _ => true
  | .opaqueText _ => false

end Url

end Rollout
