import Sluice.Url.Domain
import Sluice.Url.Path

/-!
# URLs

`Url.parse` reads an absolute URL as far as scheme, host and port must be well formed, and keeps its
scheme and path. Input is taken as browsers take it: space around it and line breaks inside are
dropped, and for the well-known schemes a backslash is a slash.
-/

namespace Sluice

/-- What is wrong with a URL. -/
inductive UrlFault where
  /-- It has no scheme. -/
  | relative
  /-- The host is missing. -/
  | emptyHost
  /-- The port is no number of 16 bits. -/
  | port
  /-- The host ends in a number and is no IPv4 address. -/
  | ipv4
  /-- The host begins with a bracket and is no IPv6 address. -/
  | ipv6
  /-- The host is no domain name. -/
  | domain
  /-- The host has a character that hosts do not have. -/
  | hostCharacter
  deriving DecidableEq, Repr

/-- The text for people. -/
def UrlFault.message : UrlFault → String
  | relative => "relative URL without a base"
  | emptyHost => "empty host"
  | port => "invalid port number"
  | ipv4 => "invalid IPv4 address"
  | ipv6 => "invalid IPv6 address"
  | domain => "invalid international domain name"
  | hostCharacter => "invalid domain character"

/-- An absolute URL. -/
structure Url where
  /-- The scheme in lower case. -/
  scheme : String
  /-- The path. -/
  path : String
  deriving DecidableEq, Repr

namespace Url

/-- How the part after the scheme is read. -/
inductive Kind where
  /-- A host is required. -/
  | special
  /-- A path of the local machine, perhaps with a host. -/
  | file
  /-- Anything else. -/
  | other
  deriving DecidableEq, Repr

/-- The kind of a scheme. -/
def kindOf (scheme : String) : Kind :=
  if ["http", "https", "ws", "wss", "ftp"].contains scheme then .special
  else if scheme = "file" then .file
  else .other

/-- A character that cuts a path. -/
def isSlash (kind : Kind) (c : Char) : Bool := c == '/' || (kind != .other && c == '\\')

/-- A character that ends the host. -/
def endsHost (kind : Kind) (c : Char) : Bool := isSlash kind c || c == '?' || c == '#'

/-- Without space and control characters at the ends, and without tabs and line breaks. -/
def clean (cs : List Char) : List Char :=
  let blank (c : Char) : Bool := c.toNat ≤ 32
  (((cs.dropWhile blank).reverse.dropWhile blank).reverse).filter
    fun c => c != '\t' && c != '\n' && c != '\r'

/-- The scheme in lower case, and what follows its colon. -/
def splitScheme? (cs : List Char) : Option (String × List Char) :=
  let isSchemeChar (c : Char) : Bool := c.isAlphanum || c == '+' || c == '-' || c == '.'
  let scheme := cs.takeWhile isSchemeChar
  match cs.drop scheme.length with
  | ':' :: r =>
    if (scheme.head?.any Char.isAlpha) then
      some (String.ofList (scheme.map Char.toLower), r)
    else none
  | _ => none

/-- The host up to its end or the colon before a port; inside brackets a colon is no end. -/
def hostLength (kind : Kind) (bracket : Bool) : List Char → Nat
  | [] => 0
  | c :: r =>
    if (c == ':' && !bracket) || endsHost kind c then 0
    else hostLength kind (if c == '[' then true else if c == ']' then false else bracket) r + 1

/-- A host in brackets is an IPv6 address. -/
def bracketed? (cs : List Char) : Option (Except UrlFault Unit) :=
  match cs with
  | '[' :: r =>
    some (if r.getLast? = some ']' ∧ isIpv6 r.dropLast then .ok () else .error .ipv6)
  | _ => none

/-- The host of a well-known scheme: an address or a domain name. -/
def checkHost (cs : List Char) : Except UrlFault Unit :=
  match bracketed? cs with
  | some outcome => outcome
  | none =>
    match domain? (percentDecode (Utf8.encode cs)) with
    | none => .error .domain
    | some [] => .error .emptyHost
    | some d => if endsInNumber d && !isIpv4 d then .error .ipv4 else .ok ()

/-- The host of another scheme: an address, or any text without delimiters. -/
def checkOpaqueHost (cs : List Char) : Except UrlFault Unit :=
  match bracketed? cs with
  | some outcome => outcome
  | none =>
    if cs.any fun c => c == '\x00' || " #/:<>?@[\\]^|".toList.contains c then .error .hostCharacter
    else .ok ()

/-- What follows the port. -/
def afterPort (cs : List Char) : Except UrlFault (List Char) :=
  let ds := cs.takeWhile Char.isDigit
  let rest := cs.drop ds.length
  if 65535 < Digits.value ds then .error .port
  else match rest with
    | [] => .ok []
    | c :: _ => if ['/', '\\', '?', '#'].contains c then .ok rest else .error .port

/-- What follows the user before an at sign, and whether there is one. -/
def afterUser (kind : Kind) (cs : List Char) : Except UrlFault (Bool × List Char) :=
  let authority := cs.takeWhile fun c => !endsHost kind c
  if authority.contains '@' then
    let host := (authority.reverse.takeWhile (· != '@')).reverse
    let user := authority.take (authority.length - host.length - 1)
    let rest := cs.drop (user.length + 1)
    if user.isEmpty && host.isEmpty && !(cs.drop authority.length).isEmpty then .error .emptyHost
    else .ok (!user.isEmpty && user != [':'], rest)
  else .ok (false, cs)

/-- The path up to a query or a fragment. -/
def untilQuery (cs : List Char) : List Char := cs.takeWhile fun c => c != '?' && c != '#'

/-- The path that begins at its first slash, or is empty. -/
def pathOf (kind : Kind) (cs : List Char) : List Char :=
  match untilQuery cs with
  | [] => if kind = .other then [] else ['/']
  | c :: r =>
    if isSlash kind c then pathChars (kind = .file) (isSlash kind) r
    else pathChars (kind = .file) (isSlash kind) (c :: r)

/-- What follows the two slashes: user, host, port and path. -/
def afterSlashes (kind : Kind) (cs : List Char) : Except UrlFault (List Char) := do
  let (hasUser, cs) ← afterUser kind cs
  let n := hostLength kind false cs
  let host := cs.take n
  let rest := cs.drop n
  if kind = .special && host.isEmpty then throw .emptyHost
  if kind = .special then checkHost host else checkOpaqueHost host
  if host.isEmpty && rest.head? = some ':' then throw .emptyHost
  let rest ← match rest with
    | ':' :: r => afterPort r
    | r => pure r
  if host.isEmpty && hasUser then throw .emptyHost
  return pathOf kind rest

/-- What follows the scheme of a local path. -/
def afterFile (cs : List Char) : Except UrlFault (List Char) :=
  match cs with
  | a :: b :: r =>
    if isSlash .file a && isSlash .file b then do
      let host := r.takeWhile fun c => !endsHost .file c
      if isDrive host then return pathOf .file r
      if !host.isEmpty then checkHost host
      return pathOf .file (r.drop host.length)
    else return pathOf .file cs
  | cs => return pathOf .file cs

/-- Reads an absolute URL. -/
def parse (s : String) : Except UrlFault Url :=
  match splitScheme? (clean s.toList) with
  | none => .error .relative
  | some (scheme, rest) =>
    let path := match kindOf scheme, rest with
      | .special, rest => afterSlashes .special (rest.dropWhile (isSlash .special))
      | .file, rest => afterFile rest
      | .other, '/' :: '/' :: r => afterSlashes .other r
      | .other, '/' :: r => .ok (pathOf .other ('/' :: r))
      | .other, r => .ok (percentEncode isControl (untilQuery r))
    path.map fun p => ⟨scheme, String.ofList p⟩

end Url

end Sluice
