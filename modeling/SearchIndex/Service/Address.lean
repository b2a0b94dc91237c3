/-
# Addresses

The address of a call is the text of a host with a path after it.  Reading it separates the
authority from the path and the query; the path is freed from dot segments, and a percent sign with
two hexadecimal digits stands for an octet.
-/
import SearchIndex.Failure
import SearchIndex.Json.Reader
import SearchIndex.Text.Octets

namespace SearchIndex

/-- An address that has been read. -/
structure Address where
  /-- The scheme with the authority. -/
  host : String
  /-- The path, with every character that it stands for. -/
  path : String
  /-- The names and values of the query. -/
  query : List (String × String)
  /-- The user and password that the authority names. -/
  user : Option (String × String)
deriving DecidableEq

namespace Address

/-! ## Percent signs -/

/-- The octets of characters, of which a percent sign with two digits gives one. -/
def percentOctets : List Char → List Nat
  | '%' :: a :: b :: rest =>
    match Json.hexValue? a, Json.hexValue? b with
    | some a, some b => (a * 16 + b) :: percentOctets rest
    | _, _ => Text.octetsOfChar '%' ++ percentOctets (a :: b :: rest)
  | c :: rest => Text.octetsOfChar c ++ percentOctets rest
  | [] => []

/-- The text that characters with percent signs stand for. -/
def decoded (cs : List Char) : String := String.ofList (Text.readOctets none (percentOctets cs))

/-! ## Queries -/

/-- The name and value of one part of a query; a plus stands for a space. -/
def queryPart (cs : List Char) : String × String :=
  let spaced := cs.map fun c => if c = '+' then ' ' else c
  (decoded (spaced.takeWhile (· ≠ '=')), decoded ((spaced.dropWhile (· ≠ '=')).drop 1))

/-- The names and values of a query. -/
def queryParts (cs : List Char) : List (String × String) :=
  ((cs.splitOn '&').filter fun part => !part.isEmpty).map queryPart

/-! ## Paths -/

/-- Resolves dot segments; `kept` are the segments kept so far, last first. -/
def resolveDots (kept : List (List Char)) : List (List Char) → List (List Char)
  | [] => kept.reverse
  | ['.'] :: rest => resolveDots kept rest
  | ['.', '.'] :: rest =>
    resolveDots (if kept = [[]] then kept else kept.drop 1) rest
  | segment :: rest => resolveDots (segment :: kept) rest

/-- A path without dot segments. -/
def withoutDots (cs : List Char) : List Char :=
  let segments := cs.splitOn '/'
  if segments.any fun s => s = ['.'] ∨ s = ['.', '.'] then
    List.intercalate ['/'] (resolveDots [] segments)
  else cs

/-! ## Authorities -/

/-- Whether characters can be a scheme. -/
def isScheme (cs : List Char) : Bool :=
  match cs with
  | [] => true
  | c :: rest => c.isAlpha && rest.all fun d => d.isAlphanum || d = '+' || d = '.' || d = '-'

/-- The scheme of an address, and what follows it. -/
def splitScheme (cs : List Char) : List Char × List Char :=
  let before := cs.takeWhile (· ≠ ':')
  match cs.drop before.length with
  | ':' :: rest => if isScheme before then (before, rest) else ([], cs)
  | _ => ([], cs)

/-- The authority of an address, and what follows it. -/
def splitAuthority (cs : List Char) : List Char × List Char :=
  match cs with
  | '/' :: '/' :: rest =>
    let isInside (c : Char) : Bool := c ≠ '/' && c ≠ '?' && c ≠ '#'
    (rest.takeWhile isInside, rest.dropWhile isInside)
  | _ => ([], cs)

/-- The part of an authority before its last at sign, and the part after it. -/
def splitUser (cs : List Char) : List Char × List Char :=
  let behind := (cs.reverse.takeWhile (· ≠ '@')).reverse
  (cs.take (cs.length - behind.length - 1), behind)

/-- The name of a host, which may stand in brackets, and what follows it. -/
def splitName (cs : List Char) : List Char × List Char :=
  match cs with
  | '[' :: _ =>
    let closed := (cs.reverse.dropWhile (· ≠ ']')).reverse
    if closed.isEmpty then (cs.takeWhile (· ≠ ':'), cs.dropWhile (· ≠ ':'))
    else (closed, cs.drop closed.length)
  | _ => (cs.takeWhile (· ≠ ':'), cs.dropWhile (· ≠ ':'))

/-- The socket number that a scheme stands for. -/
def standardSocket? (scheme : String) : Option Nat :=
  if scheme = "http" ∨ scheme = "ws" then some 80
  else if scheme = "https" ∨ scheme = "wss" then some 443
  else if scheme = "ftp" then some 21
  else none

/-- The socket number as the authority keeps it: nothing when none is given or it is the standard
one. -/
def socketText (scheme : String) (cs : List Char) : Except Misfit String :=
  let digits := cs.drop 1
  if digits.isEmpty then .ok ""
  else if digits.all Char.isDigit then
    let socket := Numeral.value digits
    .ok (if standardSocket? scheme = some socket then "" else s!":{socket}")
  else .error .badAddress

/-- Whether a name that looks like four numbers is no such address. -/
def isBadNumeric (cs : List Char) : Bool :=
  let parts := cs.splitOn '.'
  let numeric := parts.length = 4 ∧ parts.all fun p => !p.isEmpty && p.all Char.isDigit
  let sound (p : List Char) : Bool :=
    p.length ≤ 3 && Numeral.value p ≤ 255 && (p.head? ≠ some '0' || p.length = 1)
  numeric && !parts.all sound

/-- The host of an authority in its normal form. -/
def hostText (scheme : String) (cs : List Char) : Except Misfit String := do
  let (name, socket) := splitName cs
  if isBadNumeric name then throw .badAddress
  let socket ← socketText scheme socket
  return String.ofList (name.map Char.toLower) ++ socket

/-- The user and password of an authority. -/
def userOf (cs : List Char) : Option (String × String) :=
  let name := decoded (cs.takeWhile (· ≠ ':'))
  let password := decoded ((cs.dropWhile (· ≠ ':')).drop 1)
  if name.isEmpty && password.isEmpty then none else some (name, password)

/-! ## Reading -/

/-- Addresses are not longer than this. -/
def maxLength : Nat := 65536

/-- A control character of ASCII. -/
def isControl (c : Char) : Bool := c.toNat < 0x20 || c.toNat = 0x7F

/-- The path and query of an address without a host. -/
def relative (path query : List Char) : Address :=
  ⟨"://", decoded ('/' :: path.dropWhile (· = '/')), queryParts query, none⟩

/-- Reads an address. -/
def read (s : String) : Except Misfit Address := do
  let cs := s.toList
  if maxLength < cs.length || cs.any isControl then throw .badAddress
  let (scheme, afterScheme) := splitScheme cs
  let (authority, afterAuthority) := splitAuthority afterScheme
  let beforeFragment := afterAuthority.takeWhile (· ≠ '#')
  let path := beforeFragment.takeWhile (· ≠ '?')
  let query := (beforeFragment.dropWhile (· ≠ '?')).drop 1
  let (user, named) := splitUser authority
  let host ← hostText (String.ofList scheme) named
  if authority.isEmpty && scheme.isEmpty then
    match path with
    | ':' :: _ | '/' :: '/' :: _ => throw .badAddress
    | _ => return relative path query
  let path := withoutDots path
  if scheme.isEmpty || host.isEmpty || host.startsWith ":" then return relative path query
  let scheme := String.ofList (scheme.map Char.toLower)
  return ⟨scheme ++ "://" ++ host, if path.isEmpty then "/" else decoded path,
    queryParts query, userOf user⟩

end Address

end SearchIndex
