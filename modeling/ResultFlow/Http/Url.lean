import ResultFlow.Number.Decimal
import ResultFlow.Text

/-!
# Addresses

An address has a scheme, usually an authority (the host and, unless it is the usual one of the
scheme, the number of the endpoint), a path, and perhaps a query and a fragment. `Url.read?` brings
an address into its normal form: letters of scheme and host in lower case, a numeric host as four
numbers, dot segments resolved, and characters that may not stand in a part written as percent and
two digits for each byte. User information is no part of it; `Url.userInfo?` finds it in the text.
-/

namespace ResultFlow

/-- An address in normal form. -/
structure Url where
  scheme : String
  authority : Option String
  path : String
  query : Option String
  fragment : Option String
  deriving DecidableEq, Inhabited

namespace Url

/-- The path and the query, as a request names them. -/
def target (u : Url) : String :=
  u.path ++ (match u.query with
    | none => ""
    | some q => "?" ++ q)

/-- The text of an address. -/
def text (u : Url) : String :=
  u.scheme ++ ":" ++
    (match u.authority with
      | none => ""
      | some a => "//" ++ a) ++
    u.target ++
    (match u.fragment with
      | none => ""
      | some f => "#" ++ f)

/-! ## Characters -/

/-- The digits of a byte after a percent sign. -/
def hexByte (b : UInt8) : List Char :=
  let digit (n : Nat) : Char := (Nat.digitChar n).toUpper
  [digit (b.toNat / 16), digit (b.toNat % 16)]

/-- The text with every character outside printable ASCII, and those in `set`, as percent bytes. -/
def encode (set : List Char) (cs : List Char) : String :=
  String.ofList (cs.flatMap fun c =>
    if c.toNat < 0x20 ∨ 0x7E < c.toNat ∨ c ∈ set then
      (String.singleton c).toUTF8.toList.flatMap fun b => '%' :: hexByte b
    else [c])

/-- The characters that may not stand in a fragment. -/
def fragmentSet : List Char := [' ', '"', '<', '>', '\x60']

/-- The characters that may not stand in a path. -/
def pathSet : List Char := fragmentSet ++ ['#', '?', '\x7b', '\x7d']

/-- The characters that may not stand in a query; a single quote only for the schemes of the web. -/
def querySet (special : Bool) : List Char :=
  [' ', '"', '#', '<', '>'] ++ if special then [Char.ofNat 0x27] else []

/-- The usual endpoint of a scheme of the web. -/
def usualEndpoint? (scheme : String) : Option Nat :=
  [("http", 80), ("https", 443), ("ws", 80), ("wss", 443), ("ftp", 21)].lookup scheme

/-! ## Hosts -/

/-- The pieces of a text between the characters that satisfy `p`. -/
def pieces (p : Char → Bool) : List Char → List (List Char)
  | [] => [[]]
  | c :: cs =>
    match pieces p cs with
    | [] => [[c]]
    | s :: rest => if p c then [] :: s :: rest else (c :: s) :: rest

/-- A character that no host may hold. -/
def isForbidden (c : Char) : Bool :=
  c.toNat ≤ 0x20 || 0x7F ≤ c.toNat ||
    ['#', '/', ':', '<', '>', '?', '@', '[', '\\', ']', '^', '|', '%'].contains c

/-- The value of a digit below 16. -/
def hexValue? (c : Char) : Option Nat :=
  if c.isDigit then some (c.toNat - 0x30)
  else if 'a' ≤ c ∧ c ≤ 'f' then some (c.toNat - 0x57)
  else if 'A' ≤ c ∧ c ≤ 'F' then some (c.toNat - 0x37)
  else none

/-- The value of digits in a base. -/
def valueIn? (base : Nat) (cs : List Char) : Option Nat :=
  cs.foldlM (fun n c => do
    let d ← hexValue? c
    if d < base then some (base * n + d) else none) 0

/-- A part of a numeric host: decimal, octal after `0`, or hexadecimal after `0x`. -/
def hostNumber? : List Char → Option Nat
  | [] => none
  | '0' :: 'x' :: cs => valueIn? 16 cs
  | ['0'] => some 0
  | '0' :: cs => valueIn? 8 cs
  | cs => valueIn? 10 cs

/-- The number of a host with numeric parts, of which the last fills all bytes that are left. -/
def ipv4? (parts : List Nat) : Option Nat :=
  match parts.reverse with
  | [] => none
  | last :: front =>
    if parts.length ≤ 4 ∧ front.all (· < 256) ∧ last < Nat.pow 256 (5 - parts.length) then
      some (front.foldr (fun n low => 256 * low + n) 0 * Nat.pow 256 (5 - parts.length) + last)
    else none

/-- The four numbers of a numeric host. -/
def ipv4Text (n : Nat) : String :=
  ".".intercalate ([3, 2, 1, 0].map fun i => toString (n / Nat.pow 256 i % 256))

/-- The bytes of a text in which percent and two digits stand for a byte. -/
def decoded : List Char → List Char
  | '%' :: a :: b :: r =>
    match hexValue? a, hexValue? b with
    | some x, some y => Char.ofNat (16 * x + y) :: decoded r
    | _, _ => '%' :: decoded (a :: b :: r)
  | c :: r => c :: decoded r
  | [] => []

/-- The normal form of a host name. -/
def domain? (cs : List Char) : Option String :=
  let name := (decoded cs).map Char.toLower
  if name = [] ∨ name.any isForbidden then none
  else
    let parts := pieces (· = '.') name
    let parts := if parts.getLast? = some [] ∧ 1 < parts.length then parts.dropLast else parts
    let numeric := parts.getLast?.any fun last : List Char =>
      (!last.isEmpty && last.all Char.isDigit) || (hostNumber? last).isSome
    if numeric then ((parts.mapM hostNumber?).bind ipv4?).map ipv4Text
    else some (String.ofList name)

/-- The groups of an IPv6 address without a gap. -/
def groups? (s : String) : Option (List Nat) :=
  if s = "" then some []
  else (s.splitOn ":").mapM fun g =>
    if g ≠ "" ∧ g.length ≤ 4 then valueIn? 16 g.toList else none

/-- The eight groups of an IPv6 address. -/
def ipv6? (cs : List Char) : Option (List Nat) :=
  match (String.ofList cs).splitOn "::" with
  | [s] => (groups? s).filter (·.length = 8)
  | [s, t] => do
    let front ← groups? s
    let back ← groups? t
    if front.length + back.length < 8 then
      some (front ++ List.replicate (8 - front.length - back.length) 0 ++ back)
    else none
  | _ => none

/-- The length of the run of zeros at the start. -/
def zeros (gs : List Nat) : Nat := (gs.takeWhile (· = 0)).length

/-- The text of eight groups, with the first of the longest runs of zeros left out. -/
def ipv6Text (gs : List Nat) : String :=
  let runs := (List.range 8).map fun i => zeros (gs.drop i)
  let longest := runs.foldl max 0
  let hex (part : List Nat) : String :=
    ":".intercalate (part.map fun n => String.ofList (Nat.toDigits 16 n))
  if longest < 2 then hex gs
  else
    let i := runs.findIdx (· = longest)
    hex (gs.take i) ++ "::" ++ hex (gs.drop (i + longest))

/-- The normal form of a host. -/
def host? (special : Bool) (cs : List Char) : Option String :=
  match cs with
  | '[' :: r =>
    if r.getLast? = some ']' then (ipv6? r.dropLast).map fun gs => "[" ++ ipv6Text gs ++ "]"
    else none
  | _ =>
    if special then domain? cs
    else if cs.any fun c => c ≠ '%' ∧ c.toNat < 0x7F ∧ isForbidden c then none
    else some (encode [] cs)

/-- The parts before and after the last colon outside brackets. -/
def splitEndpoint (cs : List Char) : List Char × Option (List Char) :=
  let after := (cs.reverse.takeWhile fun c => c ≠ ':' ∧ c ≠ ']').reverse
  match (cs.take (cs.length - after.length)).getLast? with
  | some ':' => (cs.take (cs.length - after.length - 1), some after)
  | _ => (cs, none)

/-- The normal form of an authority; the usual endpoint of the scheme is left out. -/
def authority? (scheme : String) (cs : List Char) : Option String := do
  let special := (usualEndpoint? scheme).isSome
  let cs := if '@' ∈ cs then (cs.reverse.takeWhile (· ≠ '@')).reverse else cs
  let (name, endpoint) := splitEndpoint cs
  let host ← host? special name
  match endpoint with
  | none | some [] => some host
  | some digits =>
    let n ← Integer.digits? digits
    if 0x10000 ≤ n then none
    else if usualEndpoint? scheme = some n then some host
    else some (host ++ ":" ++ toString n)

/-! ## Paths -/

def isSingleDot (s : String) : Bool := s = "." || Text.lower s = "%2e"

def isDoubleDot (s : String) : Bool :=
  ["..", ".%2e", "%2e.", "%2e%2e"].contains (Text.lower s)

/-- The segments that stay, last first. A dot segment at the end leaves an empty one. -/
def resolve (kept : List String) : List String → List String
  | [] => kept
  | s :: rest =>
    if isDoubleDot s then
      resolve (if rest.isEmpty then "" :: kept.drop 1 else kept.drop 1) rest
    else if isSingleDot s then resolve (if rest.isEmpty then "" :: kept else kept) rest
    else resolve (s :: kept) rest

/-- The normal form of a path that begins with a slash. -/
def pathText (special : Bool) (cs : List Char) : String :=
  let segments := pieces (fun c => c = '/' ∨ (special ∧ c = '\\')) (cs.drop 1)
  "/" ++ "/".intercalate (resolve [] (segments.map (encode pathSet))).reverse

/-! ## Whole addresses -/

/-- The text before the first character that satisfies `p`, and the text after it. -/
def cut (p : Char → Bool) (cs : List Char) : List Char × Option (List Char) :=
  match cs.dropWhile (! p ·) with
  | [] => (cs, none)
  | _ :: r => (cs.takeWhile (! p ·), some r)

/-- The scheme of an address, and the text after its colon. -/
def scheme? (cs : List Char) : Option (String × List Char) :=
  match cs with
  | [] => none
  | c :: _ =>
    let name := cs.takeWhile fun c => c.isAlphanum || c = '+' || c = '-' || c = '.'
    match cs.drop name.length with
    | ':' :: r => if c.isAlpha then some (Text.lower (String.ofList name), r) else none
    | _ => none

/-- The authority and the path of an address. -/
def place? (scheme : String) (cs : List Char) : Option (Option String × String) :=
  let special := (usualEndpoint? scheme).isSome
  let ends (c : Char) : Bool := c = '/' || (special && c = '\\')
  let located (cs : List Char) : Option (Option String × String) := do
    let authority ← authority? scheme (cs.takeWhile (! ends ·))
    let rest := cs.dropWhile (! ends ·)
    return (some authority, if rest.isEmpty && !special then "" else pathText special rest)
  if special then located (cs.dropWhile ends)
  else match cs with
    | '/' :: '/' :: r =>
      if r.takeWhile (! ends ·) = [] then
        some (none, "//" ++ pathText false (r.dropWhile (! ends ·)))
      else located r
    | '/' :: _ => some (none, pathText false cs)
    | _ => some (none, encode [] cs)

/-- The text of an address from its scheme on, without blanks around it and line breaks in it. -/
def cleaned (s : String) : List Char :=
  let outer (c : Char) : Bool := c.toNat ≤ 0x20
  let cs := ((s.toList.dropWhile outer).reverse.dropWhile outer).reverse
  cs.filter fun c => c ≠ '\t' ∧ c ≠ '\n' ∧ c ≠ '\r'

/-- The address that a text writes. -/
def read? (s : String) : Option Url := do
  let (scheme, cs) ← scheme? (cleaned s)
  let (cs, fragment) := cut (· = '#') cs
  let (cs, query) := cut (· = '?') cs
  let (authority, path) ← place? scheme cs
  return {
    scheme, authority, path
    query := query.map (encode (querySet (usualEndpoint? scheme).isSome))
    fragment := fragment.map (encode fragmentSet) }

/-- The user information of an address of the web: what its authority holds before the last at
sign. -/
def userInfo? (s : String) : Option (List Char) := do
  let (_, cs) ← scheme? (cleaned s)
  let ends (c : Char) : Bool := c = '/' || c = '\\'
  let (cs, _) := cut (fun c => c = '#' || c = '?') cs
  let authority := (cs.dropWhile ends).takeWhile (! ends ·)
  if '@' ∈ authority then some ((authority.reverse.dropWhile (· ≠ '@')).drop 1).reverse else none

/-! ## References -/

/-- The scheme and the authority of an address. -/
def origin (u : Url) : String := u.scheme ++ "://" ++ u.authority.getD ""

/-- The address that a text refers to from an address: a whole one, one with the same scheme, one at
the same origin, or one beside it. -/
def join? (u : Url) (reference : String) : Option Url :=
  let cs := cleaned reference
  if (scheme? cs).isSome then read? reference
  else
    let folder := (u.path.toList.reverse.dropWhile (· ≠ '/')).reverse
    read? (match cs with
      | '/' :: '/' :: _ => u.scheme ++ ":" ++ String.ofList cs
      | '/' :: _ => u.origin ++ String.ofList cs
      | '?' :: _ => u.origin ++ u.path ++ String.ofList cs
      | [] | '#' :: _ => u.origin ++ u.target ++ String.ofList cs
      | _ => u.origin ++ String.ofList (folder ++ cs))

/-- The host of an address, and the number of its endpoint, the usual one included. -/
def site (u : Url) : String × Option Nat :=
  let (host, endpoint) := splitEndpoint (u.authority.getD "").toList
  (String.ofList host, (endpoint.bind Integer.digits?).or (usualEndpoint? u.scheme))

end Url

end ResultFlow
