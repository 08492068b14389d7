import CycleLog.Json.Number
import CycleLog.Json.Reader

/-!
# Addresses on the web

`Url.read?` reads an address of the schemes `http` and `https`: blanks around it and line ends in it
do not count, slashes and backslashes are the same, segments of points are worked off, and what must
not stand in a path or a query is written as `%` and two digits for each byte.
-/

namespace CycleLog
set_option autoImplicit false

structure Url where
  secure : Bool
  /-- The name of the server, and its port unless it is the usual one. -/
  authority : String
  /-- The segments between the slashes of the path, encoded. -/
  segments : List String
  query : Option String
  /-- What follows a hash, which is not sent. -/
  fragment : Option String
deriving DecidableEq, Repr

namespace Url

/-! ## Characters -/

def isSlash (c : Char) : Bool := c == '/' || c == '\\'

/-- Whether a byte has to be encoded in a path. -/
def encodedInPath (b : UInt8) : Bool :=
  b ≤ 0x20 || 0x7F ≤ b || [0x22, 0x23, 0x3C, 0x3E, 0x3F, 0x60, 0x7B, 0x7D].contains b

/-- Whether a byte has to be encoded in a query. -/
def encodedInQuery (b : UInt8) : Bool :=
  b ≤ 0x20 || 0x7F ≤ b || [0x22, 0x23, 0x27, 0x3C, 0x3E].contains b

/-- Whether a byte has to be encoded behind a hash. -/
def encodedInFragment (b : UInt8) : Bool :=
  b ≤ 0x20 || 0x7F ≤ b || [0x22, 0x3C, 0x3E, 0x60].contains b

/-- A digit in base sixteen, as a capital. -/
def hexCapital (n : Nat) : Char := if n < 10 then Char.ofNat (48 + n) else Char.ofNat (55 + n)

def encodedByte (b : UInt8) : List Char :=
  ['%', hexCapital (b.toNat / 16), hexCapital (b.toNat % 16)]

/-- Writes each byte that has to be encoded as `%` and two digits. -/
def encoded (which : UInt8 → Bool) (cs : List Char) : List Char :=
  cs.flatMap fun c =>
    (String.utf8EncodeChar c).flatMap fun b =>
      if which b then encodedByte b else [Char.ofNat b.toNat]

/-! ## Paths -/

/-- A segment that stands for the place it is in. -/
def isDot (s : List Char) : Bool :=
  let l := s.map Char.toLower
  l == ['.'] || l == ['%', '2', 'e']

/-- A segment that stands for the place above. -/
def isDoubleDot (s : List Char) : Bool :=
  match s.map Char.toLower with
  | '.' :: r => isDot r
  | '%' :: '2' :: 'e' :: r => isDot r
  | _ => false

/-- Cuts a text at the characters of a kind. -/
def cutAt (is : Char → Bool) : List Char → List (List Char)
  | [] => [[]]
  | c :: r =>
    match cutAt is r with
    | [] => [[c]]
    | p :: ps => if is c then [] :: p :: ps else (c :: p) :: ps

/-- Works off the segments of points; the segments so far are given from the last to the first. -/
def resolved (acc : List (List Char)) : List (List Char) → List (List Char)
  | [] => acc.reverse
  | s :: ss =>
    if isDoubleDot s then resolved (if ss = [] then [] :: acc.drop 1 else acc.drop 1) ss
    else if isDot s then resolved (if ss = [] then [] :: acc else acc) ss
    else resolved (s :: acc) ss

def pathSegments (cs : List Char) : List String :=
  let cs := match cs with
    | c :: r => if isSlash c then r else c :: r
    | [] => []
  (resolved [] (cutAt isSlash cs)).map fun s => String.ofList (encoded encodedInPath s)

/-! ## Servers -/

/-- A character that cannot stand in the name of a server. -/
def isForbidden (c : Char) : Bool :=
  c.toNat ≤ 0x20 || c.toNat == 0x7F ||
    ['#', '/', ':', '<', '>', '?', '@', '[', '\\', ']', '^', '|', '%'].contains c

/-- A part of a numeric address. -/
def numberPart? (s : String) : Option Nat :=
  match s.toList with
  | [] => none
  | ['0', 'x'] | ['0', 'X'] => some 0
  | '0' :: 'x' :: r | '0' :: 'X' :: r =>
    if r.all fun c => (Json.hexValue? c).isSome then
      some (r.foldl (fun n c => 16 * n + (Json.hexValue? c).getD 0) 0)
    else none
  | '0' :: c :: r =>
    if (c :: r).all fun c => '0' ≤ c && c ≤ '7' then
      some ((c :: r).foldl (fun n c => 8 * n + Json.digitValue c) 0)
    else none
  | r => if r.all Char.isDigit then some (Json.naturalOf r) else none

/-- Whether a name ends like a numeric address. -/
def endsNumeric (parts : List String) : Bool :=
  match parts.getLast? with
  | some p =>
    p ≠ "" && (p.toList.all Char.isDigit ||
      (['0', 'x'].isPrefixOf p.toList && (numberPart? p).isSome))
  | none => false

/-- The four bytes of a numeric address: all parts but the last are single bytes. -/
def numericHost? (parts : List String) : Option String := do
  let ns ← parts.mapM numberPart?
  let last ← ns.getLast?
  let first := ns.dropLast
  if 3 < first.length ∨ first.any (255 < ·) ∨ Nat.pow 256 (4 - first.length) ≤ last then none
  let n := first.zipIdx.foldl (fun n (b, i) => n + b * Nat.pow 256 (3 - i)) last
  some (String.intercalate "."
    ([n / 16777216, n / 65536 % 256, n / 256 % 256, n % 256].map toString))

/-- The name of a server in its usual form. -/
def host? (cs : List Char) : Option String :=
  match cs with
  | [] => none
  | '[' :: r =>
    match r.reverse with
    | ']' :: inner =>
      if inner ≠ [] ∧ inner.all fun c => c == ':' || c == '.' || (Json.hexValue? c).isSome then
        some (String.ofList (cs.map Char.toLower))
      else none
    | _ => none
  | _ =>
    if cs.any isForbidden then none
    else
      let name := String.ofList (cs.map Char.toLower)
      let parts := (cutAt (· == '.') name.toList).map String.ofList
      let parts := if parts.getLast? = some "" ∧ 1 < parts.length then parts.dropLast else parts
      if endsNumeric parts then numericHost? parts else some name

/-- The port behind a colon; nothing is said about the usual one. -/
def port? (secure : Bool) (cs : List Char) : Option String :=
  if cs.all Char.isDigit then
    let n := Json.naturalOf cs
    if cs = [] ∨ n = (if secure then 443 else 80) then some ""
    else if n < 65536 then some (":" ++ toString n)
    else none
  else none

/-- Splits at the last character of a kind, if there is one. -/
def cutLast (is : Char → Bool) (cs : List Char) : Option (List Char × List Char) :=
  let back := cs.reverse.takeWhile fun c => !is c
  if back.length = cs.length then none
  else some (cs.take (cs.length - back.length - 1), back.reverse)

def authority? (secure : Bool) (cs : List Char) : Option String := do
  let server := match cutLast (· == '@') cs with
    | some (_, r) => r
    | none => cs
  let (name, port) := match cutLast (· == ':') server with
    | some (n, p) => if p.contains ']' then (server, []) else (n, p)
    | none => (server, [])
  let h ← host? name
  let p ← port? secure port
  some (h ++ p)

/-! ## Whole addresses -/

/-- The scheme, and what follows its colon. -/
def scheme? (cs : List Char) : Option (Bool × List Char) :=
  let name := (cs.takeWhile (· != ':')).map Char.toLower
  match cs.dropWhile (· != ':') with
  | [] => none
  | _ :: r =>
    if name = ['h', 't', 't', 'p'] then some (false, r)
    else if name = ['h', 't', 't', 'p', 's'] then some (true, r)
    else none

def readList? (cs : List Char) : Option Url := do
  let outer (c : Char) : Bool := c.toNat ≤ 0x20
  let cs := ((cs.dropWhile outer).reverse.dropWhile outer).reverse
  let cs := cs.filter fun c => c != '\t' && c != '\n' && c != '\r'
  let (secure, r) ← scheme? cs
  let r := r.dropWhile isSlash
  let stops (c : Char) : Bool := isSlash c || c == '?' || c == '#'
  let a ← authority? secure (r.takeWhile fun c => !stops c)
  let r := r.dropWhile fun c => !stops c
  let fragment := match r.dropWhile (· != '#') with
    | [] => none
    | _ :: f => some (String.ofList (encoded encodedInFragment f))
  let r := r.takeWhile (· != '#')
  let query := match r.dropWhile (· != '?') with
    | [] => none
    | _ :: q => some (String.ofList (encoded encodedInQuery q))
  some ⟨secure, a, pathSegments (r.takeWhile (· != '?')), query, fragment⟩

def read? (s : String) : Option Url := readList? s.toList

/-- A part behind a sign, if there is one. -/
def behind (sign : String) : Option String → String
  | some s => sign ++ s
  | none => ""

/-- The path with the query, as a server is asked for it. -/
def target (u : Url) : String := "/" ++ String.intercalate "/" u.segments ++ behind "?" u.query

/-- The address as a text. -/
def text (u : Url) : String :=
  (if u.secure then "https://" else "http://") ++ u.authority ++ u.target ++ behind "#" u.fragment

/-- How many bytes the address of a request may have. -/
def maxLength : Nat := 65534

/-- Whether a request can be sent to the address. -/
def isShort (u : Url) : Bool := u.text.utf8ByteSize ≤ maxLength

end Url
end CycleLog
