import CycleLog.Json.Number
import CycleLog.Text.Scan

/-!
# Reading JSON text

`read` reads a whole text as one value. Arrays and objects may be nested a hundred and twenty-seven
deep. `Rules` says whether a string may hold half of a surrogate pair and a number may be out of
range, as in text that is only skipped.
-/

namespace CycleLog.Json
set_option autoImplicit false

/-- Drops spaces, tabs and line ends. -/
def skipBlank (cs : List Char) : List Char :=
  cs.dropWhile fun c => c == ' ' || c == '\t' || c == '\n' || c == '\r'

structure Rules where
  /-- Whether every string is a text and every number a value. -/
  strict : Bool
deriving DecidableEq

/-! ## Strings -/

/-- What one place of a string stands for: a character, or one sixteen-bit unit. -/
inductive Piece where
  | char (c : Char)
  | unit (n : Nat)

def hexValue? (c : Char) : Option Nat :=
  if c.isDigit then some (c.toNat - '0'.toNat)
  else if 'a' ≤ c ∧ c ≤ 'f' then some (c.toNat - 'a'.toNat + 10)
  else if 'A' ≤ c ∧ c ≤ 'F' then some (c.toNat - 'A'.toNat + 10)
  else none

def unit? (a b c d : Char) : Option Nat := do
  let a ← hexValue? a
  let b ← hexValue? b
  let c ← hexValue? c
  let d ← hexValue? d
  some (4096 * a + 256 * b + 16 * c + d)

/-- The character behind a backslash. -/
def escape? : Char → Option Char
  | '"' => some '"'
  | '\\' => some '\\'
  | '/' => some '/'
  | 'b' => some '\x08'
  | 'f' => some '\x0c'
  | 'n' => some '\n'
  | 'r' => some '\r'
  | 't' => some '\t'
  | _ => none

/-- The pieces up to the closing quote, and what follows it. -/
def stringPieces : List Char → Option (List Piece × List Char)
  | [] => none
  | '"' :: r => some ([], r)
  | '\\' :: 'u' :: a :: b :: c :: d :: r => do
    let n ← unit? a b c d
    let (ps, r) ← stringPieces r
    some (.unit n :: ps, r)
  | '\\' :: c :: r => do
    let c ← escape? c
    let (ps, r) ← stringPieces r
    some (.char c :: ps, r)
  | c :: r =>
    if c = '\\' ∨ c.toNat < 0x20 then none
    else do
      let (ps, r) ← stringPieces r
      some (.char c :: ps, r)

def isHighUnit (n : Nat) : Bool := 0xD800 ≤ n && n < 0xDC00

def isLowUnit (n : Nat) : Bool := 0xDC00 ≤ n && n < 0xE000

/-- The text of the pieces; two halves of a surrogate pair make one character, and a half on its own
is no text. -/
def joinPieces : List Piece → Option (List Char)
  | [] => some []
  | .char c :: r => (joinPieces r).map (c :: ·)
  | .unit a :: .unit b :: r =>
    if isHighUnit a && isLowUnit b then
      (joinPieces r).map (Char.ofNat (0x10000 + 1024 * (a - 0xD800) + (b - 0xDC00)) :: ·)
    else if isHighUnit a || isLowUnit a then none
    else (joinPieces (.unit b :: r)).map (Char.ofNat a :: ·)
  | .unit a :: r =>
    if isHighUnit a || isLowUnit a then none else (joinPieces r).map (Char.ofNat a :: ·)

/-- The text up to the closing quote, and what follows it. -/
def stringBody (rules : Rules) (cs : List Char) : Option (String × List Char) := do
  let (ps, r) ← stringPieces cs
  if rules.strict then
    let t ← joinPieces ps
    some (String.ofList t, r)
  else some ("", r)

/-! ## Values -/

/-- A value that is neither array nor object. -/
def scalar (rules : Rules) : List Char → Option (Value × List Char)
  | 'n' :: r => (Text.word? ['u', 'l', 'l'] r).map (.null, ·)
  | 't' :: r => (Text.word? ['r', 'u', 'e'] r).map (.bool true, ·)
  | 'f' :: r => (Text.word? ['a', 'l', 's', 'e'] r).map (.bool false, ·)
  | '"' :: r => (stringBody rules r).map fun (s, r) => (.text s, r)
  | cs => do
    let (n, r) ← numeral cs
    if rules.strict then
      let v ← n.value?
      some (v, r)
    else some (.null, r)

/-- One or more items with commas between them, up to and with the closing mark. -/
def itemsUntil {α : Type} (close : Char) (item : List Char → Option (α × List Char)) :
    Nat → List Char → Option (List α × List Char)
  | 0, _ => none
  | fuel + 1, cs => do
    let (v, r) ← item (skipBlank cs)
    match skipBlank r with
    | [] => none
    | c :: r =>
      if c = close then some ([v], r)
      else if c = ',' then do
        let (vs, r) ← itemsUntil close item fuel r
        some (v :: vs, r)
      else none

/-- No item or several, up to and with the closing mark. -/
def items {α : Type} (close : Char) (item : List Char → Option (α × List Char))
    (cs : List Char) : Option (List α × List Char) :=
  match skipBlank cs with
  | [] => none
  | c :: r => if c = close then some ([], r) else itemsUntil close item (r.length + 1) (c :: r)

/-- A key, a colon and a value. -/
def memberWith (rules : Rules) (value : List Char → Option (Value × List Char)) :
    List Char → Option (Member × List Char)
  | '"' :: r => do
    let (key, r) ← stringBody rules r
    match skipBlank r with
    | ':' :: r =>
      let (v, r) ← value (skipBlank r)
      some ((key, v), r)
    | _ => none
  | _ => none

/-- A value whose arrays and objects are nested at most `depth` deep, without blanks in front. -/
def value (rules : Rules) : Nat → List Char → Option (Value × List Char)
  | 0, cs => scalar rules cs
  | depth + 1, cs =>
    match cs with
    | '[' :: r => (items ']' (value rules depth) r).map fun (vs, r) => (.list vs, r)
    | '\x7b' :: r =>
      (items '\x7d' (memberWith rules (value rules depth)) r).map fun (ms, r) => (.make ms, r)
    | cs => scalar rules cs

/-- How deep arrays and objects may be nested. -/
def depthLimit : Nat := 127

/-- The value that the whole text is. -/
def readList (cs : List Char) : Option Value := do
  let (v, r) ← value ⟨true⟩ depthLimit (skipBlank cs)
  if skipBlank r = [] then some v else none

def read (s : String) : Option Value := readList s.toList

end CycleLog.Json
