import CycleLog.Template.Datum
import CycleLog.Text.Blank
import CycleLog.Json.Reader

/-!
# Cutting a template into segments

A template is cut into plain text, the tokens of each `{{ … }}` and the tokens of each `{% … %}`;
comments are dropped and the content of a raw block is plain text. A minus sign at a delimiter takes
away the blanks on its outer side. One line end at the end of the template does not count.
-/

namespace CycleLog.Template
set_option autoImplicit false

open Decimal Text

inductive Token where
  | name (s : String)
  | text (s : String)
  | int (n : Nat)
  | real (x : Binary64)
  | mark (s : String)
deriving DecidableEq, Repr

inductive Segment where
  | text (cs : List Char)
  | output (ts : List Token)
  | statement (ts : List Token)

/-! ## Characters -/

/-- A blank between tokens. -/
def isGap (c : Char) : Bool := c == ' ' || c == '\t' || c == '\n' || c == '\r' || c == '\x0c'

def isNameStart (c : Char) : Bool := c.isAlpha || c == '_'

def isNamePart (c : Char) : Bool := c.isAlphanum || c == '_'

/-! ## Texts -/

/-- The pieces of a quoted text up to the quote, and what follows it. -/
def textPieces (quote : Char) : List Char → Option (List Json.Piece × List Char)
  | [] => none
  | '\\' :: 'u' :: a :: b :: c :: d :: r => do
    let n ← Json.unit? a b c d
    let (ps, r) ← textPieces quote r
    some (.unit n :: ps, r)
  | '\\' :: '\'' :: r => do
    let (ps, r) ← textPieces quote r
    some (.char '\'' :: ps, r)
  | '\\' :: c :: r => do
    let c ← Json.escape? c
    let (ps, r) ← textPieces quote r
    some (.char c :: ps, r)
  | c :: r =>
    if c = quote then some ([], r)
    else if c = '\\' then none
    else do
      let (ps, r) ← textPieces quote r
      some (.char c :: ps, r)

def textToken (quote : Char) (cs : List Char) : Option (Token × List Char) := do
  let (ps, r) ← textPieces quote cs
  let t ← Json.joinPieces ps
  some (.text (String.ofList t), r)

/-! ## Numbers -/

/-- The part of a number that is being read. -/
inductive NumberPart where
  | whole
  | fraction
  | exponent
  | exponentDigits
deriving DecidableEq

/-- The characters of a decimal number, and the part it ends in. -/
def numberChars (part : NumberPart) : List Char → List Char × NumberPart × List Char
  | [] => ([], part, [])
  | c :: r =>
    let next : Option NumberPart :=
      if c.isDigit then some (if part = .exponent then .exponentDigits else part)
      else if c = '_' then some part
      else if c = '.' ∧ part = .whole then some .fraction
      else if (c = 'e' ∨ c = 'E') ∧ (part = .whole ∨ part = .fraction) then some .exponent
      else if (c = '+' ∨ c = '-') ∧ part = .exponent then some .exponentDigits
      else none
    match next with
    | none => ([], part, c :: r)
    | some p =>
      let (cs, last, rest) := numberChars p r
      (c :: cs, last, rest)

/-- The digits of a number in base `base`. -/
def baseNumber? (base : Nat) (cs : List Char) : Option (Nat × List Char) :=
  let isPart (c : Char) : Bool :=
    c == '_' || (match Json.hexValue? c with | some d => d < base | none => false)
  let ds := cs.takeWhile isPart
  let value := (ds.filter (· != '_')).foldl (fun n c => base * n + (Json.hexValue? c).getD 0) 0
  if ds.all (· == '_') || ds.getLast? == some '_' then none
  else some (value, cs.dropWhile isPart)

/-- The number that whole digits, fraction digits and an exponent stand for. -/
def numberOf (whole fraction : List Char) (exponent : Int) : Binary64 :=
  .nearest (Json.naturalOf (whole ++ fraction)) (exponent - fraction.length)

def realToken? (cs : List Char) : Option Token := do
  let (whole, r) := cs.span Char.isDigit
  let (fraction, r) := match r with
    | '.' :: r => r.span Char.isDigit
    | r => ([], r)
  match r with
  | [] => some (.real (numberOf whole fraction 0))
  | _ :: r =>
    let (e, _) ← Json.exponentPart r
    some (.real (numberOf whole fraction e))

def numberToken (cs : List Char) : Option (Token × List Char) :=
  let inBase (base : Nat) (r : List Char) : Option (Token × List Char) :=
    (baseNumber? base r).map fun (n, r) => (.int n, r)
  match cs with
  | '0' :: 'x' :: r | '0' :: 'X' :: r => inBase 16 r
  | '0' :: 'o' :: r | '0' :: 'O' :: r => inBase 8 r
  | '0' :: 'b' :: r | '0' :: 'B' :: r => inBase 2 r
  | _ =>
    let (ds, part, r) := numberChars .whole cs
    if ds.getLast? == some '_' then none
    else
      let plain := ds.filter (· != '_')
      if part = .whole then some (.int (Json.naturalOf plain), r)
      else (realToken? plain).map (·, r)

/-! ## Tokens -/

def markAt? : List Char → Option (String × List Char)
  | '/' :: '/' :: r => some ("//", r)
  | '*' :: '*' :: r => some ("**", r)
  | '=' :: '=' :: r => some ("==", r)
  | '!' :: '=' :: r => some ("!=", r)
  | '<' :: '=' :: r => some ("<=", r)
  | '>' :: '=' :: r => some (">=", r)
  | c :: r =>
    if "+-*/%.,:~|=<>()[]".toList.contains c || c == '\x7b' || c == '\x7d' then
      some (String.singleton c, r)
    else none
  | [] => none

def token? : List Char → Option (Token × List Char)
  | [] => none
  | '"' :: r => textToken '"' r
  | '\'' :: r => textToken '\'' r
  | c :: r =>
    if c.isDigit then numberToken (c :: r)
    else if isNameStart c then
      some (.name (String.ofList (c :: r.takeWhile isNamePart)), r.dropWhile isNamePart)
    else (markAt? (c :: r)).map fun (m, r) => (.mark m, r)

/-- How a token changes the number of open brackets. -/
def Token.opens : Token → Int
  | .mark "(" | .mark "[" | .mark "\x7b" => 1
  | .mark ")" | .mark "]" | .mark "\x7d" => -1
  | _ => 0

/-- Drops the closing delimiter, and says whether a minus sign stands at it. -/
def closing? (first : Char) : List Char → Option (Bool × List Char)
  | '-' :: c :: '\x7d' :: r => if c = first then some (true, r) else none
  | '+' :: c :: '\x7d' :: r => if c = first then some (false, r) else none
  | c :: '\x7d' :: r => if c = first then some (false, r) else none
  | _ => none

/-- The tokens up to the closing delimiter, which counts only outside of brackets. -/
def tokens (first : Char) : Nat → Int → List Char → Option (List Token × Bool × List Char)
  | 0, _, _ => none
  | fuel + 1, depth, cs =>
    let cs := cs.dropWhile isGap
    match if depth = 0 then closing? first cs else none with
    | some (minus, r) => some ([], minus, r)
    | none => do
      let (t, r) ← token? cs
      let (ts, minus, r) ← tokens first fuel (depth + t.opens) r
      some (t :: ts, minus, r)

/-! ## Segments -/

/-- Text up to the next opening delimiter, the kind of that delimiter, and what follows it. -/
def untilOpening : List Char → List Char × Option (Char × List Char)
  | [] => ([], none)
  | '\x7b' :: c :: r =>
    if c = '\x7b' ∨ c = '%' ∨ c = '#' then ([], some (c, r))
    else
      let (lead, rest) := untilOpening (c :: r)
      ('\x7b' :: lead, rest)
  | c :: r =>
    let (lead, rest) := untilOpening r
    (c :: lead, rest)

/-- The sign behind an opening delimiter: whether it is a minus sign, and what follows it. -/
def openingSign : List Char → Bool × List Char
  | '-' :: r => (true, r)
  | '+' :: r => (false, r)
  | r => (false, r)

/-- A statement that is one word: what follows it, and whether a minus sign stands at its end. -/
def oneWord? (word : String) (cs : List Char) : Option (Bool × List Char) :=
  let cs := cs.dropWhile isGap
  let w := word.toList
  if cs.take w.length = w then closing? '%' ((cs.drop w.length).dropWhile isGap) else none

/-- The content of a comment: whether a minus sign stands at its end, and what follows it. -/
def commentEnd? (minus : Bool) : List Char → Option (Bool × List Char)
  | [] => none
  | '#' :: '\x7d' :: r => some (minus, r)
  | c :: r => commentEnd? (c == '-') r

/-- The content of a raw block, whether the blanks at its end go, whether the blanks behind it go,
and what follows it. -/
def rawEnd? : List Char → Option (List Char × Bool × Bool × List Char)
  | [] => none
  | c :: r =>
    let tag : Option (Bool × Bool × List Char) :=
      match c :: r with
      | '\x7b' :: '%' :: s =>
        let (minus, s) := openingSign s
        (oneWord? "endraw" s).map fun (after, s) => (minus, after, s)
      | _ => none
    match tag with
    | some (minus, after, s) => some ([], minus, after, s)
    | none => (rawEnd? r).map fun (cs, x) => (c :: cs, x)

/-- The segments of a text; `trimmed` says that the blanks at its beginning go. -/
def segmentsFrom : Nat → Bool → List Char → Option (List Segment)
  | 0, _, _ => none
  | fuel + 1, trimmed, cs =>
    let cs := if trimmed then trimStart cs else cs
    match untilOpening cs with
    | (lead, none) => some [.text lead]
    | (lead, some (kind, r)) => do
      let (minus, r) := openingSign r
      let lead := if minus then trimEnd lead else lead
      if kind = '#' then
        let (after, r) ← commentEnd? false r
        let rest ← segmentsFrom fuel after r
        some (.text lead :: rest)
      else if kind = '%' then
        match oneWord? "raw" r with
        | some (start, r) =>
          let (content, stop, after, r) ← rawEnd? r
          let content := if start then trimStart content else content
          let content := if stop then trimEnd content else content
          let rest ← segmentsFrom fuel after r
          some (.text lead :: .text content :: rest)
        | none =>
          let (ts, after, r) ← tokens '%' (r.length + 1) 0 r
          let rest ← segmentsFrom fuel after r
          some (.text lead :: .statement ts :: rest)
      else
        let (ts, after, r) ← tokens '\x7d' (r.length + 1) 0 r
        let rest ← segmentsFrom fuel after r
        some (.text lead :: .output ts :: rest)

/-- The text without one line end at its end. -/
def withoutLastEnd (cs : List Char) : List Char :=
  match cs.reverse with
  | '\n' :: '\r' :: r => r.reverse
  | '\n' :: r => r.reverse
  | _ => cs

/-- The segments of a template; nothing for one with an open delimiter, text or comment. -/
def segments? (s : String) : Option (List Segment) :=
  let cs := withoutLastEnd s.toList
  segmentsFrom (cs.length + 1) false cs

end CycleLog.Template
