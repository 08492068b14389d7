import CycleLog.Text.Lines
import CycleLog.Pattern.Escape

/-!
# Texts and keys in TOML

Texts come in four kinds: with or without escapes, on one line or on several. A key is a bare word
or a text on one line.
-/

namespace CycleLog.Toml
set_option autoImplicit false

/-! ## Characters -/

def isGap (c : Char) : Bool := c == ' ' || c == '\t'

def skipGap (cs : List Char) : List Char := cs.dropWhile isGap

/-- A character that must not stand anywhere outside of line ends. -/
def isControl (c : Char) : Bool := (c.toNat < 0x20 && c != '\t') || c == '\x7f'

/-- Drops a line end. -/
def lineEnd? : List Char → Option (List Char)
  | '\n' :: r => some r
  | '\r' :: '\n' :: r => some r
  | _ => none

/-- Drops a comment, up to the line end or the end of the text. -/
def comment? (cs : List Char) : Option (List Char) :=
  match cs with
  | '#' :: r =>
    let r := r.dropWhile fun c => !isControl c
    match r with
    | [] => some []
    | '\n' :: _ => some r
    | '\r' :: '\n' :: _ => some r
    | _ => none
  | r => some r

/-! ## Escapes -/

def escape? : List Char → Option (Char × List Char)
  | 'b' :: r => some ('\x08', r)
  | 't' :: r => some ('\t', r)
  | 'n' :: r => some ('\n', r)
  | 'f' :: r => some ('\x0c', r)
  | 'r' :: r => some ('\r', r)
  | '"' :: r => some ('"', r)
  | '\\' :: r => some ('\\', r)
  | 'u' :: r => do
    let (n, r) ← Pattern.hexFixed .standard 4 0 r
    (Pattern.charOf? n).map (·, r)
  | 'U' :: r => do
    let (n, r) ← Pattern.hexFixed .standard 8 0 r
    (Pattern.charOf? n).map (·, r)
  | _ => none

/-- Drops blanks and line ends. -/
def skipLines : List Char → List Char
  | [] => []
  | '\r' :: '\n' :: r => skipLines r
  | c :: r => if isGap c || c == '\n' then skipLines r else c :: r

/-! ## Texts on one line -/

/-- A text with escapes, up to and with the closing quote. -/
def basic : Nat → List Char → Option (List Char × List Char)
  | 0, _ => none
  | _ + 1, [] => none
  | _ + 1, '"' :: r => some ([], r)
  | fuel + 1, '\\' :: r => do
    let (c, r) ← escape? r
    let (cs, r) ← basic fuel r
    some (c :: cs, r)
  | fuel + 1, c :: r =>
    if isControl c then none
    else do
      let (cs, r) ← basic fuel r
      some (c :: cs, r)

/-- A text without escapes, up to and with the closing quote. -/
def literal (cs : List Char) : Option (List Char × List Char) :=
  let body := cs.takeWhile fun c => c != '\'' && !isControl c
  match cs.dropWhile fun c => c != '\'' && !isControl c with
  | '\'' :: r => some (body, r)
  | _ => none

/-! ## Texts on several lines -/

/-- The quotes at the end of a text: up to two of them belong to it. -/
def closingQuotes (q : Char) (cs : List Char) : Option (List Char × List Char) :=
  let run := (cs.takeWhile (· == q)).length
  if run < 3 then none
  else if 5 < run then none
  else some (List.replicate (run - 3) q, cs.drop run)

/-- The text up to and with the three closing quotes; a backslash at the end of a line takes away
the line end and the blanks behind it. -/
def severalLines (q : Char) (escapes : Bool) : Nat → List Char → Option (List Char × List Char)
  | 0, _ => none
  | _ + 1, [] => none
  | fuel + 1, c :: r =>
    if c = q then
      match closingQuotes q (c :: r) with
      | some x => some x
      | none =>
        if ((c :: r).takeWhile (· == q)).length < 3 then do
          let (cs, r) ← severalLines q escapes fuel r
          some (c :: cs, r)
        else none
    else if c = '\\' ∧ escapes then
      match lineEnd? (skipGap r) with
      | some r => severalLines q escapes fuel (skipLines r)
      | none => do
        let (c, r) ← escape? r
        let (cs, r) ← severalLines q escapes fuel r
        some (c :: cs, r)
    else
      match lineEnd? (c :: r) with
      | some r => do
        let (cs, r) ← severalLines q escapes fuel r
        some ('\n' :: cs, r)
      | none =>
        if isControl c then none
        else do
          let (cs, r) ← severalLines q escapes fuel r
          some (c :: cs, r)

/-- Drops a line end that follows the opening quotes. -/
def skipFirstEnd (cs : List Char) : List Char := (lineEnd? cs).getD cs

/-- A text of any kind. -/
def text? : List Char → Option (List Char × List Char)
  | '"' :: '"' :: '"' :: r => severalLines '"' true (r.length + 1) (skipFirstEnd r)
  | '\'' :: '\'' :: '\'' :: r => severalLines '\'' false (r.length + 1) (skipFirstEnd r)
  | '"' :: r => basic (r.length + 1) r
  | '\'' :: r => literal r
  | _ => none

/-! ## Keys -/

def isBare (c : Char) : Bool := c.isAlphanum || c == '-' || c == '_'

def key? : List Char → Option (String × List Char)
  | '"' :: r => (basic (r.length + 1) r).map fun (cs, r) => (String.ofList cs, r)
  | '\'' :: r => (literal r).map fun (cs, r) => (String.ofList cs, r)
  | cs =>
    match cs.takeWhile isBare with
    | [] => none
    | k => some (String.ofList k, cs.dropWhile isBare)

/-- Keys with points between them. -/
def path? : Nat → List Char → Option (List String × List Char)
  | 0, _ => none
  | fuel + 1, cs => do
    let (k, r) ← key? (skipGap cs)
    match skipGap r with
    | '.' :: r =>
      let (ks, r) ← path? fuel r
      some (k :: ks, r)
    | r => some ([k], r)

end CycleLog.Toml
