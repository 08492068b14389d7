import CycleLog.Pattern.Basic
import CycleLog.Pattern.Name
import CycleLog.Json.Reader

/-!
# What a backslash introduces

`Mode` holds the settings in force at a place of a pattern. Behind a backslash stands a character
that would otherwise have a meaning, the code of a character, a class, or an edge.
-/

namespace CycleLog.Pattern
set_option autoImplicit false

open Text

/-! ## Settings -/

structure Mode where
  /-- Case does not count. -/
  fold : Bool
  /-- Lines have a start and an end of their own. -/
  manyLines : Bool
  /-- The point stands for a line end too. -/
  dotAll : Bool
  /-- A carriage return ends a line too. -/
  returns : Bool
  /-- Classes are meant for all characters and not for single bytes. -/
  unicode : Bool
  /-- Blanks and comments do not count. -/
  spaced : Bool
deriving DecidableEq, Repr

def Mode.standard : Mode := ⟨false, false, false, false, true, false⟩

/-- Drops blanks, and comments from `#` to the end of the line. -/
def skipSpaced (comment : Bool) : List Char → List Char
  | [] => []
  | c :: r =>
    if comment then skipSpaced (c != '\n') r
    else if isBlank c then skipSpaced false r
    else if c == '#' then skipSpaced true r
    else c :: r

def Mode.skip (m : Mode) (cs : List Char) : List Char :=
  if m.spaced then skipSpaced false cs else cs

/-- A class as the settings have it. -/
def Mode.folded (m : Mode) (c : Class) : Class := if m.fold then .folded (!m.unicode) c else c

/-- Whether a class of bytes stays within ASCII; others cannot stand for text. -/
def withinAscii (c : Class) : Bool :=
  (List.range 128).all fun k => !c.has (Char.ofNat (128 + k))

/-! ## Escapes -/

inductive Escape where
  /-- A character, and whether it is given as one byte. -/
  | char (c : Char) (byte : Bool)
  | set (c : Class)
  | edge (e : Edge)

def isScalar (n : Nat) : Bool := n < 0xD800 || (0xE000 ≤ n && n < 0x110000)

def charOf? (n : Nat) : Option Char := if isScalar n then some (Char.ofNat n) else none

/-- So many digits in base sixteen. -/
def hexFixed (m : Mode) : Nat → Nat → List Char → Option (Nat × List Char)
  | 0, v, cs => some (v, cs)
  | _ + 1, _, [] => none
  | n + 1, v, c :: r => do
    let d ← Json.hexValue? c
    hexFixed m n (16 * v + d) (m.skip r)

/-- Digits in base sixteen up to the closing brace; at least one. -/
def hexBraced (m : Mode) (some_ : Bool) (v : Nat) : Nat → List Char → Option (Nat × List Char)
  | 0, _ => none
  | fuel + 1, cs =>
    match m.skip cs with
    | [] => none
    | c :: r =>
      if c = '\x7d' then if some_ then some (v, r) else none
      else do
        let d ← Json.hexValue? c
        hexBraced m true (16 * v + d) fuel r

/-- A character given by its code, in `digits` digits or in braces. -/
def codeEscape (m : Mode) (digits : Nat) (cs : List Char) : Option (Escape × List Char) :=
  match m.skip cs with
  | '\x7b' :: r => do
    let (v, r) ← hexBraced m false 0 (r.length + 1) r
    let c ← charOf? v
    some (.char c false, r)
  | cs => do
    let (v, r) ← hexFixed m digits 0 cs
    let c ← charOf? v
    some (.char c (digits == 2), r)

/-- The text up to the closing brace, and what follows it. -/
def bracedName (m : Mode) : Nat → List Char → Option (List Char × List Char)
  | 0, _ => none
  | fuel + 1, cs =>
    match m.skip cs with
    | [] => none
    | c :: r =>
      if c = '\x7d' then some ([], r)
      else do
        let (name, r) ← bracedName m fuel r
        some (c :: name, r)

/-- The text in front of the first place where a sign stands, and the text behind it. -/
def splitAt? (sign : List Char) (cs : List Char) : Option (List Char × List Char) :=
  let k := (List.range cs.length).find? fun k => sign.isPrefixOf (cs.drop k)
  k.map fun k => (cs.take k, cs.drop (k + sign.length))

/-- The property that a text in braces asks for. A value may stand behind `!=` as well, which means no more than the
other signs do. -/
def propertyIn? (name : List Char) : Option Property :=
  match ((splitAt? ['!', '='] name).or (splitAt? [':'] name)).or (splitAt? ['='] name) with
  | some (n, v) => propertyWith? (String.ofList n) (String.ofList v)
  | none => propertyNamed? (String.ofList name)

def propertyEscape (m : Mode) (negated : Bool) (cs : List Char) : Option (Escape × List Char) := do
  let (name, r) ← match m.skip cs with
    | [] => none
    | '\x7b' :: r => bracedName m (r.length + 1) r
    | c :: r => if c = '\\' then none else some ([c], r)
  let p ← propertyIn? name
  if m.unicode then
    let c := m.folded (.property p)
    some (.set (if negated then .other c else c), r)
  else none

/-- Digits, blanks and word characters, or all other characters. -/
def classEscape (m : Mode) (negated : Bool) (all ascii : Class) : Option Escape :=
  if m.unicode then some (.set (if negated then .other all else all))
  else if negated then none
  else some (.set ascii)

/-- The name in braces behind `\b`, which may instead begin a repetition. -/
def edgeName (m : Mode) (cs : List Char) : Option (Option (List Char × List Char)) :=
  let isLetter (c : Char) : Bool := c.isAlpha || c == '-'
  match cs with
  | '\x7b' :: r =>
    match m.skip r with
    | [] => none
    | c :: _ =>
      if isLetter c then do
        let (name, r) ← bracedName m (r.length + 1) r
        if name.all isLetter then some (some (name, r)) else none
      else some none
  | _ => some none

def wordEscape (m : Mode) (cs : List Char) : Option (Escape × List Char) := do
  let a := !m.unicode
  match ← edgeName m cs with
  | none => some (.edge (.wordEdge a), cs)
  | some (name, r) =>
    match String.ofList name with
    | "start" => some (.edge (.wordStart a), r)
    | "end" => some (.edge (.wordEnd a), r)
    | "start-half" => some (.edge (.halfStart a), r)
    | "end-half" => some (.edge (.halfEnd a), r)
    | _ => none

/-- What stands behind a backslash. -/
def escape? (m : Mode) : List Char → Option (Escape × List Char)
  | [] => none
  | 'x' :: r => codeEscape m 2 r
  | 'u' :: r => codeEscape m 4 r
  | 'U' :: r => codeEscape m 8 r
  | 'p' :: r => propertyEscape m false r
  | 'P' :: r => propertyEscape m true r
  | 'd' :: r => (classEscape m false (.property .digit) .asciiDigit).map (·, r)
  | 'D' :: r => (classEscape m true (.property .digit) .asciiDigit).map (·, r)
  | 's' :: r => (classEscape m false (.property .blank) .asciiBlank).map (·, r)
  | 'S' :: r => (classEscape m true (.property .blank) .asciiBlank).map (·, r)
  | 'w' :: r => (classEscape m false (.property .word) .asciiWord).map (·, r)
  | 'W' :: r => (classEscape m true (.property .word) .asciiWord).map (·, r)
  | 'a' :: r => some (.char '\x07' false, r)
  | 'f' :: r => some (.char '\x0c' false, r)
  | 't' :: r => some (.char '\t' false, r)
  | 'n' :: r => some (.char '\n' false, r)
  | 'r' :: r => some (.char '\r' false, r)
  | 'v' :: r => some (.char '\x0b' false, r)
  | 'A' :: r => some (.edge .textStart, r)
  | 'z' :: r => some (.edge .textEnd, r)
  | 'b' :: r => wordEscape m r
  | 'B' :: r => some (.edge (.notWordEdge !m.unicode), r)
  | '<' :: r => some (.edge (.wordStart !m.unicode), r)
  | '>' :: r => some (.edge (.wordEnd !m.unicode), r)
  | c :: r => if c.toNat < 0x80 && !c.isAlphanum then some (.char c false, r) else none

end CycleLog.Pattern
