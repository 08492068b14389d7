import CycleLog.Pattern.Bracket

/-!
# Reading a pattern

`read?` reads a pattern as it is written; nothing stands for a text that is none. How large a pattern may become is left
to a `SizeLimit`. Whether a repetition prefers many or few rounds makes no difference to what is found, and is not
kept.
-/

namespace CycleLog.Pattern
set_option autoImplicit false

open Text

/-- A place in the text of a pattern: the settings in force, the group names so far, and the
text that is left. -/
structure Cursor where
  mode : Mode
  names : List String
  rest : List Char

/-! ## Groups -/

inductive Opening where
  /-- Settings for what is left of the surrounding group. -/
  | settings (m : Mode)
  /-- A group with settings of its own, and the group names with its name. -/
  | group (m : Mode) (names : List String)

def Mode.set (m : Mode) (flag : Char) (on : Bool) : Option Mode :=
  match flag with
  | 'i' => some { m with fold := on }
  | 'm' => some { m with manyLines := on }
  | 's' => some { m with dotAll := on }
  | 'R' => some { m with returns := on }
  | 'u' => some { m with unicode := on }
  | 'x' => some { m with spaced := on }
  | 'U' => some m
  | _ => none

/-- Settings up to a colon or a closing parenthesis; each at most once, and none missing behind
a minus sign. -/
def settings (m : Mode) (used : List Char) (minus dangling : Bool) :
    List Char → Option (Mode × Bool × List Char)
  | [] => none
  | ':' :: r => if dangling then none else some (m, true, r)
  | ')' :: r => if dangling || used.isEmpty then none else some (m, false, r)
  | '-' :: r => if minus then none else settings m ('-' :: used) true true r
  | c :: r => do
    if used.contains c then none
    let m ← m.set c (!minus)
    settings m (c :: used) minus false r

def isNameStart (c : Char) : Bool := c == '_' || isAlphabetic c

def isNamePart (c : Char) : Bool :=
  isNameStart c || c == '.' || c == '[' || c == ']' || ["Nd", "Nl", "No"].contains (category c)

/-- A group name and the `>` behind it. -/
def groupName? (cs : List Char) : Option (String × List Char) :=
  let name := cs.takeWhile (· != '>')
  match name, cs.dropWhile (· != '>') with
  | c :: r, '>' :: rest =>
    if isNameStart c && r.all isNamePart then some (String.ofList name, rest) else none
  | _, _ => none

def namedGroup (cur : Cursor) (cs : List Char) : Option (Opening × List Char) := do
  let (name, r) ← groupName? cs
  if cur.names.contains name then none else some (.group cur.mode (name :: cur.names), r)

/-- What stands behind an opening parenthesis. -/
def opening? (cur : Cursor) (cs : List Char) : Option (Opening × List Char) :=
  match cur.mode.skip cs with
  | '?' :: '=' :: _ => none
  | '?' :: '!' :: _ => none
  | '?' :: '<' :: '=' :: _ => none
  | '?' :: '<' :: '!' :: _ => none
  | '?' :: 'P' :: '<' :: r => namedGroup cur r
  | '?' :: '<' :: r => namedGroup cur r
  | '?' :: r => do
    let (m, isGroup, r) ← settings cur.mode [] false false r
    some (if isGroup then .group m cur.names else .settings m, r)
  | r => some (.group cur.mode cur.names, r)

/-! ## Repetitions -/

/-- Decimal digits, and what follows; blanks and comments in between as the settings have it. -/
def countDigits (spaced comment : Bool) : List Char → List Char × List Char
  | [] => ([], [])
  | c :: r =>
    if comment then countDigits spaced (c != '\n') r
    else if c.isDigit then
      let (ds, rest) := countDigits spaced false r
      (c :: ds, rest)
    else if spaced && isBlank c then countDigits spaced false r
    else if spaced && c == '#' then countDigits spaced true r
    else ([], c :: r)

def count? (m : Mode) (cs : List Char) : Option (Nat × List Char) :=
  match countDigits m.spaced false (trimStart cs) with
  | ([], _) => none
  | (ds, r) =>
    let n := Json.naturalOf ds
    if n < Decimal.twoTo 32 then some (n, m.skip (trimStart r)) else none

/-- The bounds of a repetition behind its opening brace, and what follows the closing one. -/
def bounds? (m : Mode) (cs : List Char) : Option ((Nat × Option Nat) × List Char) := do
  let (least, r) ← count? m (m.skip cs)
  match r with
  | '\x7d' :: r => some ((least, some least), r)
  | ',' :: r =>
    match m.skip r with
    | '\x7d' :: r => some ((least, none), r)
    | r =>
      let (most, r) ← count? m r
      match r with
      | '\x7d' :: r => if least ≤ most then some ((least, some most), r) else none
      | _ => none
  | _ => none

/-- Drops the mark of a repetition that prefers few rounds. -/
def skipLazy : List Char → List Char
  | '?' :: r => r
  | r => r

/-! ## Single characters -/

def charPattern (m : Mode) (c : Char) : Pattern :=
  if m.unicode || c.toNat < 0x80 then .one (m.folded (.one c)) else .one (.one c)

/-- Every character but those that end a line. -/
def dot? (m : Mode) : Option Pattern :=
  if !m.unicode then none
  else if m.dotAll then some (.one (.property .any))
  else if m.returns then some (.one (.other (.ofRanges [('\r', '\r'), ('\n', '\n')])))
  else some (.one (.other (.one '\n')))

def caret (m : Mode) : Edge :=
  if !m.manyLines then .textStart else if m.returns then .returnStart else .lineStart

def dollar (m : Mode) : Edge :=
  if !m.manyLines then .textEnd else if m.returns then .returnEnd else .lineEnd

def escaped? (m : Mode) (cs : List Char) : Option (Pattern × List Char) := do
  match ← escape? m cs with
  | (.char c byte, r) =>
    if byte && !m.unicode && 0x80 ≤ c.toNat then none else some (charPattern m c, r)
  | (.set c, r) => some (.one c, r)
  | (.edge e, r) => some (.edge e, r)

/-- One character, class or edge, and how deep it is. -/
def atom? (m : Mode) : List Char → Option ((Pattern × Nat) × List Char)
  | [] => none
  | '[' :: r => (bracket? m r).map fun (x, r) => ((.one x.set, x.depth), r)
  | '\\' :: r => (escaped? m r).map fun (p, r) => ((p, 0), r)
  | '.' :: r => (dot? m).map fun p => ((p, 0), r)
  | '^' :: r => some ((.edge (caret m), 0), r)
  | '$' :: r => some ((.edge (dollar m), 0), r)
  | c :: r => some ((charPattern m c, 0), r)

/-! ## Whole patterns -/

/-- The patterns in a row, given from the last to the first. -/
def row : List Pattern → Pattern
  | [] => .empty
  | p :: ps => ps.foldl (fun acc q => .seq q acc) p

/-- The alternatives, given from the last to the first. -/
def choice (last : Pattern) (others : List Pattern) : Pattern :=
  others.foldl (fun acc q => .either q acc) last

/-- What one group has read so far. -/
structure Progress where
  /-- Finished alternatives, the last one first. -/
  others : List Pattern
  /-- How deep the deepest of them is. -/
  otherDepth : Nat
  /-- The alternative at hand, its last part first. -/
  parts : List Pattern
  /-- How deep its parts are, settings included, the last one first. -/
  depths : List Nat
  /-- Whether its last part can be repeated. -/
  repeatable : Bool

namespace Progress

def start : Progress := ⟨[], 0, [], [], false⟩

/-- How deep the whole group is: several alternatives lie one level deeper. -/
def depth (g : Progress) : Nat :=
  if g.others = [] then rowDepth g.depths else max g.otherDepth (rowDepth g.depths) + 1

def push (g : Progress) (p : Pattern) (depth : Nat) : Progress :=
  { g with parts := p :: g.parts, depths := depth :: g.depths, repeatable := true }

/-- Settings stand in the row, but describe nothing. -/
def pushSettings (g : Progress) : Progress :=
  { g with depths := 0 :: g.depths, repeatable := false }

def next (g : Progress) : Progress :=
  ⟨row g.parts :: g.others, max g.otherDepth (rowDepth g.depths), [], [], false⟩

def done (g : Progress) : Pattern := choice (row g.parts) g.others

def repeated? (g : Progress) (least : Nat) (most : Option Nat) : Option Progress :=
  match g.parts, g.depths with
  | p :: ps, d :: ds =>
    if g.repeatable then
      some { g with parts := .repeated p least most :: ps, depths := (d + 1) :: ds }
    else none
  | _, _ => none

end Progress

/-- How deep the parts of a pattern may be nested. -/
def depthLimit : Nat := 250

/-- Reads up to a closing parenthesis, which is left, or to the end. -/
def group? : Nat → Cursor → Progress → Option (Progress × Cursor)
  | 0, _, _ => none
  | fuel + 1, cur, g =>
    let next (r : List Char) : Cursor := ⟨cur.mode, cur.names, r⟩
    match cur.mode.skip cur.rest with
    | [] => some (g, next [])
    | ')' :: r => some (g, next (')' :: r))
    | '|' :: r => group? fuel (next r) g.next
    | '(' :: r => do
      match ← opening? cur r with
      | (.settings m, r) => group? fuel ⟨m, cur.names, r⟩ g.pushSettings
      | (.group m names, r) =>
        let (h, inner) ← group? fuel ⟨m, names, r⟩ .start
        match inner.rest with
        | ')' :: r => group? fuel ⟨cur.mode, inner.names, r⟩ (g.push h.done (h.depth + 1))
        | _ => none
    | '*' :: r => do group? fuel (next (skipLazy r)) (← g.repeated? 0 none)
    | '+' :: r => do group? fuel (next (skipLazy r)) (← g.repeated? 1 none)
    | '?' :: r => do group? fuel (next (skipLazy r)) (← g.repeated? 0 (some 1))
    | '\x7b' :: r => do
      let ((least, most), r) ← bounds? cur.mode r
      group? fuel (next (skipLazy (cur.mode.skip r))) (← g.repeated? least most)
    | r => do
      let ((p, depth), after) ← atom? cur.mode r
      group? fuel (next after) (g.push p depth)

/-- Says of the text of a pattern whether what it compiles to stays within the bounds on its size. -/
abbrev SizeLimit := List Char → Bool

/-- A pattern that is nested too deep, or whose compiled form is too large, is none. -/
def readList? (fits : SizeLimit) (cs : List Char) : Option Pattern := do
  let (g, cur) ← group? (cs.length + 1) ⟨.standard, [], cs⟩ .start
  if cur.rest = [] ∧ g.depth ≤ depthLimit ∧ fits cs then some g.done else none

def read? (fits : SizeLimit) (s : String) : Option Pattern := readList? fits s.toList

end CycleLog.Pattern
