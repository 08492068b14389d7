import CycleLog.Pattern.Escape

/-!
# Classes in brackets

A class in brackets is the union of its items: characters, ranges, named classes and classes in
brackets of their own. `&&`, `--` and `~~` stand for intersection, difference and symmetric
difference of what stands before and behind them, and are applied from left to right.

With each class goes how deep its parts are nested: a class in brackets, several items in a row and an operator take one
level each.
-/

namespace CycleLog.Pattern
set_option autoImplicit false

/-! ## Items -/

inductive Item where
  | char (c : Char)
  | set (c : Class)

def Item.toClass : Item → Class
  | .char c => .one c
  | .set c => c

def item? (m : Mode) : List Char → Option (Item × List Char)
  | [] => none
  | '\\' :: r => do
    match ← escape? m r with
    | (.char c _, r) => if m.unicode || c.toNat < 0x80 then some (.char c, r) else none
    | (.set c, r) => some (.set c, r)
    | (.edge _, _) => none
  | c :: r => if m.unicode || c.toNat < 0x80 then some (.char c, r) else none

/-- An item, or the range from one character to another. -/
def span? (m : Mode) (cs : List Char) : Option (Class × List Char) := do
  let (first, r) ← item? m cs
  match m.skip r with
  | [] => none
  | '-' :: after =>
    match m.skip after with
    | ']' :: _ => some (first.toClass, '-' :: after)
    | '-' :: _ => some (first.toClass, '-' :: after)
    | next =>
      let (last, r) ← item? m next
      match first, last with
      | .char lo, .char hi => if lo ≤ hi then some (.range lo hi, r) else none
      | _, _ => none
  | r => some (first.toClass, r)

/-- A named class such as `[:alpha:]`, behind its opening bracket. -/
def posix? (m : Mode) : List Char → Option (Class × List Char)
  | ':' :: r =>
    let (negated, r) := match r with
      | '^' :: r => (true, r)
      | r => (false, r)
    let name := r.takeWhile (· != ':')
    match r.dropWhile (· != ':') with
    | ':' :: ']' :: rest =>
      (asciiNamed? (String.ofList name)).map fun c =>
        let c := m.folded c
        (if negated then .other c else c, rest)
    | _ => none
  | _ => none

/-! ## Nesting -/

/-- A class, and how deep its parts are nested. -/
structure Nested where
  set : Class
  depth : Nat

/-- How deep parts in a row are nested: several of them lie one level deeper. -/
def rowDepth (depths : List Nat) : Nat :=
  let deepest := depths.foldl max 0
  if depths.length ≤ 1 then deepest else deepest + 1

/-- Items in a row: the characters in any of them, and how deep each is, the last one first. -/
structure Items where
  set : Class
  depths : List Nat

namespace Items

def none : Items := ⟨.nothing, []⟩

def push (xs : Items) (x : Nested) : Items := ⟨.union xs.set x.set, x.depth :: xs.depths⟩

def nested (xs : Items) : Nested := ⟨xs.set, rowDepth xs.depths⟩

end Items

/-! ## Brackets -/

inductive Operation where
  | both
  | except
  | either

/-- What stands before an operator, with the operator. -/
abbrev Pending := Option (Operation × Nested)

def Operation.apply (m : Mode) (a b : Class) : Operation → Class
  | both => .both (m.folded a) (m.folded b)
  | except => .except (m.folded a) (m.folded b)
  | either => .either (m.folded a) (m.folded b)

def applied (m : Mode) (pending : Pending) (xs : Items) : Nested :=
  let x := xs.nested
  match pending with
  | none => x
  | some (op, a) => ⟨op.apply m a.set x.set, max a.depth x.depth + 1⟩

/-- Hyphens at the beginning stand for themselves. -/
def leadingHyphens (m : Mode) (acc : Items) : Nat → List Char → Option (Items × List Char)
  | 0, _ => none
  | fuel + 1, cs =>
    match m.skip cs with
    | [] => none
    | '-' :: r => leadingHyphens m (acc.push ⟨.one '-', 0⟩) fuel r
    | r => some (acc, r)

/-- The beginning of a class: whether it is negated, and the items that only a beginning can
hold. -/
def opening (m : Mode) (cs : List Char) : Option (Bool × Items × List Char) := do
  let (negated, r) ← match m.skip cs with
    | [] => none
    | '^' :: r => some (true, r)
    | r => some (false, r)
  let (start, r) ← leadingHyphens m .none (r.length + 1) r
  match r with
  | ']' :: r =>
    if start.depths = [] then some (negated, Items.none.push ⟨.one ']', 0⟩, r)
    else some (negated, start, ']' :: r)
  | r => some (negated, start, r)

/-- A class of bytes has to stay within ASCII. -/
def ofText? (m : Mode) (c : Class) : Option Class := if m.unicode || withinAscii c then some c else none

def closing (m : Mode) (negated : Bool) (x : Nested) : Option Nested :=
  let c := m.folded x.set
  (ofText? m (if negated then .other c else c)).map (⟨·, x.depth + 1⟩)

/-- The items up to the closing bracket, and what follows it. -/
def bracketItems (m : Mode) : Nat → Items → Pending → List Char → Option (Nested × List Char)
  | 0, _, _, _ => none
  | fuel + 1, acc, pending, cs =>
    match m.skip cs with
    | [] => none
    | ']' :: r => some (applied m pending acc, r)
    | '[' :: r =>
      match posix? m r with
      | some (c, r) => do
        let c ← ofText? m c
        bracketItems m fuel (acc.push ⟨c, 0⟩) pending r
      | none => do
        let (negated, start, r) ← opening m r
        let (inner, r) ← bracketItems m fuel start none r
        let inner ← closing m negated inner
        bracketItems m fuel (acc.push inner) pending r
    | '&' :: '&' :: r => bracketItems m fuel .none (some (.both, applied m pending acc)) r
    | '-' :: '-' :: r => bracketItems m fuel .none (some (.except, applied m pending acc)) r
    | '~' :: '~' :: r => bracketItems m fuel .none (some (.either, applied m pending acc)) r
    | r => do
      let (c, r) ← span? m r
      bracketItems m fuel (acc.push ⟨c, 0⟩) pending r

/-- A class behind its opening bracket, and what follows it. -/
def bracket? (m : Mode) (cs : List Char) : Option (Nested × List Char) := do
  let (negated, start, r) ← opening m cs
  let (x, r) ← bracketItems m (r.length + 1) start none r
  let x ← closing m negated x
  some (x, r)

end CycleLog.Pattern
