import CycleLog.Template.Basic
import CycleLog.Template.Token

/-!
# Reading expressions

From the weakest to the strongest: `… if … else …`, `or`, `and`, `not`, comparisons, sums, `~`,
products, powers, a minus sign in front, and last members, items, calls, filters and tests.
-/

namespace CycleLog.Template
set_option autoImplicit false

abbrev ExprReader := List Token → Option (Expr × List Token)

/-! ## Operators of one strength -/

/-- Operands with operators between them, grouped from the left. -/
def chainFrom (op : List Token → Option ((Expr → Expr → Expr) × List Token))
    (operand : ExprReader) : Nat → Expr → ExprReader
  | 0, e, ts => some (e, ts)
  | fuel + 1, e, ts =>
    match op ts with
    | none => some (e, ts)
    | some (f, r) => do
      let (e₂, r) ← operand r
      chainFrom op operand fuel (f e e₂) r

def chain (op : List Token → Option ((Expr → Expr → Expr) × List Token)) (operand : ExprReader) :
    ExprReader := fun ts => do
  let (e, r) ← operand ts
  chainFrom op operand r.length e r

def markOp (table : List (String × Operator)) :
    List Token → Option ((Expr → Expr → Expr) × List Token)
  | .mark m :: r => (table.lookup m).map fun op => (Expr.binary op, r)
  | _ => none

def comparisonOp : List Token → Option ((Expr → Expr → Expr) × List Token)
  | .name "in" :: r => some (.binary .within, r)
  | .name "not" :: .name "in" :: r => some (fun a b => .not (.binary .within a b), r)
  | ts =>
    markOp [("==", .eq), ("!=", .ne), ("<", .lt), ("<=", .le), (">", .gt), (">=", .ge)] ts

def andOp : List Token → Option ((Expr → Expr → Expr) × List Token)
  | .name "and" :: r => some (.and, r)
  | _ => none

def orOp : List Token → Option ((Expr → Expr → Expr) × List Token)
  | .name "or" :: r => some (.or, r)
  | _ => none

/-! ## From operands to whole expressions -/

def comparison (unary : ExprReader) : ExprReader :=
  chain comparisonOp <| chain (markOp [("+", .add), ("-", .sub)]) <|
    chain (markOp [("~", .concat)]) <|
      chain (markOp [("*", .mul), ("/", .div), ("//", .floorDiv), ("%", .rem)]) <|
        chain (markOp [("**", .pow)]) unary

def negation (unary : ExprReader) : Nat → ExprReader
  | fuel + 1, .name "not" :: r => do
    let (e, r) ← negation unary fuel r
    some (.not e, r)
  | _, ts => comparison unary ts

/-- An expression without a choice. -/
def disjunction (unary : ExprReader) : ExprReader :=
  chain orOp (chain andOp fun ts => negation unary ts.length ts)

/-- Follows an expression by choices. -/
def choices (unary : ExprReader) : Nat → Expr → ExprReader
  | fuel + 1, e, .name "if" :: r => do
    let (test, r) ← disjunction unary r
    match r with
    | .name "else" :: r =>
      let (first, r) ← disjunction unary r
      let (no, r) ← choices unary fuel first r
      choices unary fuel (.choose test e no) r
    | r => choices unary fuel (.choose test e (.const .undefined)) r
  | _, e, ts => some (e, ts)

def exprWith (unary : ExprReader) : ExprReader := fun ts => do
  let (e, r) ← disjunction unary ts
  choices unary r.length e r

/-! ## Lists of expressions -/

/-- Expressions with commas between them, up to and with the closing mark; a comma may stand at the
end. -/
def itemsTo (close : String) (expr : ExprReader) :
    Nat → List Token → Option (List Expr × List Token)
  | 0, _ => none
  | fuel + 1, ts =>
    if ts.head? = some (.mark close) then some ([], ts.drop 1)
    else do
      let (e, r) ← expr ts
      match r with
      | .mark "," :: r =>
        let (es, r) ← itemsTo close expr fuel r
        some (e :: es, r)
      | t :: r => if t = .mark close then some ([e], r) else none
      | [] => none

def membersTo (expr : ExprReader) : Nat → List Token → Option ((List Expr × List Expr) × List Token)
  | 0, _ => none
  | _ + 1, .mark "\x7d" :: r => some (([], []), r)
  | fuel + 1, ts => do
    let (k, r) ← expr ts
    match r with
    | .mark ":" :: r =>
      let (v, r) ← expr r
      match r with
      | .mark "," :: r =>
        let ((ks, vs), r) ← membersTo expr fuel r
        some ((k :: ks, v :: vs), r)
      | .mark "\x7d" :: r => some (([k], [v]), r)
      | _ => none
    | _ => none

/-- Arguments behind an opening parenthesis: all values, and the names of the last ones. -/
def argsTo (expr : ExprReader) (named : Bool) :
    Nat → List Token → Option ((List Expr × List String) × List Token)
  | 0, _ => none
  | _ + 1, .mark ")" :: r => some (([], []), r)
  | fuel + 1, ts => do
    let (name, r) := match ts with
      | .name n :: .mark "=" :: r => (some n, r)
      | r => (none, r)
    if named && name.isNone then none
    let (e, r) ← expr r
    match r with
    | .mark "," :: r =>
      let ((es, ns), r) ← argsTo expr name.isSome fuel r
      some ((e :: es, name.toList ++ ns), r)
    | .mark ")" :: r => some (([e], name.toList), r)
    | _ => none

/-- Arguments, if a parenthesis stands in front. -/
def argsAt (expr : ExprReader) : List Token → Option ((List Expr × List String) × List Token)
  | .mark "(" :: r => argsTo expr false (r.length + 1) r
  | ts => some (([], []), ts)

/-! ## Single values -/

def primary (expr : ExprReader) : ExprReader
  | .name "true" :: r | .name "True" :: r => some (.const (.bool true), r)
  | .name "false" :: r | .name "False" :: r => some (.const (.bool false), r)
  | .name "none" :: r | .name "None" :: r => some (.const .none, r)
  | .name n :: r => some (.var n, r)
  | .text s :: r => some (.const (.text s), r)
  | .int n :: r => some (.const (.int n), r)
  | .real x :: r => some (.const (.real x), r)
  | .mark "(" :: .mark ")" :: r => some (.list [], r)
  | .mark "(" :: r => do
    let (e, r) ← expr r
    match r with
    | .mark ")" :: r => some (e, r)
    | .mark "," :: r =>
      let (es, r) ← itemsTo ")" expr (r.length + 1) r
      some (.list (e :: es), r)
    | _ => none
  | .mark "[" :: r => (itemsTo "]" expr (r.length + 1) r).map fun (es, r) => (.list es, r)
  | .mark "\x7b" :: r =>
    (membersTo expr (r.length + 1) r).map fun ((ks, vs), r) => (.record ks vs, r)
  | _ => none

def signed (expr : ExprReader) : Nat → ExprReader
  | fuel + 1, .mark "-" :: r => do
    let (e, r) ← signed expr fuel r
    some (.neg e, r)
  | _, ts => primary expr ts

/-- An expression that may be left out in front of a colon or a closing bracket. -/
def optional (expr : ExprReader) : ExprReader
  | .mark ":" :: r => some (.const .none, .mark ":" :: r)
  | .mark "]" :: r => some (.const .none, .mark "]" :: r)
  | ts => expr ts

/-- An item or a slice, behind the opening bracket. -/
def subscript (expr : ExprReader) (e : Expr) : ExprReader := fun ts => do
  let (start, r) ← optional expr ts
  match r with
  | .mark "]" :: r => if ts.head? = some (.mark "]") then none else some (.item e start, r)
  | .mark ":" :: r =>
    let (stop, r) ← optional expr r
    match r with
    | .mark "]" :: r => some (.slice e start stop (.const .none), r)
    | .mark ":" :: r =>
      let (step, r) ← optional expr r
      match r with
      | .mark "]" :: r => some (.slice e start stop step, r)
      | _ => none
    | _ => none
  | _ => none

/-- Members, items and calls behind an expression. -/
def postfixes (expr : ExprReader) : Nat → Expr → ExprReader
  | 0, e, ts => some (e, ts)
  | fuel + 1, e, ts =>
    match ts with
    | .mark "." :: .name n :: r => postfixes expr fuel (.attr e n) r
    | .mark "." :: _ => none
    | .mark "[" :: r => do
      let (e, r) ← subscript expr e r
      postfixes expr fuel e r
    | .mark "(" :: r => do
      let ((args, names), r) ← argsTo expr false (r.length + 1) r
      match e with
      | .var f => postfixes expr fuel (.call f args names) r
      | .attr (.var "self") b => postfixes expr fuel (.block b) r
      | _ => postfixes expr fuel (.callValue e args names) r
    | ts => some (e, ts)

/-- Whether a token begins the argument of a test that stands without parentheses. -/
def beginsArgument : Token → Bool
  | .name n => !(["and", "or", "else", "is", "if", "in", "not"].contains n)
  | .text _ | .int _ | .real _ => true
  | .mark m => ["+", "-", "[", "\x7b"].contains m

def testArgs (inner expr : ExprReader) (ts : List Token) :
    Option ((List Expr × List String) × List Token) :=
  match ts with
  | .mark "(" :: _ => argsAt expr ts
  | t :: _ =>
    if beginsArgument t then do
      let (e, r) ← signed inner ts.length ts
      let (e, r) ← postfixes expr r.length e r
      some (([e], []), r)
    else some (([], []), ts)
  | [] => some (([], []), [])

/-- Filters and tests behind an expression. -/
def filters (inner expr : ExprReader) : Nat → Expr → ExprReader
  | 0, e, ts => some (e, ts)
  | fuel + 1, e, ts =>
    match ts with
    | .mark "|" :: .name n :: r => do
      let ((args, names), r) ← argsAt expr r
      filters inner expr fuel (.filter n e args names) r
    | .mark "|" :: _ => none
    | .name "is" :: .name "not" :: .name n :: r => do
      let ((args, names), r) ← testArgs inner expr r
      filters inner expr fuel (.not (.test n e args names)) r
    | .name "is" :: .name n :: r => do
      let ((args, names), r) ← testArgs inner expr r
      filters inner expr fuel (.test n e args names) r
    | .name "is" :: _ => none
    | ts => some (e, ts)

/-! ## Depth -/

/-- How deep statements, expressions and single values may be nested in each other. -/
def depthLimit : Nat := 150

/-- An operand with what stands behind it. Expressions inside of a single value are read by `inner`, those behind it
by `expr`. -/
def operand (inner expr : ExprReader) : ExprReader := fun ts => do
  let (e, r) ← signed inner ts.length ts
  let (e, r) ← postfixes expr r.length e r
  filters inner expr r.length e r

/-- An operand where `room` more levels are allowed. A single value takes one level while it is read, and an
expression another one. -/
def unary : Nat → ExprReader
  | 0, _ => none
  | 1, ts => operand (fun _ => none) (exprWith (unary 0)) ts
  | room + 2, ts => operand (exprWith (unary room)) (exprWith (unary (room + 1))) ts

/-! ## Readers for statements -/

def expr? : Nat → ExprReader
  | 0 => fun _ => none
  | room + 1 => exprWith (unary room)

/-- An expression that is no choice, so that an `if` may follow it. -/
def plainExpr? (room : Nat) : ExprReader := disjunction (unary room)

/-- Filters with bars between them, applied to `e`; nothing may follow them. -/
def filterChain? (room : Nat) : Nat → Expr → List Token → Option Expr
  | fuel + 1, e, .name n :: r => do
    let ((args, names), r) ← argsAt (expr? room) r
    let e := .filter n e args names
    match r with
    | [] => some e
    | .mark "|" :: r => filterChain? room fuel e r
    | _ => none
  | _, _, _ => none

def wholeExpr? (room : Nat) (ts : List Token) : Option Expr :=
  match expr? room ts with
  | some (e, []) => some e
  | _ => none

end CycleLog.Template
