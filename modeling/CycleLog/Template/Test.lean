import CycleLog.Template.Argument
import CycleLog.Text.Case

/-!
# Tests

The tests that templates can name, such as `defined` or `divisibleby`.
-/

namespace CycleLog.Template
set_option autoImplicit false

open Text

def isWhole (d : Datum) : Bool :=
  match d with
  | .int _ => true
  | _ => false

/-- Whether a value passes the named test. -/
def passes (name : String) (d : Datum) (a : Args) : Except Fault Bool := do
  let plain (b : Bool) : Except Fault Bool := a.empty.map fun _ => b
  let against (f : Datum → Bool) : Except Fault Bool := do
    let e ← a.one
    .ok (f e)
  let texts (f : List Char → List Char → Bool) : Except Fault Bool := do
    let e ← required (← a.one)
    .ok (f d.printed.toList e.printed.toList)
  let inText (f : List Char → Bool) : Except Fault Bool :=
    match d.text? with
    | some s => plain (f s.toList)
    | none => .error .badArguments
  match name with
  | "defined" => plain (d matches .undefined) |>.map (!·)
  | "undefined" => plain (d matches .undefined)
  | "none" => plain (d matches .none)
  | "true" => plain (d matches .bool true)
  | "false" => plain (d matches .bool false)
  | "boolean" => plain (d matches .bool _)
  | "number" => plain (d matches .int _ | .real _)
  | "integer" | "int" => plain (isWhole d)
  | "float" => plain (d matches .real _)
  | "string" => plain d.text?.isSome
  | "sequence" => plain d.elements?.isSome
  | "mapping" => plain d.members?.isSome
  | "iterable" => plain (!(d matches .undefined | .none) && d.items?.isSome)
  | "safe" | "escaped" => plain (d matches .markup _)
  | "odd" => plain (match d.int? with | some n => n % 2 != 0 | none => false)
  | "even" => plain (match d.int? with | some n => n % 2 == 0 | none => false)
  | "divisibleby" => against fun e =>
      match d.int?, e.int? with
      | some m, some n => n != 0 && m % n == 0
      | _, _ => false
  | "lower" => inText (·.all isLowercase)
  | "upper" => inText (·.all isUppercase)
  | "startingwith" => texts fun s t => t.isPrefixOf s
  | "endingwith" => texts fun s t => t.isSuffixOf s
  | "eq" | "equalto" | "==" => against d.same
  | "ne" | "!=" => against fun e => !d.same e
  | "lt" | "lessthan" | "<" => against d.less
  | "le" | "<=" => against fun e => !e.less d
  | "gt" | "greaterthan" | ">" => against fun e => e.less d
  | "ge" | ">=" => against fun e => !d.less e
  | "sameas" => against fun e => d.rank == e.rank && d.same e
  | "in" => do
    let e ← a.one
    match within d e with
    | .ok (.bool b) => .ok b
    | _ => .ok false
  | "filter" => against fun e => filterNames.contains e.printed
  | "test" => against fun e => testNames.contains e.printed
  | _ => .error (.unknownTest name)
where
  testNames : List String :=
    ["defined", "undefined", "none", "true", "false", "boolean", "number", "integer", "int",
     "float", "string", "sequence", "mapping", "iterable", "safe", "escaped", "odd", "even",
     "divisibleby", "lower", "upper", "startingwith", "endingwith", "eq", "equalto", "==", "ne",
     "!=", "lt", "lessthan", "<", "le", "<=", "gt", "greaterthan", ">", "ge", ">=", "sameas", "in",
     "filter", "test"]
  filterNames : List String :=
    ["upper", "lower", "title", "capitalize", "replace", "length", "count", "items", "dictsort",
     "reverse", "trim", "join", "split", "lines", "default", "d", "round", "abs", "int", "float",
     "attr", "first", "last", "min", "max", "sort", "list", "bool", "batch", "slice", "indent",
     "select", "reject", "selectattr", "rejectattr", "map", "unique", "string", "sum", "safe",
     "escape", "e", "pprint", "groupby", "chain", "zip"]

end CycleLog.Template
