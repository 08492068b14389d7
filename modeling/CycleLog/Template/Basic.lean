import CycleLog.Template.Datum

/-!
# Templates

A template is a list of nodes: text, expressions whose value is put in its place, and statements.
The arguments of a call stand in one list, the ones given by name at its end: `names` holds their
names in order.
-/

namespace CycleLog.Template
set_option autoImplicit false

inductive Operator where
  | add | sub | mul | div | floorDiv | rem | pow | concat
  | eq | ne | lt | le | gt | ge | within
deriving DecidableEq, Repr

inductive Expr where
  | const (d : Datum)
  | var (name : String)
  /-- The text of the block that a filter is applied to. -/
  | captured
  | list (items : List Expr)
  | record (keys values : List Expr)
  | not (e : Expr)
  | neg (e : Expr)
  | and (a b : Expr)
  | or (a b : Expr)
  | binary (op : Operator) (a b : Expr)
  /-- `yes if test else no`. -/
  | choose (test yes no : Expr)
  | attr (e : Expr) (name : String)
  | item (e key : Expr)
  | slice (e start stop step : Expr)
  | filter (name : String) (e : Expr) (args : List Expr) (names : List String)
  | test (name : String) (e : Expr) (args : List Expr) (names : List String)
  | call (name : String) (args : List Expr) (names : List String)
  /-- A call of something that is no name: a member or another expression. -/
  | callValue (e : Expr) (args : List Expr) (names : List String)
  /-- The output of the block of that name. -/
  | block (name : String)
deriving Repr, Inhabited

inductive Target where
  | name (s : String)
  | member (s : String) (field : String)
  | several (parts : List Target)
deriving Repr, Inhabited

inductive Node where
  | text (s : String)
  | output (e : Expr)
  | branch (test : Expr) (yes no : List Node)
  /-- Runs over the items for which `test` holds; `others` is for when there are none. A recursive loop
  can be called inside of its body. -/
  | loop (recursive : Bool) (target : Target) (items test : Expr) (body others : List Node)
  | assign (target : Target) (e : Expr)
  | assignBlock (target : Target) (filter : Expr) (body : List Node)
  /-- Assignments that hold inside the body only. -/
  | scope (targets : List Target) (values : List Expr) (body : List Node)
  | filtered (filter : Expr) (body : List Node)
  | block (name : String) (body : List Node)
  | escaping (mode : Expr) (body : List Node)
  | perform (e : Expr)
  /-- Gives a name to a body with parameters; the defaults belong to the last of them. -/
  | define (name : String) (params : List String) (defaults : List Expr) (body : List Node)
  /-- A call that is given a body with parameters of its own, under the name `caller`. -/
  | callWith (call : Expr) (params : List String) (defaults : List Expr) (body : List Node)
  /-- Refers to another template, of which there is none. -/
  | missing (mayMiss : Bool)
deriving Repr, Inhabited

/-! ## Blocks of a template -/

mutual

/-- The blocks in a node, with their names; a body with parameters has none. -/
def Node.blocks : Node → List (String × List Node)
  | .block name body => (name, body) :: blocksOf body
  | .branch _ yes no => blocksOf yes ++ blocksOf no
  | .loop _ _ _ _ body others => blocksOf body ++ blocksOf others
  | .assignBlock _ _ body | .scope _ _ body | .filtered _ body | .escaping _ body => blocksOf body
  | _ => []

def blocksOf : List Node → List (String × List Node)
  | [] => []
  | n :: ns => n.blocks ++ blocksOf ns

end

end CycleLog.Template
