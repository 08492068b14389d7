import CycleLog.Toml.Scalar
import CycleLog.Json.Value

/-!
# TOML documents

A document is a list of lines that set keys and open tables. `Table` remembers how each table came
about: a table may be opened once, a table that only lies on the way to another one may still be
opened, and keys with points may not reach into a table that was opened on its own.
-/

namespace CycleLog.Toml
set_option autoImplicit false

open Json (Value)

/-! ## Tables -/

/-- How a table came about. -/
inductive Origin where
  /-- It lies on the way to a table that was opened. -/
  | passed
  /-- It was opened. -/
  | opened
  /-- A key with points runs through it. -/
  | dotted
deriving DecidableEq, Repr

inductive Entry where
  /-- A value that cannot be added to. -/
  | value (v : Value)
  | table (origin : Origin) (entries : List (String × Entry))
  /-- Tables under one name, the last one first. -/
  | tables (rows : List (List (String × Entry)))
deriving Inhabited

abbrev Table := List (String × Entry)

/-- Puts an entry in place of the one of that key, or at the end. -/
def Table.put (t : Table) (k : String) (e : Entry) : Table :=
  match t with
  | [] => [(k, e)]
  | (l, f) :: r => if k = l then (k, e) :: r else (l, f) :: Table.put r k e

/-- Changes the table that a path leads to, making tables on the way; `through` says into which
tables the path may lead. -/
def Table.within (fresh : Origin) (through : Origin → Bool) (change : Origin → Table → Option Table)
    (origin : Origin) : List String → Table → Option Table
  | [], t => change origin t
  | k :: ks, t => do
    match t.lookup k with
    | none =>
      let inner ← Table.within fresh through change fresh ks []
      some (t.put k (.table fresh inner))
    | some (.table o inner) =>
      if through o then
        let inner ← Table.within fresh through change o ks inner
        some (t.put k (.table o inner))
      else none
    | some (.tables (row :: rows)) =>
      let row ← Table.within fresh through change .opened ks row
      some (t.put k (.tables (row :: rows)))
    | some _ => none

/-- Sets a key that does not exist yet. -/
def Table.setNew (k : String) (v : Value) (t : Table) : Option Table :=
  match t.lookup k with
  | none => some (t.put k (.value v))
  | some _ => none

/-- Sets the key that a path with points stands for. -/
def Table.set (t : Table) (path : List String) (v : Value) : Option Table :=
  match path.getLast? with
  | none => none
  | some k =>
    if path.length = 1 then t.setNew k v
    else
      Table.within .dotted (· != .opened)
        (fun origin t => if origin = .dotted then t.setNew k v else none) .opened path.dropLast t

/-- Opens a table. -/
def Table.begin (t : Table) (path : List String) : Option Table :=
  match path.getLast? with
  | none => none
  | some k =>
    Table.within .passed (fun _ => true) (fun _ t =>
      match t.lookup k with
      | none => some (t.put k (.table .opened []))
      | some (.table .passed inner) => some (t.put k (.table .opened inner))
      | some _ => none) .opened path.dropLast t

/-- Opens one more of the tables under one name. -/
def Table.beginNext (t : Table) (path : List String) : Option Table :=
  match path.getLast? with
  | none => none
  | some k =>
    Table.within .passed (fun _ => true) (fun _ t =>
      match t.lookup k with
      | none => some (t.put k (.tables [[]]))
      | some (.tables rows) => some (t.put k (.tables ([] :: rows)))
      | some _ => none) .opened path.dropLast t

/-- Sets a key in the table that was opened last. -/
def Table.setIn (t : Table) (opened path : List String) (v : Value) : Option Table :=
  Table.within .passed (fun _ => true) (fun _ t => t.set path v) .opened opened t

mutual

def Entry.toValue : Entry → Value
  | .value v => v
  | .table _ es => Value.make (membersOf es)
  | .tables rows => .list (rowsOf rows).reverse

def membersOf : List (String × Entry) → List (String × Value)
  | [] => []
  | (k, e) :: es => (k, e.toValue) :: membersOf es

def rowsOf : List (List (String × Entry)) → List Value
  | [] => []
  | row :: rows => Value.make (membersOf row) :: rowsOf rows

end

/-! ## Values -/

/-- Drops blanks, comments and line ends. -/
def skipAll : Nat → List Char → Option (List Char)
  | 0, _ => none
  | fuel + 1, cs => do
    let r ← comment? (skipGap cs)
    match lineEnd? r with
    | some r => skipAll fuel r
    | none => some r

/-- Values with commas between them, up to and with the closing bracket. -/
def arrayItems (item : List Char → Option (Value × List Char)) :
    Nat → List Char → Option (List Value × List Char)
  | 0, _ => none
  | fuel + 1, cs => do
    match ← skipAll (cs.length + 1) cs with
    | ']' :: r => some ([], r)
    | r =>
      let (v, r) ← item r
      match ← skipAll (r.length + 1) r with
      | ',' :: r =>
        let (vs, r) ← arrayItems item fuel r
        some (v :: vs, r)
      | ']' :: r => some ([v], r)
      | _ => none

/-- Keys and values with commas between them, up to and with the closing brace. -/
def inlineMembers (item : List Char → Option (Value × List Char)) :
    Nat → Table → List Char → Option (Table × List Char)
  | 0, _, _ => none
  | fuel + 1, t, cs => do
    let (path, r) ← path? (cs.length + 1) cs
    let r ← expect '=' r
    let (v, r) ← item (skipGap r)
    let t ← t.set path v
    match skipGap r with
    | ',' :: r => inlineMembers item fuel t r
    | '\x7d' :: r => some (t, r)
    | _ => none

/-- A value; arrays and tables in braces may be nested so deep. -/
def value? : Nat → List Char → Option (Value × List Char)
  | _, '"' :: r => text? ('"' :: r) |>.map fun (cs, r) => (.text (String.ofList cs), r)
  | _, '\'' :: r => text? ('\'' :: r) |>.map fun (cs, r) => (.text (String.ofList cs), r)
  | depth + 1, '[' :: r =>
    (arrayItems (value? depth) (r.length + 1) r).map fun (vs, r) => (.list vs, r)
  | depth + 1, '\x7b' :: r =>
    match skipGap r with
    | '\x7d' :: r => some (.object [], r)
    | r =>
      (inlineMembers (value? depth) (r.length + 1) [] r).map fun (t, r) =>
        (Value.make (membersOf t), r)
  | _, cs => scalar? cs

def depthLimit : Nat := 79

/-! ## Lines -/

/-- A document that is being read: what is set, and the path of the table opened last. -/
structure Reading where
  table : Table
  opened : List String

/-- Reads one line, and leaves its end. -/
def line (d : Reading) (cs : List Char) : Option (Reading × List Char) :=
  match cs with
  | '[' :: '[' :: r => do
    let (path, r) ← path? (r.length + 1) r
    let r ← expect ']' r
    let r ← expect ']' r
    let t ← d.table.beginNext path
    some (⟨t, path⟩, r)
  | '[' :: r => do
    let (path, r) ← path? (r.length + 1) r
    let r ← expect ']' r
    let t ← d.table.begin path
    some (⟨t, path⟩, r)
  | cs => do
    let (path, r) ← path? (cs.length + 1) cs
    let r ← expect '=' r
    let (v, r) ← value? depthLimit (skipGap r)
    let t ← d.table.setIn d.opened path v
    some (⟨t, d.opened⟩, r)

/-- Reads lines up to the end of the text. -/
def lines : Nat → Reading → List Char → Option Reading
  | 0, _, _ => none
  | fuel + 1, d, cs => do
    match ← skipAll (cs.length + 1) cs with
    | [] => some d
    | r =>
      let (d, r) ← line d r
      let r ← comment? (skipGap r)
      match r with
      | [] => some d
      | r =>
        let r ← lineEnd? r
        lines fuel d r

/-- Drops a byte order mark. -/
def withoutMark : List Char → List Char
  | '\uFEFF' :: r => r
  | r => r

/-- The document that a text is; nothing for a text that is none. -/
def read? (s : String) : Option Value := do
  let cs := withoutMark s.toList
  let d ← lines (cs.length + 1) ⟨[], []⟩ cs
  some (Value.make (membersOf d.table))

end CycleLog.Toml
