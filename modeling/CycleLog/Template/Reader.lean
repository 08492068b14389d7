import CycleLog.Template.Expression

/-!
# Reading templates

`read?` reads a template; nothing stands for a text that is none. A statement that opens a block is
read up to the statement that closes it. `room` is how many more levels of nesting are allowed.
-/

namespace CycleLog.Template
set_option autoImplicit false

/-! ## Targets -/

def isReserved (n : String) : Bool :=
  ["true", "True", "false", "False", "none", "None", "loop", "self"].contains n

/-- One name, with a member if that is allowed. -/
def nameTarget? (members : Bool) : List Token → Option (Target × List Token)
  | .name n :: .mark "." :: .name f :: r =>
    if members then some (.member n f, r)
    else if isReserved n then none
    else some (.name n, .mark "." :: .name f :: r)
  | .name n :: r => if isReserved n then none else some (.name n, r)
  | _ => none

/-- Whether the tokens end or go on with `in` or a closing parenthesis. -/
def endsTarget : List Token → Bool
  | [] => true
  | .name "in" :: _ => true
  | .mark ")" :: _ => true
  | _ => false

/-- Names with commas between them, and whether there is a comma. -/
def targetParts : Nat → List Token → Option ((List Target × Bool) × List Token)
  | 0, _ => none
  | fuel + 1, ts =>
    if endsTarget ts then some (([], false), ts)
    else do
      let (t, r) ← match ts with
        | .mark "(" :: r => do
          let ((parts, several), r) ← targetParts fuel r
          match r with
          | .mark ")" :: r =>
            some (if several then .several parts else parts.headD (.several []), r)
          | _ => none
        | ts => nameTarget? false ts
      match r with
      | .mark "," :: r =>
        let ((ps, _), r) ← targetParts fuel r
        some ((t :: ps, true), r)
      | r => some (([t], false), r)

def target? (ts : List Token) : Option (Target × List Token) := do
  let ((parts, several), r) ← targetParts (ts.length + 1) ts
  match parts, several with
  | [t], false => some (t, r)
  | ps, _ => some (.several ps, r)

/-- A name, or several in parentheses. -/
def oneTarget? (members : Bool) : List Token → Option (Target × List Token)
  | .mark "(" :: r => do
    let (t, r) ← target? r
    match r with
    | .mark ")" :: r => some (t, r)
    | _ => none
  | ts => nameTarget? members ts

def assignments (room : Nat) : Nat → List Token → Option (List Target × List Expr)
  | 0, _ => none
  | _ + 1, [] => some ([], [])
  | fuel + 1, ts => do
    let (t, r) ← oneTarget? false ts
    match r with
    | .mark "=" :: r =>
      let (e, r) ← expr? room r
      match r with
      | [] => some ([t], [e])
      | .mark "," :: r =>
        let (ts, es) ← assignments room fuel r
        some (t :: ts, e :: es)
      | _ => none
    | _ => none

/-! ## Blocks -/

/-- Nodes up to a statement that begins with one of some words: that word, the tokens behind it, and
the segments behind the statement. At the end of the template the word is empty. -/
abbrev Body := List Node × String × List Token × List Segment

/-- Reads a block that ends with one of the given words. -/
abbrev BodyReader := List String → List Segment → Option Body

/-- A block that ends with the given word and nothing behind it. -/
def simpleBody (body : BodyReader) (stop : String) (rest : List Segment) :
    Option (List Node × List Segment) := do
  match ← body [stop] rest with
  | (ns, _, [], rest) => some (ns, rest)
  | _ => none

def branches (room : Nat) (body : BodyReader) (test : List Token) :
    Nat → List Segment → Option (Node × List Segment)
  | 0, _ => none
  | fuel + 1, rest => do
    let e ← wholeExpr? room test
    match ← body ["elif", "else", "endif"] rest with
    | (yes, "elif", ts, rest) =>
      let (no, rest) ← branches room body ts fuel rest
      some (.branch e yes [no], rest)
    | (yes, "else", [], rest) =>
      let (no, rest) ← simpleBody body "endif" rest
      some (.branch e yes no, rest)
    | (yes, "endif", [], rest) => some (.branch e yes [], rest)
    | _ => none

/-- Whether a loop is recursive, by what is left of its statement. -/
def recursive? : List Token → Option Bool
  | [] => some false
  | [.name "recursive"] => some true
  | _ => none

def loopAt (room : Nat) (body : BodyReader) (ts : List Token) (rest : List Segment) :
    Option (Node × List Segment) := do
  let (t, r) ← target? ts
  match r with
  | .name "in" :: r =>
    let (items, r) ← plainExpr? room r
    let (test, r) ← match r with
      | .name "if" :: r => expr? room r
      | r => some (.const (.bool true), r)
    let again ← recursive? r
    match ← body ["else", "endfor"] rest with
    | (ns, "else", [], rest) =>
      let (others, rest) ← simpleBody body "endfor" rest
      some (.loop again t items test ns others, rest)
    | (ns, "endfor", [], rest) => some (.loop again t items test ns [], rest)
    | _ => none
  | _ => none

def assignAt (room : Nat) (body : BodyReader) (ts : List Token) (rest : List Segment) :
    Option (Node × List Segment) := do
  let (t, r) ← oneTarget? true ts
  let single := ts.head? != some (.mark "(")
  match r with
  | .mark "=" :: r =>
    let e ← wholeExpr? room r
    some (.assign t e, rest)
  | [] =>
    if !single then none
    let (ns, rest) ← simpleBody body "endset" rest
    some (.assignBlock t .captured ns, rest)
  | .mark "|" :: r =>
    if !single then none
    let f ← filterChain? room r.length .captured r
    let (ns, rest) ← simpleBody body "endset" rest
    some (.assignBlock t f ns, rest)
  | _ => none

def blockAt (body : BodyReader) (ts : List Token) (rest : List Segment) :
    Option (Node × List Segment) := do
  match ts with
  | [.name n] =>
    match ← body ["endblock"] rest with
    | (ns, _, [], rest) => some (.block n ns, rest)
    | (ns, _, [.name m], rest) => if n = m then some (.block n ns, rest) else none
    | _ => none
  | _ => none

/-- Parameters up to and with the closing parenthesis: their names, and the defaults of the last
ones. -/
def paramsTo (room : Nat) (defaulted : Bool) :
    Nat → List Token → Option ((List String × List Expr) × List Token)
  | fuel + 1, .name n :: r => do
    if isReserved n then none
    let (value, r) ← match r with
      | .mark "=" :: r => (expr? room r).map fun (e, r) => (some e, r)
      | r => if defaulted then none else some (none, r)
    match r with
    | .mark ")" :: r => some (([n], value.toList), r)
    | .mark "," :: r =>
      let ((ns, es), r) ← paramsTo room value.isSome fuel r
      some ((n :: ns, value.toList ++ es), r)
    | _ => none
  | _, .mark ")" :: r => some (([], []), r)
  | _, _ => none

def defineAt (room : Nat) (body : BodyReader) (ts : List Token) (rest : List Segment) :
    Option (Node × List Segment) :=
  match ts with
  | .name n :: .mark "(" :: r => do
    match ← paramsTo room false (r.length + 1) r with
    | ((ps, ds), []) =>
      let (ns, rest) ← simpleBody body "endmacro" rest
      some (.define n ps ds ns, rest)
    | _ => none
  | _ => none

def isCall : Expr → Bool
  | .call _ _ _ | .callValue _ _ _ | .block _ => true
  | _ => false

def callAt (room : Nat) (body : BodyReader) (ts : List Token) (rest : List Segment) :
    Option (Node × List Segment) := do
  let ((ps, ds), r) ← match ts with
    | .mark "(" :: r => paramsTo room false (r.length + 1) r
    | r => some (([], []), r)
  let e ← wholeExpr? room r
  if !isCall e then none
  let (ns, rest) ← simpleBody body "endcall" rest
  some (.callWith e ps ds ns, rest)

/-- A statement that calls something for its effect. -/
def performAt (room : Nat) (ts : List Token) : Option Node := do
  let e ← wholeExpr? room ts
  if isCall e then some (.perform e) else none

/-- A statement that refers to another template. -/
def missingAt (room : Nat) (word : String) (ts : List Token) : Option Node := do
  let (_, r) ← expr? room ts
  match word, r with
  | "extends", [] => some (.missing false)
  | "include", [] => some (.missing false)
  | "include", [.name "ignore", .name "missing"] => some (.missing true)
  | "import", [.name "as", .name _] => some (.missing false)
  | "from", .name "import" :: _ => some (.missing false)
  | _, _ => none

/-- The statement that begins with `word`. The bodies of macros and calls are read with `body true`, since no block
may stand in them. -/
def statement (room : Nat) (body : Bool → BodyReader) (inMacro : Bool) (word : String)
    (ts : List Token) (rest : List Segment) : Option (Node × List Segment) :=
  match word with
  | "if" => branches room (body inMacro) ts (rest.length + 1) rest
  | "for" => loopAt room (body inMacro) ts rest
  | "set" => assignAt room (body inMacro) ts rest
  | "with" => do
    let (targets, values) ← assignments room (ts.length + 1) ts
    let (ns, rest) ← simpleBody (body inMacro) "endwith" rest
    some (.scope targets values ns, rest)
  | "filter" => do
    let f ← filterChain? room ts.length .captured ts
    let (ns, rest) ← simpleBody (body inMacro) "endfilter" rest
    some (.filtered f ns, rest)
  | "block" => if inMacro then none else blockAt (body false) ts rest
  | "autoescape" => do
    let e ← wholeExpr? room ts
    let (ns, rest) ← simpleBody (body inMacro) "endautoescape" rest
    some (.escaping e ns, rest)
  | "macro" => defineAt room (body true) ts rest
  | "call" => callAt room (body true) ts rest
  | "do" => (performAt room ts).map (·, rest)
  | "extends" | "include" | "import" | "from" => (missingAt room word ts).map (·, rest)
  | _ => none

/-- Nodes up to a statement that begins with one of the words `stops`, or up to the end if there
are no such words. -/
def nodesTo (room : Nat) : Nat → Bool → BodyReader
  | 0, _, _, _ => none
  | fuel + 1, inMacro, stops, segments =>
    match segments with
    | [] => if stops.isEmpty then some ([], "", [], []) else none
    | .text cs :: rest => do
      let (ns, x) ← nodesTo room fuel inMacro stops rest
      some (if cs.isEmpty then ns else .text (String.ofList cs) :: ns, x)
    | .output ts :: rest => do
      let e ← wholeExpr? room ts
      let (ns, x) ← nodesTo room fuel inMacro stops rest
      some (.output e :: ns, x)
    | .statement (.name word :: ts) :: rest =>
      if stops.contains word then some ([], word, ts, rest)
      else
        match room with
        | 0 => none
        | room + 1 => do
          let (n, rest) ← statement room (nodesTo room fuel) inMacro word ts rest
          let (ns, x) ← nodesTo (room + 1) fuel inMacro stops rest
          some (n :: ns, x)
    | .statement _ :: _ => none

/-- The name of the block that a statement begins. -/
def blockName? : Segment → Option String
  | .statement (.name "block" :: .name n :: _) => some n
  | _ => none

def ownNames (segments : List Segment) : Bool := decide (segments.filterMap blockName?).Nodup

def read? (s : String) : Option (List Node) := do
  let segments ← segments? s
  if !ownNames segments then none
  let (ns, _) ← nodesTo depthLimit (segments.length + 1) false [] segments
  some ns

end CycleLog.Template
