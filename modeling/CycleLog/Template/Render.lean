import CycleLog.Template.Filter
import CycleLog.Template.Reader

/-!
# Rendering templates

`render` puts the values of the given names into a template. A name without value prints as nothing,
but has no members or items. What a loop, a block or a `with` statement assigns is forgotten at its
end. A body with parameters is called through `invokeAt`, which bounds how deep calls are nested.
-/

namespace CycleLog.Template
set_option autoImplicit false

/-! ## Names in force -/

abbrev Frame := List (String × Datum)

/-- A body with parameters, and the names that were in force where it was defined. -/
structure Routine where
  name : String
  params : List String
  /-- The values of the last parameters where the call gives none. -/
  defaults : List Expr
  body : List Node
  frames : List Frame

/-- A loop that is being run. -/
structure Running where
  /-- The number of recursive loops around it. -/
  depth : Nat
  /-- The target and the body that a call runs again; nothing for a loop that is not recursive. -/
  again? : Option (Target × List Node)

structure Scope where
  /-- The innermost names first. -/
  frames : List Frame
  /-- The bodies that have been given names so far. -/
  routines : List Routine
  blocks : List (String × List Node)
  /-- The innermost loop first. -/
  loops : List Running
  /-- How many frames there are, with those around a call. -/
  depth : Nat
  escaping : Bool
  /-- What a filter without an operand is applied to. -/
  captured : Datum

def Scope.start (frame : Frame) (nodes : List Node) : Scope :=
  ⟨[frame], [], blocksOf nodes, [], 1, false, .undefined⟩

def isFunction (name : String) : Bool := ["range", "dict", "namespace", "debug"].contains name

def Scope.value? (s : Scope) (name : String) : Option Datum :=
  s.frames.findSome? (·.lookup name)

def Scope.value (s : Scope) (name : String) : Datum :=
  (s.value? name).getD (if isFunction name then .function name else .undefined)

def Scope.put (s : Scope) (name : String) (d : Datum) : Scope :=
  match s.frames with
  | [] => { s with frames := [[(name, d)]] }
  | f :: fs => { s with frames := ((name, d) :: f) :: fs }

/-- Changes the value under a name where it is. -/
def changeIn (name : String) (d : Datum) : List Frame → List Frame
  | [] => []
  | f :: fs => if (f.lookup name).isSome then ((name, d) :: f) :: fs else f :: changeIn name d fs

mutual

def Scope.assign (s : Scope) (t : Target) (d : Datum) : Except Fault Scope :=
  match t with
  | .name n => .ok (s.put n d)
  | .member n field =>
    match s.value? n with
    | some (.record ms) =>
      .ok { s with frames := changeIn n (.record (Datum.insert (.text field) d ms)) s.frames }
    | _ => .error .badOperands
  | .several ts =>
    match d.items? with
    | some ds => if ds.length = ts.length then s.assignAll ts ds else .error .notIterable
    | none => .error .notIterable

def Scope.assignAll (s : Scope) (ts : List Target) (ds : List Datum) : Except Fault Scope :=
  match ts, ds with
  | t :: ts, d :: ds => do
    let s ← s.assign t d
    s.assignAll ts ds
  | _, _ => .ok s

end

/-- How many frames there may be. -/
def recursionLimit : Nat := 500

/-- How many frames a call of a body with parameters counts for. -/
def callCost : Nat := 6

def Scope.inner (s : Scope) : Except Fault Scope :=
  if recursionLimit < s.depth then .error .tooDeep
  else .ok { s with frames := [] :: s.frames, depth := s.depth + 1 }

def Scope.outer (s : Scope) : Scope := { s with frames := s.frames.drop 1, depth := s.depth - 1 }

def Scope.enter (s : Scope) (again? : Option (Target × List Node)) : Except Fault Scope := do
  let depth := match s.loops with
    | r :: _ => if r.again?.isSome then r.depth + 1 else 0
    | [] => 0
  let s ← s.inner
  .ok { s with loops := ⟨depth, again?⟩ :: s.loops }

def Scope.leave (s : Scope) : Scope := { s.outer with loops := s.loops.drop 1 }

/-- Keeps a body with parameters, and gives the value that stands for it. -/
def Scope.define (s : Scope) (name : String) (params : List String) (defaults : List Expr)
    (body : List Node) : Scope × Datum :=
  ({ s with routines := s.routines ++ [⟨name, params, defaults, body, s.frames⟩] },
    .routine name s.routines.length)

/-- The scope inside of a body: the names that were in force where it was defined, with the outermost of them as they
are at the time of the call, and neither blocks nor loops. -/
def Scope.inside (s : Scope) (r : Routine) (self : Datum) (frame : Frame) : Except Fault Scope :=
  if recursionLimit < s.depth + callCost then .error .tooDeep
  else .ok { s with
    frames := frame :: [(r.name, self)] :: (r.frames.dropLast ++ s.frames.getLast?.toList)
    blocks := []
    loops := []
    depth := s.depth + callCost
    captured := .undefined }

/-! ## Arguments -/

/-- The name under which a body finds the one that a `call` statement gives it. -/
def callerName : String := "caller"

/-- The parameters with the values that they are given; a value too many, and one that is given
twice, is a fault. -/
def Routine.bound (r : Routine) (a : Args) : Except Fault Frame :=
  let filled := r.params.take a.given.length
  if r.params.length < a.given.length ∨
      a.named.any (fun p => filled.contains p.1 || !(callerName :: r.params).contains p.1) then
    .error .badArguments
  else
    .ok ((r.params ++ [callerName]).zipIdx.map fun (n, i) =>
      (n, (a.given[i]?.or (a.named.lookup n)).getD .undefined))

/-- The parameters with a default, the last one first. -/
def Routine.optional (r : Routine) : List (String × Expr) :=
  ((r.params.drop (r.params.length - r.defaults.length)).zip r.defaults).reverse

/-! ## What is remembered -/

structure Memory where
  /-- How many loops have been begun. -/
  loops : Nat
  /-- For loops by their number what they were last asked about, the latest first. -/
  asked : List (Nat × List Datum)

abbrev Eval := StateT Memory (Except Fault)

def newLoop : Eval Nat := modifyGet fun m => (m.loops, { m with loops := m.loops + 1 })

/-- Whether the data differ from those that the loop was last asked about. -/
def changed (loop : Nat) (ds : List Datum) : Eval Bool :=
  modifyGet fun m =>
    match m.asked.lookup loop with
    | some es => (Datum.compareItems ds es != .eq, { m with asked := (loop, ds) :: m.asked })
    | none => (true, { m with asked := (loop, ds) :: m.asked })

/-! ## Calls -/

inductive Call where
  /-- The body of that number with these arguments. -/
  | routine (index : Nat) (a : Args)
  | block (name : String)
  /-- The innermost loop, with something else to run over. -/
  | loop (items : Datum)

abbrev Invoke := Scope → Call → Eval Datum

/-! ## Expressions -/

/-- The member of that name; what has no value has no members. -/
def memberOf (d : Datum) (name : String) : Except Fault Datum :=
  match d with
  | .undefined => .error .undefinedBase
  | d => .ok ((d.named? name).getD .undefined)

def itemOf (d key : Datum) : Except Fault Datum :=
  match d with
  | .undefined => .error .undefinedBase
  | d => .ok (d.item key)

/-- The values of a call's arguments, with the names of the last ones. -/
def argsOf (ds : List Datum) (names : List String) : Args :=
  let k := ds.length - names.length
  ⟨ds.take k, names.zip (ds.drop k)⟩

/-- A call of a name; under `loop` it is the loop that is called, whatever has that name. -/
def callNamed (invoke : Invoke) (s : Scope) (name : String) (a : Args) : Eval Datum :=
  match name, a.given, a.named with
  | "loop", [d], [] => invoke s (.loop d)
  | "loop", _, _ => throw .badArguments
  | _, _, _ =>
    match s.value name with
    | .function f => applyFunction f a
    | .routine _ i => invoke s (.routine i a)
    | .undefined =>
      if (s.value? name).isSome then throw .notCallable else throw (.unknownFunction name)
    | _ => throw .notCallable

/-- A call of a member. The state of a loop can pick one of several values in turn, and can tell whether it is asked
about something else than the last time. -/
def callMember (invoke : Invoke) (s : Scope) (d : Datum) (name : String) (a : Args) : Eval Datum :=
  match d.named? name with
  | some (.routine _ i) => invoke s (.routine i a)
  | _ =>
    match d, name, a.given with
    | .cursor _ _ place _, "cycle", v :: vs =>
      pure ((v :: vs).getD (place % (vs.length + 1)) .undefined)
    | .cursor loop _ _ _, "changed", vs => return .bool (← changed loop vs)
    | _, _, _ => throw .notCallable

mutual

def value (invoke : Invoke) (s : Scope) : Expr → Eval Datum
  | .const d => pure d
  | .var n => pure (s.value n)
  | .captured => pure s.captured
  | .list es => return .list (← values invoke s es)
  | .record ks vs => do
    let ks ← values invoke s ks
    let vs ← values invoke s vs
    pure (Datum.recordOf (ks.zip vs))
  | .not e => do
    let d ← value invoke s e
    pure (.bool !d.isTrue)
  | .neg e => do
    let d ← value invoke s e
    neg d
  | .and a b => do
    let d ← value invoke s a
    if d.isTrue then value invoke s b else pure d
  | .or a b => do
    let d ← value invoke s a
    if d.isTrue then pure d else value invoke s b
  | .binary op a b => do
    let d ← value invoke s a
    let e ← value invoke s b
    op.apply d e
  | .choose test yes no => do
    let d ← value invoke s test
    if d.isTrue then value invoke s yes else value invoke s no
  | .attr e n => do
    let d ← value invoke s e
    memberOf d n
  | .item e key => do
    let d ← value invoke s e
    let k ← value invoke s key
    itemOf d k
  | .slice e start stop step => do
    let d ← value invoke s e
    let i ← value invoke s start
    let j ← value invoke s stop
    let k ← value invoke s step
    slice d i j k
  | .filter n e args names => do
    let d ← value invoke s e
    let ds ← values invoke s args
    applyFilter n d (argsOf ds names)
  | .test n e args names => do
    let d ← value invoke s e
    let ds ← values invoke s args
    (passes n d (argsOf ds names)).map .bool
  | .call n args names => do
    let ds ← values invoke s args
    callNamed invoke s n (argsOf ds names)
  | .callValue (.attr e n) args names => do
    let d ← value invoke s e
    let ds ← values invoke s args
    callMember invoke s d n (argsOf ds names)
  | .callValue e args names => do
    let d ← value invoke s e
    let ds ← values invoke s args
    match d with
    | .routine _ i => invoke s (.routine i (argsOf ds names))
    | _ => throw .notCallable
  | .block n => invoke s (.block n)

def values (invoke : Invoke) (s : Scope) : List Expr → Eval (List Datum)
  | [] => pure []
  | e :: es => do
    let d ← value invoke s e
    let ds ← values invoke s es
    pure (d :: ds)

end

/-- A call that is given one more argument by name. -/
def withCaller (d : Datum) : Expr → Expr
  | .call n args names => .call n (args ++ [.const d]) (names ++ [callerName])
  | .callValue e args names => .callValue e (args ++ [.const d]) (names ++ [callerName])
  | e => e

/-! ## Nodes -/

def shown (s : Scope) (d : Datum) : String :=
  match d with
  | .markup t => t
  | .text t => if s.escaping then escapedText t else t
  | .list _ | .tuple _ _ | .record _ => if s.escaping then escapedText d.printed else d.printed
  | d => d.printed

def capturedText (s : Scope) (t : String) : Datum := if s.escaping then .markup t else .text t

def chosenItems (invoke : Invoke) (s : Scope) (t : Target) (test : Expr) (ds : List Datum) :
    Eval (List Datum) := do
  let s ← s.enter none
  ds.filterM fun d => do
    let s ← s.assign t d
    return (← value invoke s test).isTrue

/-- Whether texts are escaped from a value on. -/
def escapingOf (d : Datum) : Except Fault Bool :=
  match d with
  | .bool b => .ok b
  | .text "html" | .markup "html" => .ok true
  | .text "none" | .markup "none" | .none => .ok false
  | _ => .error .badArguments

mutual

def run (invoke : Invoke) (s : Scope) : Node → Eval (Scope × String)
  | .text t => pure (s, t)
  | .output e => do
    let d ← value invoke s e
    pure (s, shown s d)
  | .branch test yes no => do
    let d ← value invoke s test
    if d.isTrue then runAll invoke s yes else runAll invoke s no
  | .loop again t items test body others => do
    let d ← value invoke s items
    let ds ← sequence d
    let ds ← chosenItems invoke s t test ds
    if ds.isEmpty then runAll invoke s others
    else
      let number ← newLoop
      let s₁ ← s.enter (if again then some (t, body) else none)
      let depth := (s₁.loops.head?.map (·.depth)).getD 0
      let (s₁, out) ← ds.zipIdx.foldlM (fun (acc : Scope × String) (d, i) => do
        let s₁ ← (acc.1.put "loop" (.cursor number depth i ds)).assign t d
        let (s₁, out) ← runAll invoke s₁ body
        pure (s₁, acc.2 ++ out)) (s₁, "")
      pure (s₁.leave, out)
  | .assign t e => do
    let d ← value invoke s e
    let s ← s.assign t d
    pure (s, "")
  | .assignBlock t f body => do
    let (s, out) ← runAll invoke s body
    let d ← value invoke { s with captured := capturedText s out } f
    let s ← s.assign t d
    pure (s, "")
  | .scope targets es body => do
    let s₁ ← s.inner
    let s₁ ← (targets.zip es).foldlM (fun (s₁ : Scope) (t, e) => do
      let d ← value invoke s₁ e
      s₁.assign t d) s₁
    let (s₁, out) ← runAll invoke s₁ body
    pure (s₁.outer, out)
  | .filtered f body => do
    let (s, out) ← runAll invoke s body
    let d ← value invoke { s with captured := capturedText s out } f
    pure (s, shown s d)
  | .block _ body => do
    let s₁ ← s.inner
    let (s₁, out) ← runAll invoke s₁ body
    pure (s₁.outer, out)
  | .escaping mode body => do
    let d ← value invoke s mode
    let b ← escapingOf d
    let (s₁, out) ← runAll invoke { s with escaping := b } body
    pure ({ s₁ with escaping := s.escaping }, out)
  | .perform e => do
    let _ ← value invoke s e
    pure (s, "")
  | .define n params defaults body => do
    let (s, d) := s.define n params defaults body
    pure (s.put n d, "")
  | .callWith call params defaults body => do
    let (s, d) := s.define callerName params defaults body
    let out ← value invoke s (withCaller d call)
    pure (s, shown s out)
  | .missing mayMiss => if mayMiss then pure (s, "") else throw .missingTemplate

def runAll (invoke : Invoke) (s : Scope) : List Node → Eval (Scope × String)
  | [] => pure (s, "")
  | n :: ns => do
    let (s, out) ← run invoke s n
    let (s, more) ← runAll invoke s ns
    pure (s, out ++ more)

end

/-! ## Calls carried out -/

/-- Gives a parameter its default, if it has no value yet. -/
def Scope.fill (invoke : Invoke) (s : Scope) (p : String × Expr) : Eval Scope := do
  match s.frames.head?.bind (·.lookup p.1) with
  | some .undefined =>
    let d ← Template.value invoke s p.2
    pure (s.put p.1 d)
  | _ => pure s

/-- Carries out a call, in which calls may be nested `fuel` deep. -/
def invokeAt : Nat → Invoke
  | 0, _, _ => throw .tooDeep
  | fuel + 1, s, .routine i a => do
    match s.routines[i]? with
    | none => throw .notCallable
    | some r =>
      let frame ← r.bound a
      let s₁ ← s.inside r (.routine r.name i) frame
      let s₁ ← r.optional.foldlM (Scope.fill (invokeAt fuel)) s₁
      let (_, out) ← runAll (invokeAt fuel) s₁ r.body
      pure (capturedText s out)
  | fuel + 1, s, .block name => do
    match s.blocks.lookup name with
    | none => throw .notCallable
    | some body =>
      let s₁ ← s.inner
      let (_, out) ← runAll (invokeAt fuel) s₁ body
      pure (capturedText s out)
  | fuel + 1, s, .loop d => do
    match s.loops.head?.bind (·.again?) with
    | none => throw .notCallable
    | some (t, body) =>
      let (_, out) ← run (invokeAt fuel) { s with captured := d }
        (.loop true t .captured (.const (.bool true)) body [])
      pure (capturedText s out)

/-- The text of a template with the given names. Each call begins a frame, so that no more than the
limit of frames can be nested. -/
def render (nodes : List Node) (names : List (String × String)) : Except Fault String := do
  let frame := names.map fun (n, t) => (n, Datum.text t)
  let ((_, out), _) ←
    (runAll (invokeAt (recursionLimit + 2)) (.start frame nodes) nodes).run ⟨0, []⟩
  .ok out

/-! ## Templates of text and names -/

/-- What a node puts into the output, if it is text or a name. -/
def Node.plainText? (names : List (String × String)) : Node → Option String
  | .text t => some t
  | .output (.var n) => names.lookup n
  | _ => none

theorem lookup_frame (names : List (String × String)) (n : String) :
    (names.map fun (k, t) => (k, Datum.text t)).lookup n = (names.lookup n).map .text := by
  induction names with
  | nil => rfl
  | cons p ps ih =>
    rw [List.map_cons, List.lookup_cons, List.lookup_cons]
    cases n == p.1
    · exact ih
    · rfl

section Plain
variable {names : List (String × String)} {s : Scope}
  (hnames : ∀ n, s.value? n = (names.lookup n).map .text) (hplain : s.escaping = false)
include hnames hplain

theorem run_of_plainText? {invoke : Invoke} {n : Node} {t : String}
    (h : n.plainText? names = some t) : run invoke s n = pure (s, t) := by
  unfold Node.plainText? at h
  split at h
  · obtain rfl := Option.some.inj h
    rfl
  · next name =>
    have hvalue : s.value name = .text t := by rw [Scope.value, hnames, h]; rfl
    have hshown : shown s (.text t) = t := by rw [shown, hplain]; rfl
    have hrun : run invoke s (.output (.var name)) = pure (s, shown s (s.value name)) := rfl
    rw [hrun, hvalue, hshown]
  · cases h

theorem runAll_of_plainText? {invoke : Invoke} {ns : List Node} {ts : List String}
    (h : ns.mapM (Node.plainText? names) = some ts) :
    runAll invoke s ns = pure (s, ts.foldr (· ++ ·) "") := by
  induction ns generalizing ts with
  | nil =>
    obtain rfl := Option.some.inj h
    rfl
  | cons n ns ih =>
    rw [List.mapM_cons] at h
    obtain ⟨t, ht, h⟩ := Option.bind_eq_some_iff.mp h
    obtain ⟨ts, hts, h⟩ := Option.bind_eq_some_iff.mp h
    obtain rfl := Option.some.inj h
    rw [runAll, run_of_plainText? hnames hplain ht, pure_bind]
    dsimp only
    rw [ih hts, pure_bind]
    rfl

end Plain

/-- A template of text and names gives the text with the values of the names in their places. -/
theorem render_of_plainText? {names : List (String × String)} {ns : List Node} {t : String}
    (h : (ns.mapM (Node.plainText? names)).map (·.foldr (· ++ ·) "") = some t) :
    render ns names = .ok t := by
  obtain ⟨ts, hts, rfl⟩ := Option.map_eq_some_iff.mp h
  have hnames (n : String) :
      (Scope.start (names.map fun (k, t) => (k, .text t)) ns).value? n =
        (names.lookup n).map .text := by
    rw [← lookup_frame names n, Scope.value?, Scope.start, List.findSome?_singleton]
  unfold render
  dsimp only
  rw [runAll_of_plainText? hnames rfl hts]
  rfl

end CycleLog.Template
