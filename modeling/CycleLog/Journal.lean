import CycleLog.Text.Blank
import CycleLog.Text.Case

/-!
# The journal of a run

What a run tells about itself, line by line. Each line has a level and a topic, and a `Rule` says up
to which level the lines of a topic are shown. The rule with the longest topic decides.
-/

namespace CycleLog.Journal
set_option autoImplicit false

inductive Level where
  | error
  | warn
  | info
  | debug
deriving DecidableEq, Repr

namespace Level

/-- Levels that tell more are higher. -/
def height : Level → Nat
  | error => 1
  | warn => 2
  | info => 3
  | debug => 4

def label : Level → String
  | error => "ERROR"
  | warn => " WARN"
  | info => " INFO"
  | debug => "DEBUG"

end Level

structure Line where
  level : Level
  topic : String
  message : String
deriving DecidableEq, Repr

def Line.text (l : Line) : String := l.level.label ++ " " ++ l.message

/-! ## Rules -/

/-- Lines of topics that begin with `topic` are shown up to a height. -/
structure Rule where
  topic : String
  height : Nat
deriving DecidableEq, Repr

/-- The height that a word or digit stands for. -/
def heightNamed? (s : String) : Option Nat :=
  match (s.toList.map Char.toLower : List Char) with
  | [] => some 1
  | ['0'] => some 0
  | ['1'] => some 1
  | ['2'] => some 2
  | ['3'] => some 3
  | ['4'] => some 4
  | ['5'] => some 5
  | l => [("off", 0), ("error", 1), ("warn", 2), ("info", 3), ("debug", 4), ("trace", 5)].lookup
      (String.ofList l)

/-- A character that a topic can begin with. -/
def beginsTopic (c : Char) : Bool :=
  c.isAlphanum || c == '-' || c == ':' || c == '_' || 0x80 ≤ c.toNat

/-- The part of a rule behind its topic. -/
def heightPart? : List Char → Option Nat
  | [] => some 5
  | ['='] => some 5
  | '=' :: r => heightNamed? (String.ofList r)
  | _ => none

/-- A rule, or nothing in place of a rule that no line of ours can meet. -/
def rule? (cs : List Char) : Option (Option Rule) :=
  let cs := Text.trim cs
  let stops (c : Char) : Bool := c == '=' || c == '['
  let name := String.ofList (cs.takeWhile fun c => !stops c)
  match cs, cs.dropWhile fun c => !stops c with
  | [], _ => none
  | _, '[' :: r =>
    match r.dropWhile (· != ']') with
    | _ :: r => (heightPart? r).map fun _ => none
    | [] => none
  | c :: _, rest =>
    if !beginsTopic c then none
    else if rest = [] then
      match heightNamed? name with
      | some h => some (some ⟨"", h⟩)
      | none => some (some ⟨name, 5⟩)
    else (heightPart? rest).map fun h => some ⟨name, h⟩

/-- A text cut at commas, without empty parts. -/
def cutAtCommas (cs : List Char) : List (List Char) :=
  let step (c : Char) (acc : List (List Char)) : List (List Char) :=
    match acc with
    | [] => if c = ',' then [[], []] else [[c]]
    | p :: ps => if c = ',' then [] :: p :: ps else (c :: p) :: ps
  (cs.foldr step []).filter (· ≠ [])

/-- The rules that a setting stands for: without a setting, and for one that is none, warnings are
shown; for an empty one only errors. -/
def rulesOf (setting : Option String) : List Rule :=
  match setting with
  | none => [⟨"", 2⟩]
  | some s =>
    match cutAtCommas s.toList with
    | [] => [⟨"", 1⟩]
    | parts =>
      match parts.mapM rule? with
      | some rules => rules.filterMap id
      | none => [⟨"", 2⟩]

/-- Whether a line is shown: of the rules for its topic the one with the longest topic decides. -/
def shows (rules : List Rule) (l : Line) : Bool :=
  let fitting := rules.filter fun r => l.topic.startsWith r.topic
  let best := fitting.foldl (fun (best : Option Rule) r =>
    match best with
    | some b => if b.topic.length ≤ r.topic.length then some r else some b
    | none => some r) none
  match best with
  | some r => l.level.height ≤ r.height
  | none => false

end CycleLog.Journal
