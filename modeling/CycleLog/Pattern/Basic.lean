import CycleLog.Pattern.Class

/-!
# Patterns and what they match

A `Pattern` describes stretches of a text. `Matches text p i j` says that `p` describes the stretch
from place `i` to place `j`, where place `i` lies in front of the character with index `i`.
A pattern is found in a text when it describes some stretch of it, so no preference among the
matches is kept.
-/

namespace CycleLog.Pattern
set_option autoImplicit false

open Text

/-! ## Places without width -/

inductive Edge where
  | textStart
  | textEnd
  | lineStart
  | lineEnd
  /-- As `lineStart` and `lineEnd`, where a carriage return ends a line too. -/
  | returnStart
  | returnEnd
  /-- Between a word character and another one; in front of the word, behind it, or either. -/
  | wordEdge (ascii : Bool)
  | notWordEdge (ascii : Bool)
  | wordStart (ascii : Bool)
  | wordEnd (ascii : Bool)
  /-- No word character in front. -/
  | halfStart (ascii : Bool)
  /-- No word character behind. -/
  | halfEnd (ascii : Bool)
deriving DecidableEq, Repr

def before? (text : Array Char) (i : Nat) : Option Char := if i = 0 then none else text[i - 1]?

def isWord (ascii : Bool) : Option Char → Bool
  | none => false
  | some c => if ascii then isAsciiWord c else isWordChar c

def Edge.holds (text : Array Char) (i : Nat) : Edge → Bool
  | textStart => i == 0
  | textEnd => i == text.size
  | lineStart => i == 0 || before? text i == some '\n'
  | lineEnd => i == text.size || text[i]? == some '\n'
  | returnStart =>
    i == 0 || before? text i == some '\n' ||
      (before? text i == some '\r' && text[i]? != some '\n')
  | returnEnd =>
    i == text.size || text[i]? == some '\r' ||
      (text[i]? == some '\n' && before? text i != some '\r')
  | wordEdge a => isWord a (before? text i) != isWord a text[i]?
  | notWordEdge a => isWord a (before? text i) == isWord a text[i]?
  | wordStart a => !isWord a (before? text i) && isWord a text[i]?
  | wordEnd a => isWord a (before? text i) && !isWord a text[i]?
  | halfStart a => !isWord a (before? text i)
  | halfEnd a => !isWord a text[i]?

end CycleLog.Pattern

/-! ## Patterns -/

namespace CycleLog

/-- A description of stretches of a text. -/
inductive Pattern where
  | empty
  | one (set : Pattern.Class)
  | edge (e : Pattern.Edge)
  | seq (p q : Pattern)
  | either (p q : Pattern)
  /-- At least `least` times, and at most `most` times if that is given. -/
  | repeated (p : Pattern) (least : Nat) (most : Option Nat)
deriving Repr, Inhabited

namespace Pattern

/-- `Matches text p i j`: the pattern describes the stretch from `i` to `j`. -/
inductive Matches (text : Array Char) : Pattern → Nat → Nat → Prop where
  | empty (i : Nat) : Matches text .empty i i
  | one {set : Class} {i : Nat} {c : Char} (at_ : text[i]? = some c) (mem : set.has c = true) :
      Matches text (.one set) i (i + 1)
  | edge {e : Edge} {i : Nat} (holds : e.holds text i = true) : Matches text (.edge e) i i
  | seq {p q : Pattern} {i j k : Nat} (left : Matches text p i j) (right : Matches text q j k) :
      Matches text (.seq p q) i k
  | left {p q : Pattern} {i j : Nat} (left : Matches text p i j) : Matches text (.either p q) i j
  | right {p q : Pattern} {i j : Nat} (right : Matches text q i j) : Matches text (.either p q) i j
  | stop {p : Pattern} {most : Option Nat} {i : Nat} : Matches text (.repeated p 0 most) i i
  | again {p : Pattern} {least : Nat} {most : Option Nat} {i j k : Nat} (more : most ≠ some 0)
      (first : Matches text p i j)
      (rest : Matches text (.repeated p (least - 1) (most.map (· - 1))) j k) :
      Matches text (.repeated p least most) i k

def Found (p : Pattern) (text : Array Char) : Prop :=
  ∃ i j, i ≤ text.size ∧ Matches text p i j

def FoundAtStart (p : Pattern) (text : Array Char) : Prop := ∃ j, Matches text p 0 j

end Pattern
end CycleLog
