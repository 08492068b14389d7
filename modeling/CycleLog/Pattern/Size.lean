import CycleLog.Pattern.Reader

/-!
# The size of a pattern

A repetition is written out as often as it may occur, so a short text can stand for a huge pattern. What a pattern
compiles to depends on how its characters are encoded and shared, so a `SizeLimit` is left open; `SizeLimit.estimated`
is the one that runs use. It counts, in bytes, thirty-two for each state of an automaton and eight for each way out
of it.
-/

namespace CycleLog.Pattern
set_option autoImplicit false

/-! ## Classes -/

/-- Room for a state with so many ways out. -/
def stateWeight (ways : Nat) : Nat := 32 + 8 * ways

/-- Room for the bytes of one character. -/
def charWeight (c : Char) : Nat := stateWeight 0 * c.utf8Size

/-- A property is given by a long list of ranges, unless it is about few characters. -/
def Property.weight : Property → Nat
  | .ascii => 100
  | .any => 1000
  | .blank => 700
  | .digit => 5000
  | .script _ | .usedIn _ => 3000
  | .flag _ | .cluster _ | .inWord _ | .inSentence _ => 20000
  | .assigned | .word | .since _ => 50000
  | .categories names => 12000 * names.length

def Class.weight : Class → Nat
  | .nothing => stateWeight 0
  | .range lo hi => if lo = hi then charWeight lo else stateWeight 1 * hi.utf8Size
  | .property p => p.weight
  | .union a b | .both a b | .except a b => a.weight + b.weight
  | .other a => 1000 + a.weight
  | .folded _ a => 2 * a.weight

/-! ## Patterns -/

/-- Whether the pattern describes nothing but stretches without a character. -/
def widthless : Pattern → Bool
  | .empty | .edge _ => true
  | .one _ => false
  | .seq p q | .either p q => p.widthless && q.widthless
  | .repeated p _ most => most == some 0 || p.widthless

/-- The bounds of a repetition as it is written out: a second round of what has no width adds nothing. -/
def writtenOut (p : Pattern) (least : Nat) (most : Option Nat) : Nat × Option Nat :=
  if p.widthless then (min least 1, some (min (most.getD 1) 1)) else (least, most)

def weight : Pattern → Nat
  | .empty | .edge _ => stateWeight 0
  | .one set => set.weight
  | .seq p q => p.weight + q.weight
  | .either p q => stateWeight 1 + p.weight + q.weight
  | .repeated p least most =>
    match writtenOut p least most with
    | (least, none) => p.weight * max least 1 + stateWeight 2
    | (least, some most) => p.weight * least + (p.weight + stateWeight 2) * (most - least) + stateWeight 0

/-- The most room that a pattern may take: ten times two to the twentieth. -/
def weightLimit : Nat := 10485760

/-- Compares the estimated room with the bound; a text that is no pattern takes none. -/
def SizeLimit.estimated : SizeLimit := fun cs =>
  match group? (cs.length + 1) ⟨.standard, [], cs⟩ .start with
  | some (g, _) => g.done.weight ≤ weightLimit
  | none => true

end CycleLog.Pattern
