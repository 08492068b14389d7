import CycleLog.Text.Age
import CycleLog.Text.Break

/-!
# Character classes

A `Class` is a set of characters, built from ranges and properties by the set operations. `has` says
which characters are in it. `folded` closes a class under changes of case.
-/

namespace CycleLog.Pattern
set_option autoImplicit false

open Text

inductive Property where
  | any
  | ascii
  | assigned
  | digit
  | blank
  | word
  | flag (f : Flag)
  /-- One of these general categories. -/
  | categories (names : List String)
  /-- The script with that code. -/
  | script (code : String)
  /-- In use in the script with that code. -/
  | usedIn (code : String)
  /-- In the character set from that version on. -/
  | since (version : Nat)
  /-- Of that kind in the division into clusters, words or sentences. -/
  | cluster (kind : String)
  | inWord (kind : String)
  | inSentence (kind : String)
deriving DecidableEq, Repr

def Property.has : Property → Char → Bool
  | .any, _ => true
  | .ascii, c => c.toNat < 0x80
  | .assigned, c => category c != "Cn"
  | .digit, c => isDecimalDigit c
  | .blank, c => isBlank c
  | .word, c => isWordChar c
  | .flag f, c => f.has c
  | .categories names, c => isOf names c
  | .script code, c => Text.script c == code
  | .usedIn code, c => Text.usedIn code c
  | .since version, c => age c ≤ version
  | .cluster kind, c => clusterKind c == kind
  | .inWord kind, c => wordKind c == kind
  | .inSentence kind, c => sentenceKind c == kind

inductive Class where
  | nothing
  /-- The characters from `lo` to `hi`. -/
  | range (lo hi : Char)
  | property (p : Property)
  | union (a b : Class)
  | both (a b : Class)
  | except (a b : Class)
  | other (a : Class)
  /-- With a character all that differ from it in case alone; of the ASCII letters only, if so
  said. -/
  | folded (ascii : Bool) (a : Class)
deriving DecidableEq, Repr, Inhabited

namespace Class

/-- The other form of an ASCII letter. -/
def asciiMate (c : Char) : Char := if c.isUpper then c.toLower else c.toUpper

def has : Class → Char → Bool
  | nothing, _ => false
  | range lo hi, c => lo ≤ c && c ≤ hi
  | property p, c => p.has c
  | union a b, c => a.has c || b.has c
  | both a b, c => a.has c && b.has c
  | except a b, c => a.has c && !b.has c
  | other a, c => !a.has c
  | folded true a, c => a.has c || a.has (asciiMate c)
  | folded false a, c => (foldMates c).any a.has

def one (c : Char) : Class := range c c

def ofRanges (rs : List (Char × Char)) : Class :=
  rs.foldr (fun r acc => union (range r.1 r.2) acc) nothing

/-- The characters in exactly one of the two. -/
def either (a b : Class) : Class := union (except a b) (except b a)

def asciiDigit : Class := range '0' '9'

def asciiBlank : Class := ofRanges [('\t', '\r'), (' ', ' ')]

def asciiWord : Class := ofRanges [('a', 'z'), ('A', 'Z'), ('0', '9'), ('_', '_')]

end Class
end CycleLog.Pattern
