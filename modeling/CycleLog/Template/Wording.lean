import CycleLog.Text.Blank
import CycleLog.Text.Case
import CycleLog.Text.Lines

/-!
# Texts in other words

What filters do with a text: escape it, replace parts of it, change its case, trim, cut or indent
it.
-/

namespace CycleLog.Template
set_option autoImplicit false

open Text

def escapedChar : Char → List Char
  | '<' => "&lt;".toList
  | '>' => "&gt;".toList
  | '&' => "&amp;".toList
  | '"' => "&quot;".toList
  | '\'' => "&#x27;".toList
  | '/' => "&#x2f;".toList
  | c => [c]

/-- A text in which no character has a meaning of its own on a page. -/
def escapedText (s : String) : String := String.ofList (s.toList.flatMap escapedChar)

/-- The characters `start` up to a replacement. -/
def replaced (old new : List Char) : Nat → List Char → List Char
  | 0, cs => cs
  | fuel + 1, cs =>
    match cs with
    | [] => if old.isEmpty then new else []
    | c :: r =>
      if old.isEmpty then new ++ c :: replaced old new fuel r
      else if old.isPrefixOf (c :: r) then new ++ replaced old new fuel ((c :: r).drop old.length)
      else c :: replaced old new fuel r

/-- An ASCII character that is neither letter, digit, blank nor control character. -/
def isPunctuation (c : Char) : Bool := 0x21 ≤ c.toNat && c.toNat < 0x7F && !c.isAlphanum

/-- Every word with a capital at its beginning and no other. -/
def titled (start : Bool) : List Char → List Char
  | [] => []
  | c :: r =>
    if isPunctuation c || isBlank c then c :: titled true r
    else (if start then upperForm c else lowerForm c) ++ titled false r

def capitalized : List Char → List Char
  | [] => []
  | c :: r => upperForm c ++ lowered [] r

def trimmedOf (chars : Option (List Char)) (cs : List Char) : List Char :=
  let drop (c : Char) : Bool := match chars with
    | none => isBlank c
    | some set => set.contains c
  ((cs.dropWhile drop).reverse.dropWhile drop).reverse

/-- The parts of a text between the places where `sep` stands. -/
def partsBy (sep : List Char) : Nat → List Char → List Char → List (List Char)
  | 0, acc, cs => [acc.reverse ++ cs]
  | fuel + 1, acc, cs =>
    match cs with
    | [] => [acc.reverse]
    | c :: r =>
      if sep.isPrefixOf (c :: r) then
        acc.reverse :: partsBy sep fuel [] ((c :: r).drop sep.length)
      else partsBy sep fuel (c :: acc) r

/-- The words of a text. -/
def wordsOf (word : List Char) : List Char → List (List Char)
  | [] => if word.isEmpty then [] else [word.reverse]
  | c :: r =>
    if isBlank c then (if word.isEmpty then wordsOf [] r else word.reverse :: wordsOf [] r)
    else wordsOf (c :: word) r

def indented (width : Nat) (first blank : Bool) (s : String) : String :=
  let pad := String.ofList (List.replicate width ' ')
  let ls := (lines s.toList).map String.ofList
  let put (l : String) : String := if l.isEmpty && !blank then l else pad ++ l
  match ls with
  | [] => ""
  | l :: r => String.intercalate "\n" ((if first then put l else l) :: r.map put)

end CycleLog.Template
