import CycleLog.Text.WordChar
import CycleLog.Text.Blank

/-!
# Scanning a text

Small readers that take something from the front of a text, and the search for the first place
where one of them succeeds.
-/

namespace CycleLog.Text
set_option autoImplicit false

/-- Drops a word, if it stands in front. -/
def word? (w cs : List Char) : Option (List Char) :=
  match w, cs with
  | [], cs => some cs
  | c :: w, d :: r => if c = d then word? w r else none
  | _ :: _, [] => none

/-- Drops blanks, of which there has to be one. -/
def blanks? (cs : List Char) : Option (List Char) :=
  match cs with
  | c :: r => if isBlank c then some (trimStart r) else none
  | [] => none

/-- Characters of one kind from the front, at least one, and what follows them. -/
def run? (is : Char → Bool) (cs : List Char) : Option (List Char × List Char) :=
  match cs.takeWhile is with
  | [] => none
  | w => some (w, cs.dropWhile is)

/-- Drops a character, if it stands in front. -/
def skipOne (c : Char) : List Char → List Char
  | d :: r => if c = d then r else d :: r
  | [] => []

/-- What a reader gives at the first place where it succeeds. -/
def firstAt? {α : Type} (read : List Char → Option α) : List Char → Option α
  | [] => read []
  | c :: r =>
    match read (c :: r) with
    | some a => some a
    | none => firstAt? read r

/-- Whether one text is a part of another. -/
def occursIn (part : List Char) (whole : List Char) : Bool :=
  (firstAt? (word? part) whole).isSome

theorem word?_eq_some_iff {w cs r : List Char} : word? w cs = some r ↔ cs = w ++ r := by
  induction w generalizing cs with
  | nil => simp [word?, eq_comm]
  | cons c w ih =>
    cases cs with
    | nil => simp [word?]
    | cons d cs =>
      by_cases h : c = d
      · simp [word?, h, ih]
      · simp [word?, h, Ne.symm h]

end CycleLog.Text
