/-!
# Code in a text

A stretch of a text between two backticks that is not empty is code. `spans` cuts a text into code
and the plain stretches around it.
-/

namespace CycleLog.Section
set_option autoImplicit false

inductive Span where
  | plain (cs : List Char)
  | code (cs : List Char)
deriving DecidableEq, Repr

def tick : Char := '\x60'

/-- The text that a span was cut from. -/
def Span.source : Span → List Char
  | .plain cs => cs
  | .code cs => tick :: cs ++ [tick]

/-- Code at the front of a text, and what follows it. -/
def codeAt? (cs : List Char) : Option (List Char × List Char) :=
  match cs with
  | c :: r =>
    if c = tick then
      match r.takeWhile (· != tick), r.dropWhile (· != tick) with
      | d :: inner, _ :: rest => some (d :: inner, rest)
      | _, _ => none
    else none
  | [] => none

/-- A plain span, unless it is empty. -/
def plainSpan (back : List Char) : List Span := if back = [] then [] else [.plain back.reverse]

/-- Cuts a text; `back` is the plain text in front of it, from its last character on. -/
def spansFrom (back : List Char) : Nat → List Char → List Span
  | 0, cs => plainSpan (cs.reverse ++ back)
  | fuel + 1, cs =>
    match cs with
    | [] => plainSpan back
    | c :: r =>
      match codeAt? (c :: r) with
      | some (code, rest) => plainSpan back ++ .code code :: spansFrom [] fuel rest
      | none => spansFrom (c :: back) fuel r

def spans (cs : List Char) : List Span := spansFrom [] cs.length cs

/-! ## Nothing is lost -/

theorem eq_of_codeAt? {cs code rest : List Char} (h : codeAt? cs = some (code, rest)) :
    cs = (Span.code code).source ++ rest := by
  unfold codeAt? at h
  split at h
  · next c r =>
    split at h
    · next hc =>
      split at h
      · next d inner x tail hi ht =>
        simp only [Option.some.injEq, Prod.mk.injEq] at h
        obtain ⟨h₁, h₂⟩ := h
        subst h₁ h₂
        have hx : x = tick := by
          have h := List.head?_dropWhile_not (· != tick) r
          rw [ht] at h
          simpa using h
        have hr := List.takeWhile_append_dropWhile (p := (· != tick)) (l := r)
        rw [hi, ht, hx] at hr
        simp [Span.source, hc, ← hr]
      · simp at h
    · simp at h
  · simp at h

theorem flatMap_source_plainSpan (back : List Char) :
    (plainSpan back).flatMap Span.source = back.reverse := by
  unfold plainSpan
  split
  · next h => simp [h]
  · simp [Span.source]

theorem flatMap_source_spansFrom (back : List Char) (fuel : Nat) (cs : List Char) :
    (spansFrom back fuel cs).flatMap Span.source = back.reverse ++ cs := by
  induction fuel generalizing back cs with
  | zero => simp [spansFrom, flatMap_source_plainSpan]
  | succ fuel ih =>
    cases cs with
    | nil => simp [spansFrom, flatMap_source_plainSpan]
    | cons c r =>
      simp only [spansFrom]
      split
      · next code rest h =>
        rw [eq_of_codeAt? h]
        simp [flatMap_source_plainSpan, ih]
      · simp [ih]

/-- The spans put together again are the text. -/
theorem flatMap_source_spans (cs : List Char) : (spans cs).flatMap Span.source = cs := by
  simp [spans, flatMap_source_spansFrom]

end CycleLog.Section
