/-!
# White space

A character is blank when it has the `White_Space` property. `trim` removes blank characters from
both ends of a text and `blankText` says that nothing else is in it.
-/

namespace CycleLog.Text
set_option autoImplicit false

/-- The twenty-five characters with the `White_Space` property. -/
def isBlank (c : Char) : Bool :=
  let n := c.toNat
  (9 ≤ n && n ≤ 13) || n == 32 || n == 0x85 || n == 0xA0 || n == 0x1680 ||
    (0x2000 ≤ n && n ≤ 0x200A) || n == 0x2028 || n == 0x2029 || n == 0x202F || n == 0x205F ||
    n == 0x3000

/-! ## Trimming -/

def trimStart (cs : List Char) : List Char := cs.dropWhile isBlank

def trimEnd (cs : List Char) : List Char := (cs.reverse.dropWhile isBlank).reverse

def trim (cs : List Char) : List Char := trimEnd (trimStart cs)

/-- A text of blank characters only. -/
def blankText (cs : List Char) : Bool := cs.all isBlank

def trimmed (s : String) : String := String.ofList (trim s.toList)

/-! ## Where a trimmed text begins -/

theorem trimStart_of_not_blank {c : Char} {r : List Char} (h : isBlank c = false) :
    trimStart (c :: r) = c :: r := by
  simp [trimStart, h]

theorem trimStart_eq_nil_iff {cs : List Char} : trimStart cs = [] ↔ blankText cs = true := by
  induction cs with
  | nil => simp [trimStart, blankText]
  | cons c r ih =>
    cases hc : isBlank c with
    | false => simp [trimStart, blankText, hc]
    | true =>
      have h : trimStart (c :: r) = trimStart r := by simp [trimStart, hc]
      rw [h, ih]
      simp [blankText, hc]

theorem trimStart_trimStart (cs : List Char) : trimStart (trimStart cs) = trimStart cs := by
  induction cs with
  | nil => rfl
  | cons c r ih =>
    cases hc : isBlank c with
    | false => rw [trimStart_of_not_blank hc, trimStart_of_not_blank hc]
    | true =>
      have h : trimStart (c :: r) = trimStart r := by simp [trimStart, hc]
      rw [h, ih]

theorem trimEnd_eq_nil_iff {cs : List Char} : trimEnd cs = [] ↔ blankText cs = true := by
  have hreverse : trimStart cs.reverse = [] ↔ blankText cs.reverse = true := trimStart_eq_nil_iff
  rw [trimEnd, List.reverse_eq_nil_iff, ← trimStart, hreverse]
  simp [blankText]

/-- Trimming leaves nothing of a text of blank characters, and of no other. -/
theorem trim_eq_nil_iff {cs : List Char} : trim cs = [] ↔ blankText cs = true := by
  rw [trim, trimEnd_eq_nil_iff, ← trimStart_eq_nil_iff, trimStart_trimStart, trimStart_eq_nil_iff]

theorem trimmed_eq_empty_iff {s : String} : trimmed s = "" ↔ blankText s.toList = true := by
  rw [trimmed, String.ofList_eq_empty_iff, trim_eq_nil_iff]

end CycleLog.Text
