/-!
# Lines of a text

A line ends with a line feed, or with a carriage return and a line feed; the end belongs to no
line. The last line may lack its end. `pieces` cuts a text after every line feed and loses nothing;
`lines` is `pieces` without the ends.
-/

namespace CycleLog.Text
set_option autoImplicit false

/-- The text cut after every line feed. -/
def pieces : List Char → List (List Char)
  | [] => []
  | c :: r =>
    if c = '\n' then ['\n'] :: pieces r
    else match pieces r with
      | [] => [[c]]
      | p :: ps => (c :: p) :: ps

/-- A piece without its line feed, and without the carriage return in front of that line feed. -/
def withoutEnd : List Char → List Char
  | [] => []
  | ['\n'] => []
  | ['\r', '\n'] => []
  | c :: r => c :: withoutEnd r

def lines (cs : List Char) : List (List Char) := (pieces cs).map withoutEnd

/-! ## Nothing is lost -/

@[simp] theorem flatten_pieces (cs : List Char) : (pieces cs).flatten = cs := by
  induction cs with
  | nil => rfl
  | cons c r ih =>
    unfold pieces
    split
    · next h => simp [h, ih]
    · cases hp : pieces r with
      | nil => simp [hp] at ih; simp [← ih]
      | cons p ps => simp [hp] at ih; simp [ih]

/-- A text that ends with a line feed, put in front of another, keeps its pieces apart. -/
theorem pieces_append_newline (a b : List Char) :
    pieces (a ++ '\n' :: b) = pieces (a ++ ['\n']) ++ pieces b := by
  induction a with
  | nil => simp [pieces]
  | cons c r ih =>
    simp only [List.cons_append, pieces]
    split
    · simp [ih]
    · rw [ih]
      cases hp : pieces (r ++ ['\n']) with
      | nil =>
        have h := flatten_pieces (r ++ ['\n'])
        rw [hp] at h
        simp at h
      | cons p ps => simp

end CycleLog.Text
