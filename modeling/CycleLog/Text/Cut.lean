/-!
# Cutting a text to a length

A text longer than `max` characters is cut after `max` of them and `...` is put behind the cut.
-/

namespace CycleLog.Text
set_option autoImplicit false

def ellipsis : List Char := ['.', '.', '.']

/-- The text itself when it has at most `max` characters, else its first `max` and an ellipsis. -/
def cutList (cs : List Char) (max : Nat) : List Char :=
  if cs.length ≤ max then cs else cs.take max ++ ellipsis

def cut (s : String) (max : Nat) : String := String.ofList (cutList s.toList max)

theorem cutList_of_le {cs : List Char} {max : Nat} (h : cs.length ≤ max) : cutList cs max = cs := by
  simp [cutList, h]

theorem length_cutList_le (cs : List Char) (max : Nat) : (cutList cs max).length ≤ max + 3 := by
  unfold cutList
  split
  · omega
  · simp only [List.length_append, List.length_take, ellipsis, List.length_cons, List.length_nil]
    omega

end CycleLog.Text
