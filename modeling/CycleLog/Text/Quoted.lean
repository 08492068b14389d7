import CycleLog.Text.WordChar

/-!
# Quoted text

A text in double quotes, as error messages and log lines show it. A quote and a backslash are
written behind a backslash, and so are tab, carriage return, line feed and NUL under their letters.
A character without a form of its own, and one that would attach itself to what stands before it,
is written by its code point.
-/

namespace CycleLog.Text
set_option autoImplicit false

/-- Digits of `n` in base sixteen, without leading zeros. -/
def hexDigits (n : Nat) : List Char := Nat.toDigits 16 n

def escaped (c : Char) : List Char :=
  match c with
  | '\x00' => ['\\', '0']
  | '\t' => ['\\', 't']
  | '\r' => ['\\', 'r']
  | '\n' => ['\\', 'n']
  | '\\' => ['\\', '\\']
  | '"' => ['\\', '"']
  | _ =>
    if isPrintable c && !isExtender c then [c]
    else ['\\', 'u', '\x7b'] ++ hexDigits c.toNat ++ ['\x7d']

def quotedList (cs : List Char) : List Char := '"' :: cs.flatMap escaped ++ ['"']

def quoted (s : String) : String := String.ofList (quotedList s.toList)

/-- An optional text, quoted when it is there. -/
def quotedOption : Option String → String
  | none => "None"
  | some s => "Some(" ++ quoted s ++ ")"

end CycleLog.Text
