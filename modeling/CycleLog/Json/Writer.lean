import CycleLog.Json.Value
import CycleLog.Decimal.Layout

/-!
# Writing JSON text

`write` puts a value on one line without blanks, `pretty` puts every item on a line of its own,
indented by two more blanks than what it is part of. In a string a quote, a backslash and the
characters below the blank are escaped, and nothing else.
-/

namespace CycleLog.Json
set_option autoImplicit false

open Decimal

/-! ## Strings -/

/-- A digit in base sixteen. -/
def hexDigit (n : Nat) : Char := if n < 10 then Char.ofNat (48 + n) else Char.ofNat (87 + n)

def escapedChar (c : Char) : List Char :=
  match c with
  | '"' => ['\\', '"']
  | '\\' => ['\\', '\\']
  | '\x08' => ['\\', 'b']
  | '\x0c' => ['\\', 'f']
  | '\n' => ['\\', 'n']
  | '\r' => ['\\', 'r']
  | '\t' => ['\\', 't']
  | _ =>
    if c.toNat < 0x20 then ['\\', 'u', '0', '0', hexDigit (c.toNat / 16), hexDigit (c.toNat % 16)]
    else [c]

def writeText (s : String) : List Char := '"' :: s.toList.flatMap escapedChar ++ ['"']

/-! ## Values -/

/-- A value that is neither array nor object. -/
def writeScalar : Value → List Char
  | .null => "null".toList
  | .bool b => (if b then "true" else "false").toList
  | .int n => (toString n).toList
  | .real x => (Layout.json.text x).toList
  | .text s => writeText s
  | _ => []

mutual

def writeList : Value → List Char
  | .list vs => '[' :: writeItems vs ++ [']']
  | .object ms => '\x7b' :: writeMembers ms ++ ['\x7d']
  | v => writeScalar v

def writeItems : List Value → List Char
  | [] => []
  | v :: vs => writeList v ++ (if vs.isEmpty then [] else [',']) ++ writeItems vs

def writeMembers : List (String × Value) → List Char
  | [] => []
  | (k, v) :: ms =>
    writeText k ++ ':' :: writeList v ++ (if ms.isEmpty then [] else [',']) ++ writeMembers ms

end

def write (v : Value) : String := String.ofList (writeList v)

/-! ## On many lines -/

/-- A line end, and the blanks in front of the next line. -/
def newLine (depth : Nat) : List Char := '\n' :: List.replicate (2 * depth) ' '

mutual

def prettyList (depth : Nat) : Value → List Char
  | .list vs =>
    if vs.isEmpty then ['[', ']'] else '[' :: prettyItems (depth + 1) vs ++ newLine depth ++ [']']
  | .object ms =>
    if ms.isEmpty then ['\x7b', '\x7d']
    else '\x7b' :: prettyMembers (depth + 1) ms ++ newLine depth ++ ['\x7d']
  | v => writeScalar v

def prettyItems (depth : Nat) : List Value → List Char
  | [] => []
  | v :: vs =>
    newLine depth ++ prettyList depth v ++ (if vs.isEmpty then [] else [',']) ++
      prettyItems depth vs

def prettyMembers (depth : Nat) : List (String × Value) → List Char
  | [] => []
  | (k, v) :: ms =>
    newLine depth ++ writeText k ++ ':' :: ' ' :: prettyList depth v ++
      (if ms.isEmpty then [] else [',']) ++ prettyMembers depth ms

end

def pretty (v : Value) : String := String.ofList (prettyList 0 v)

end CycleLog.Json
