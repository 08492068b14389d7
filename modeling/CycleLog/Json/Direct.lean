import CycleLog.Json.Reader
import CycleLog.Json.Shape

/-!
# Records straight from text

`readDirect` fills a record while the text is being read, so the first thing that is wrong decides
what is reported. A field may be given once. The value of a key that is no field is only skipped:
its strings and numbers need not stand for anything, and it may be nested to any depth.
-/

namespace CycleLog.Json
set_option autoImplicit false

/-- Why a text is no record. -/
inductive ReadError where
  /-- It is not JSON text. -/
  | malformed
  | mismatch (m : Mismatch)
deriving DecidableEq, Repr

/-- One field: its name, and how to read its value from the front of a text. -/
structure DirectField (σ : Type) where
  name : String
  read : List Char → Except ReadError ((σ → σ) × List Char)

def orMalformed {α : Type} : Option α → Except ReadError α
  | some a => .ok a
  | none => .error .malformed

/-! ## Fields -/

/-- A value that is neither array nor object; of those only the beginning is read. -/
def beginning (cs : List Char) : Except ReadError (Value × List Char) :=
  match cs with
  | '[' :: r => .ok (.list [], r)
  | '\x7b' :: r => .ok (.object [], r)
  | _ => orMalformed (scalar ⟨true⟩ cs)

/-- A field that is read from the beginning of its value. -/
def DirectField.ofScalar {σ α : Type} (name : String) (read : Value → Except Mismatch α)
    (put : α → σ → σ) : DirectField σ :=
  ⟨name, fun cs => do
    let (v, r) ← beginning cs
    match read v with
    | .ok a => .ok (put a, r)
    | .error m => .error (.mismatch m)⟩

/-- A field that holds any value; it lies one level deep. -/
def DirectField.ofValue {σ : Type} (name : String) (put : Value → σ → σ) : DirectField σ :=
  ⟨name, fun cs => do
    let (v, r) ← orMalformed (value ⟨true⟩ (depthLimit - 1) cs)
    .ok (put v, r)⟩

/-! ## Objects -/

/-- Drops a colon and the blanks around it. -/
def afterColon (cs : List Char) : Except ReadError (List Char) :=
  match skipBlank cs with
  | ':' :: r => .ok (skipBlank r)
  | _ => .error .malformed

/-- Members up to and with the closing brace; `seen` holds the names of the fields so far. -/
def directMembers {σ : Type} (fields : List (DirectField σ)) :
    Nat → List String → List Char → σ → Except ReadError (σ × List Char)
  | 0, _, _, _ => .error .malformed
  | fuel + 1, seen, cs, s =>
    match skipBlank cs with
    | '"' :: r => do
      let (key, r) ← orMalformed (stringBody ⟨true⟩ r)
      let (s, seen, r) ← match fields.find? fun f => f.name == key with
        | some f => do
          if seen.contains key then .error (.mismatch (.repeated key))
          let r ← afterColon r
          let (put, r) ← f.read r
          .ok (put s, key :: seen, r)
        | none => do
          let r ← afterColon r
          let (_, r) ← orMalformed (value ⟨false⟩ r.length r)
          .ok (s, seen, r)
      match skipBlank r with
      | ',' :: r => directMembers fields fuel seen r s
      | '\x7d' :: r => .ok (s, r)
      | _ => .error .malformed
    | _ => .error .malformed

/-! ## Lists of fields -/

/-- The fields in order, as long as there are items, up to and with the closing bracket. -/
def directItems {σ : Type} : List (DirectField σ) → List Char → σ → Except ReadError (σ × List Char)
  | [], cs, s =>
    match skipBlank cs with
    | ']' :: r => .ok (s, r)
    | _ => .error .malformed
  | f :: fs, cs, s => do
    let (put, r) ← f.read (skipBlank cs)
    match fs, skipBlank r with
    | _, ']' :: r => .ok (put s, r)
    | _ :: _, ',' :: r => directItems fs r (put s)
    | _, _ => .error .malformed

/-! ## Records -/

def directBody {σ : Type} (name : String) (fields : List (DirectField σ)) (start : σ)
    (cs : List Char) : Except ReadError (σ × List Char) :=
  match cs with
  | '\x7b' :: r =>
    match skipBlank r with
    | '\x7d' :: r => .ok (start, r)
    | r => directMembers fields (r.length + 1) [] r start
  | '[' :: r =>
    match skipBlank r with
    | ']' :: r => .ok (start, r)
    | r => directItems fields r start
  | cs => do
    let (v, _) ← beginning cs
    .error (.mismatch (.kind v.described ("struct " ++ name)))

/-- The record that the whole text is. -/
def readDirect {σ : Type} (name : String) (fields : List (DirectField σ)) (start : σ)
    (text : String) : Except ReadError σ := do
  let (s, r) ← directBody name fields start (skipBlank text.toList)
  if skipBlank r = [] then .ok s else .error .malformed

end CycleLog.Json
