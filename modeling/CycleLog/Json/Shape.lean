import CycleLog.Json.Number
import CycleLog.Decimal.Layout
import CycleLog.Text.Quoted

/-!
# Data of an expected shape

A record is given as an object, or as a list of its fields in order. `readRecord` fills a record
field by field: what an object holds besides is passed over, a field that is missing keeps its
value, and a required one that is missing is a mismatch. `Mismatch.message` is the text that says
what was found and what was expected.
-/

namespace CycleLog.Json
set_option autoImplicit false

open Decimal Text

/-! ## What can be wrong -/

inductive Mismatch where
  /-- A value of the wrong kind. -/
  | kind (found expected : String)
  /-- A number out of range. -/
  | range (found expected : String)
  | length (n : Nat) (expected : String)
  | missing (field : String)
  | repeated (field : String)
  /-- None of several kinds fits. -/
  | noVariant (type : String)
deriving DecidableEq, Repr

/-- A word in the quotes that messages use. -/
def ticked (s : String) : String := "\x60" ++ s ++ "\x60"

def Mismatch.message : Mismatch → String
  | .kind found expected => "invalid type: " ++ found ++ ", expected " ++ expected
  | .range found expected => "invalid value: " ++ found ++ ", expected " ++ expected
  | .length n expected => "invalid length " ++ toString n ++ ", expected " ++ expected
  | .missing field => "missing field " ++ ticked field
  | .repeated field => "duplicate field " ++ ticked field
  | .noVariant type => "data did not match any variant of untagged enum " ++ type

/-- How a message names a value. -/
def Value.described : Value → String
  | .null => "null"
  | .bool b => "boolean " ++ ticked (if b then "true" else "false")
  | .int n => "integer " ++ ticked (toString n)
  | .real x => "floating point " ++ ticked (Layout.json.text x)
  | .text s => "string " ++ quoted s
  | .list _ => "sequence"
  | .object _ => "map"

def Value.unlike {α : Type} (v : Value) (expected : String) : Except Mismatch α :=
  .error (.kind v.described expected)

/-! ## Single values -/

def toText : Value → Except Mismatch String
  | .text s => .ok s
  | v => v.unlike "a string"

def toBool : Value → Except Mismatch Bool
  | .bool b => .ok b
  | v => v.unlike "a boolean"

/-- An integer from `least` up to `most`. -/
def toInteger (expected : String) (least most : Int) : Value → Except Mismatch Int
  | .int n =>
    if least ≤ n ∧ n ≤ most then .ok n else .error (.range (Value.int n).described expected)
  | v => v.unlike expected

/-- A natural number of sixty-four bits. -/
def toNat (expected : String) (v : Value) : Except Mismatch Nat :=
  (toInteger expected 0 (wordBound - 1) v).map Int.toNat

/-- `null` stands for nothing. -/
def toOption {α : Type} (read : Value → Except Mismatch α) : Value → Except Mismatch (Option α)
  | .null => .ok none
  | v => (read v).map some

def toList {α : Type} (read : Value → Except Mismatch α) : Value → Except Mismatch (List α)
  | .list vs => vs.mapM read
  | v => v.unlike "a sequence"

/-! ## Records -/

/-- One field of a record: its name, whether it has to be there, and how a value is put into it. -/
structure RecordField (σ : Type) where
  name : String
  required : Bool
  put : Value → σ → Except Mismatch σ

/-- A field that keeps its value when it is missing. -/
def RecordField.optional {σ α : Type} (name : String) (read : Value → Except Mismatch α)
    (put : α → σ → σ) : RecordField σ :=
  ⟨name, false, fun v s => (read v).map (put · s)⟩

def RecordField.needed {σ α : Type} (name : String) (read : Value → Except Mismatch α)
    (put : α → σ → σ) : RecordField σ :=
  ⟨name, true, fun v s => (read v).map (put · s)⟩

/-- What is said about a list with more items than a record has fields. -/
inductive Surplus where
  | passedOver
  /-- Read as a list of values. -/
  | ofArray
  /-- Read as a part of other data. -/
  | ofSequence
deriving DecidableEq

def counted (n : Nat) (word : String) : String :=
  toString n ++ " " ++ word ++ (if n = 1 then "" else "s")

def Surplus.check (s : Surplus) (length fields : Nat) : Except Mismatch Unit :=
  if length ≤ fields then .ok ()
  else
    match s with
    | .passedOver => .ok ()
    | .ofArray => .error (.length length "fewer elements in array")
    | .ofSequence => .error (.length length (counted fields "element" ++ " in sequence"))

/-- Puts the members of an object into the fields of their names. -/
def readMembers {σ : Type} (fields : List (RecordField σ)) : List Member → σ → Except Mismatch σ
  | [], s => .ok s
  | (k, v) :: ms, s => do
    match fields.find? fun f => f.name == k with
    | some f =>
      let s ← f.put v s
      readMembers fields ms s
    | none => readMembers fields ms s

/-- Puts items into the fields in order. -/
def readItems {σ : Type} (expected : String) :
    Nat → List (RecordField σ) → List Value → σ → Except Mismatch σ
  | _, [], _, s => .ok s
  | i, f :: fs, [], s =>
    if f.required then .error (.length i expected) else readItems expected (i + 1) fs [] s
  | i, f :: fs, v :: vs, s => do
    let s ← f.put v s
    readItems expected (i + 1) fs vs s

/-- The first required field that an object lacks. -/
def missingField? {σ : Type} (fields : List (RecordField σ)) (ms : List Member) : Option String :=
  (fields.find? fun f => f.required && (ms.lookup f.name).isNone).map (·.name)

def readRecord {σ : Type} (name : String) (surplus : Surplus) (fields : List (RecordField σ))
    (start : σ) : Value → Except Mismatch σ
  | .object ms => do
    let s ← readMembers fields ms start
    match missingField? fields ms with
    | some f => .error (.missing f)
    | none => .ok s
  | .list vs => do
    let expected := "struct " ++ name ++ " with " ++ counted fields.length "element"
    let s ← readItems expected 0 fields vs start
    surplus.check vs.length fields.length
    .ok s
  | v => v.unlike ("struct " ++ name)

end CycleLog.Json
