import CycleLog.Phase.FileKind
import CycleLog.Phase.TestName
import CycleLog.Phase.Reasoning

/-!
# Red, green and refactor

Every entry that writes test files contributes to red. Every entry that writes source files
contributes to green or to refactor, as a strategy decides: it is told which source files green
already holds, and which files the entry touches. `Sorted.implemented` lists the source files of
green in the order of their first appearance.
-/

namespace CycleLog.Phase
set_option autoImplicit false

open Transcript Tool

/-! ## Contributions -/

/-- What one entry contributes to a phase. -/
structure Work where
  reasoning : String
  files : List String
  testNames : List String
deriving DecidableEq, Repr

structure Sorted where
  red : List Work
  green : List Work
  refactor : List Work
  implemented : List String
deriving DecidableEq, Repr

def Sorted.empty : Sorted := ⟨[], [], [], []⟩

/-- The test names of all red contributions in order. -/
def Sorted.redTestNames (s : Sorted) : List String := s.red.flatMap (·.testNames)

/-! ## Strategies -/

inductive SourcePhase where
  | green
  | refactor
deriving DecidableEq, Repr

/-- Decides from the files seen and the files touched. -/
abbrev Strategy := List String → List String → SourcePhase

/-- A contribution is a refactor when all its files have been seen. -/
def firstTouch : Strategy := fun seen touched =>
  if seen ≠ [] ∧ touched.all fun f => f ∈ seen then .refactor else .green

/-! ## Files of an entry -/

structure Settings where
  testPattern : String
  sourcePattern : String
  /-- How much of a thought stands in for what is said. -/
  thoughtLimit : Nat
deriving DecidableEq, Repr

def Settings.standard : Settings := ⟨".*Test\\.java$", ".*\\.java$", 800⟩

structure Classifier where
  patterns : FilePatterns
  thoughtLimit : Nat
  strategy : Strategy

def Classifier.make (s : Settings) (fits : Pattern.SizeLimit := .estimated) :
    Except Problem Classifier := do
  let p ← FilePatterns.make s.testPattern s.sourcePattern fits
  .ok ⟨p, s.thoughtLimit, firstTouch⟩

/-- The files of one kind that an entry writes. -/
def writesOf (p : FilePatterns) (k : FileKind) (e : Entry) : List FileWrite :=
  (e.calls.filterMap Call.fileWrite?).filter fun w => p.kind? w.name == some k

structure Touched where
  testFiles : List String
  sourceFiles : List String
  testNames : List String

def touched (p : FilePatterns) (e : Entry) : Touched where
  testFiles := distinct ((writesOf p .test e).map (·.name))
  sourceFiles := distinct ((writesOf p .source e).map (·.name))
  testNames := distinct ((writesOf p .test e).flatMap fun w => testNames w.text)

/-! ## Sorting -/

/-- How far a window has been sorted, and the source files that the strategy is told of. -/
structure Progress where
  sorted : Sorted
  seen : List String
deriving DecidableEq, Repr

namespace Progress

def start : Progress := ⟨.empty, []⟩

/-- Adds a contribution to red. -/
def addRed (p : Progress) (w : Work) : Progress :=
  { p with sorted := { p.sorted with red := p.sorted.red ++ [w] } }

/-- Notes a source file of green; one that has not been seen is implemented by it. -/
def see (p : Progress) (file : String) : Progress :=
  if file ∈ p.seen then p
  else ⟨{ p.sorted with implemented := p.sorted.implemented ++ [file] }, file :: p.seen⟩

def addGreen (p : Progress) (w : Work) : Progress :=
  let p := w.files.foldl see p
  { p with sorted := { p.sorted with green := p.sorted.green ++ [w] } }

def addRefactor (p : Progress) (w : Work) : Progress :=
  { p with sorted := { p.sorted with refactor := p.sorted.refactor ++ [w] } }

/-- Adds a contribution of source files. -/
def addSource (p : Progress) (strategy : Strategy) (w : Work) : Progress :=
  match strategy p.seen w.files with
  | .refactor => p.addRefactor w
  | .green => p.addGreen w

end Progress

def Classifier.step (c : Classifier) (p : Progress) (e : Entry) : Progress :=
  match e.blocks? with
  | none => p
  | some blocks =>
    let t := touched c.patterns e
    let why := reasoning blocks c.thoughtLimit
    let p := if t.testFiles = [] then p else p.addRed ⟨why, t.testFiles, t.testNames⟩
    if t.sourceFiles = [] then p else p.addSource c.strategy ⟨why, t.sourceFiles, []⟩

/-- Goes through the entries of a window. -/
def Classifier.walk (c : Classifier) (entries : List Entry) : Progress :=
  entries.foldl c.step .start

/-- Sorts what the entries of a window contribute. -/
def Classifier.sort (c : Classifier) (entries : List Entry) : Sorted := (c.walk entries).sorted

end CycleLog.Phase
