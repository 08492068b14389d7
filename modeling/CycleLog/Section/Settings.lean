/-!
# How a section looks

The phrases `heading`, `red` and `file` are templates, the others stand as they are.
-/

namespace CycleLog.Section
set_option autoImplicit false

structure Phrases where
  heading : String
  red : String
  /-- Stands for `red` when no test has a name. -/
  redGeneric : String
  greenImplemented : String
  greenVerified : String
  refactor : String
  result : String
  reasoningTitle : String
  file : String
deriving DecidableEq, Repr

def Phrases.standard : Phrases where
  heading := "\x7b\x7b subject \x7d\x7d (\x7b\x7b timestamp \x7d\x7d)"
  red := "\x7b\x7b names \x7d\x7d 테스트 작성"
  redGeneric := "테스트 작성"
  greenImplemented := "테스트 통과를 위한 구현"
  greenVerified := "테스트 통과 확인"
  refactor := "코드 품질 개선"
  result := "BUILD SUCCESSFUL"
  reasoningTitle := "AI Reasoning"
  file := "파일: \x7b\x7b file \x7d\x7d"

structure Settings where
  maxBlocks : Nat
  /-- The most characters of one run. -/
  maxText : Nat
  /-- How far the clock of the heading is ahead of universal time, in hours. -/
  offset : Int
  phrases : Phrases
deriving DecidableEq, Repr

def Settings.standard : Settings := ⟨100, 1900, 9, .standard⟩

end CycleLog.Section
