import CycleLog.Text.Category

/-!
# Letters, word characters and extenders

A word character is a letter, a mark, a decimal digit, a connector such as `_`, or one of the two
joiners. An extender is a mark that is drawn together with the character in front of it. Behind the
general categories stand lists of the characters that count too.
-/

namespace CycleLog.Text
set_option autoImplicit false

/-- A character with one of these general categories. -/
def isOf (categories : List String) (c : Char) : Bool := categories.contains (category c)

/-! ## Letters and word characters -/

/-- Run lengths of the letter-like characters without a letter's category. -/
def otherAlphabeticRuns : List String :=
  ["837 1 29 13 576 14 1 1 1 2 1 2 1 1 72 11 48 13 1 7 16 1 101 7 4 4 2 2 4 1 35 1 30 16 102 11 ",
   "101 2 3 9 1 3 1 4 106 1 60 12 3 7 6 20 54 2 2 15 1 2 5 3 10 2 29 3 58 7 2 2 2 2 10 1 10 2 ",
   "29 3 58 5 4 2 2 2 4 1 30 2 3 1 11 3 58 8 1 3 1 2 21 2 22 3 4 3 58 7 2 2 2 2 9 2 10 2 30 1 ",
   "59 5 3 3 1 3 10 1 40 5 57 7 1 3 1 3 8 2 11 2 29 3 58 7 1 3 1 3 8 2 11 2 15 1 12 4 58 7 1 3 ",
   "1 3 10 1 10 2 29 3 75 6 1 1 1 8 18 2 61 1 2 7 18 1 99 1 2 6 1 2 16 1 163 19 9 11 1 36 110 ",
   "12 1 1 2 4 23 4 4 3 1 3 2 7 3 4 13 12 1 1 10 4 1652 2 30 2 30 2 30 2 66 19 188 2 34 1 118 ",
   "12 4 9 222 5 57 10 2 20 74 2 11 3 49 5 48 15 60 3 30 9 2 2 57 11 50 19 412 34 1729 52 2294 ",
   "32 30836 8 34 2 354 1 8 1 23 5 88 2 50 16 1 1 57 1 38 5 28 12 45 4 48 12 37 1 67 14 12 1 8 ",
   "2 45 3 50 1 1 3 2 2 5 1 44 5 5 1 237 8 20275 1 2135 5 1670 3 1 2 5 4 788 4 65 1 321 2 79 1 ",
   "259 3 53 14 45 2 11 3 45 9 9 1 61 3 36 12 18 2 57 3 48 13 14 2 92 9 2 1 6 1 2 1 157 10 23 4 ",
   "58 7 2 2 2 2 10 1 10 2 84 9 1 1 2 1 1 4 1 2 103 13 1 3 106 18 237 7 2 7 29 2 82 15 1 1 106 ",
   "11 103 14 257 13 247 6 1 2 2 2 3 1 1 1 142 7 2 6 4 1 28 10 42 5 1 4 18 11 46 14 407 8 1 7 ",
   "83 22 1 14 122 6 3 1 1 2 1 3 1 1 3 1 66 5 1 2 1 4 348 4 9 2 1 1 48 7 3 3 16861 17 3616 1 1 ",
   "55 7 4 93 2 19628 1 9057 7 1 17 2 7 1 2 1 5 100 1 2231 1 2024 26 6 26 6 26"]

def otherAlphabeticTable : Boundaries := Boundaries.ofRuns (String.join otherAlphabeticRuns)

/-- A character with the `Alphabetic` property. -/
def isAlphabetic (c : Char) : Bool :=
  if c.toNat < 0x80 then c.isAlpha
  else isOf ["Lu", "Ll", "Lt", "Lm", "Lo", "Nl"] c || otherAlphabeticTable.has c

/-- A letter, digit or underscore of the ASCII range. -/
def isAsciiWord (c : Char) : Bool := c.isAlphanum || c == '_'

/-- One of the two joiners, which are not visible. -/
def isJoiner (c : Char) : Bool := within [(0x200C, 0x200D)] c.toNat

def isWordChar (c : Char) : Bool :=
  if c.toNat < 0x80 then isAsciiWord c
  else isAlphabetic c || isOf ["Mn", "Mc", "Me", "Nd", "Pc"] c || isJoiner c

/-! ## Extenders -/

def otherExtenderRuns : List String :=
  ["2494 1 24 1 358 1 24 1 102 1 24 1 232 1 1 1 4 2 1 2 9 2 103 1 24 1 119 1 15 1 2357 1 30 1 ",
   "1024 1 5 1 1 1 5 2 101 1 71 2 1048 1 4129 2 31011 1 108 1 21981 2 4640 1 116 1 264 1 14 1 9 ",
   "1 96 1 9 1 2 1 1 3 5 1 224 1 12 1 241 1 262 1 633 1 12 1 1539 1 20654 2 24947 2 6 6 798381 ",
   "96"]

def otherExtenderTable : Boundaries := Boundaries.ofRuns (String.join otherExtenderRuns)

/-- A character with the `Grapheme_Extend` property. -/
def isExtender (c : Char) : Bool :=
  if c.toNat < 0x80 then false else isOf ["Mn", "Me"] c || otherExtenderTable.has c

/-! ## Letters with case -/

def otherLowercase : List (Nat × Nat) :=
  [(0xAA, 0xAA), (0xBA, 0xBA), (0x2B0, 0x2B8), (0x2C0, 0x2C1), (0x2E0, 0x2E4), (0x345, 0x345),
   (0x37A, 0x37A), (0x10FC, 0x10FC), (0x1D2C, 0x1D6A), (0x1D78, 0x1D78), (0x1D9B, 0x1DBF),
   (0x2071, 0x2071), (0x207F, 0x207F), (0x2090, 0x209C), (0x2170, 0x217F), (0x24D0, 0x24E9),
   (0x2C7C, 0x2C7D), (0xA69C, 0xA69D), (0xA770, 0xA770), (0xA7F2, 0xA7F4), (0xA7F8, 0xA7F9),
   (0xAB5C, 0xAB5F), (0xAB69, 0xAB69), (0x10780, 0x10780), (0x10783, 0x10785), (0x10787, 0x107B0),
   (0x107B2, 0x107BA), (0x1E030, 0x1E06D)]

def otherUppercase : List (Nat × Nat) :=
  [(0x2160, 0x216F), (0x24B6, 0x24CF), (0x1F130, 0x1F149), (0x1F150, 0x1F169), (0x1F170, 0x1F189)]

def isLowercase (c : Char) : Bool := isOf ["Ll"] c || within otherLowercase c.toNat

def isUppercase (c : Char) : Bool := isOf ["Lu"] c || within otherUppercase c.toNat

/-- A character with the `Cased` property. -/
def isCased (c : Char) : Bool := isLowercase c || isUppercase c || isOf ["Lt"] c

/-- Signs that may stand between the letters of a word, and between digits as well. -/
def insideNumbers : List (Nat × Nat) :=
  [(0x2E, 0x2E), (0x2018, 0x2019), (0x2024, 0x2024), (0xFE52, 0xFE52), (0xFF07, 0xFF07),
   (0xFF0E, 0xFF0E)]

/-- Signs that may stand between the letters of a word only. -/
def insideWords : List (Nat × Nat) :=
  [(0x3A, 0x3A), (0xB7, 0xB7), (0x387, 0x387), (0x55F, 0x55F), (0x5F4, 0x5F4), (0x2027, 0x2027),
   (0xFE13, 0xFE13), (0xFE55, 0xFE55), (0xFF1A, 0xFF1A)]

/-- A character with the `Case_Ignorable` property. -/
def isCaseIgnorable (c : Char) : Bool :=
  isOf ["Mn", "Me", "Cf", "Lm", "Sk"] c || within insideNumbers c.toNat ||
    within insideWords c.toNat || c.toNat == 0x27

end CycleLog.Text
