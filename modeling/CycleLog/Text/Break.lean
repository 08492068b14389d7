import CycleLog.Text.Flag
import CycleLog.Text.Script

/-!
# Breaks between clusters, words and sentences

The kinds of characters by which a text is divided into what a reader sees as one character, into words and into
sentences, under the short names of the kinds. A kind is mostly a general category with a few characters more or
less; `XX` stands where a character has none.
-/

namespace CycleLog.Text
set_option autoImplicit false

open CycleLog.Text.Flag

/-- A character that belongs to the one in front of it, for words and sentences. -/
def isAttached (c : Char) : Bool := isExtender c || isOf ["Mc"] c

/-- A sign that encloses the digits behind it, apart from the Syriac one, which encloses letters. -/
def enclosesDigits (c : Char) : Bool := listed prependedConcatenationMark c && c.toNat != 0x70F

/-! ## Clusters -/

/-- Letters of Indic scripts that are drawn in front of the next one. -/
def prependedLetters : List (Nat × Nat) :=
  [(0xD4E, 0xD4E), (0x111C2, 0x111C3), (0x113D1, 0x113D1), (0x1193F, 0x1193F), (0x11941, 0x11941),
   (0x11A3A, 0x11A3A), (0x11A84, 0x11A89), (0x11D46, 0x11D46), (0x11F02, 0x11F02)]

/-- Spacing marks of scripts whose marks are not held together with the letter. -/
def looseMarks : List (Nat × Nat) :=
  [(0x102B, 0x102C), (0x1038, 0x1038), (0x1062, 0x1064), (0x1067, 0x106D), (0x1083, 0x1083),
   (0x1087, 0x108C), (0x108F, 0x108F), (0x109A, 0x109C), (0x1A61, 0x1A61), (0x1A63, 0x1A64),
   (0xAA7B, 0xAA7B), (0xAA7D, 0xAA7D), (0x11720, 0x11721)]

def hangulKind (n : Nat) : String :=
  if within [(0x1100, 0x115F), (0xA960, 0xA97C)] n then "L"
  else if within [(0x1160, 0x11A7), (0xD7B0, 0xD7C6), (0x16D63, 0x16D63), (0x16D67, 0x16D6A)] n then "V"
  else if within [(0x11A8, 0x11FF), (0xD7CB, 0xD7FB)] n then "T"
  else if within [(0xAC00, 0xD7A3)] n then if (n - 0xAC00) % 28 = 0 then "LV" else "LVT"
  else "XX"

def isControl (c : Char) : Bool :=
  isOf ["Zl", "Zp", "Cc", "Cf"] c || (isOf ["Cn"] c && ignoredByDefault c)

def clusterKind (c : Char) : String :=
  let n := c.toNat
  if n = 0xD then "CR"
  else if n = 0xA then "LF"
  else if n = 0x200D then "ZWJ"
  else if listed regionalIndicator c then "RI"
  else if listed prependedConcatenationMark c || within prependedLetters n then "PP"
  else if isExtender c || listed emojiModifier c then "EX"
  else if isControl c then "CN"
  else if (isOf ["Mc"] c || n = 0xE33 || n = 0xEB3) && !within looseMarks n then "SM"
  else hangulKind n

/-- The kinds for clusters, each under its two names. -/
def clusterKindNames : List (List String) :=
  [["CN", "Control"], ["CR"], ["EX", "Extend"], ["L"], ["LF"], ["LV"], ["LVT"], ["PP", "Prepend"],
   ["RI", "Regional_Indicator"], ["SM", "SpacingMark"], ["T"], ["V"], ["ZWJ"]]

/-! ## Words -/

/-- Letters of scripts written without blanks, where a word's end is no matter of single characters. -/
def unspacedLetters : List (Nat × Nat) :=
  [(0xE01, 0xE30), (0xE32, 0xE33), (0xE40, 0xE46), (0xE81, 0xE82), (0xE84, 0xE84), (0xE86, 0xE8A),
   (0xE8C, 0xEA3), (0xEA5, 0xEA5), (0xEA7, 0xEB0), (0xEB2, 0xEB3), (0xEBD, 0xEBD), (0xEC0, 0xEC4),
   (0xEC6, 0xEC6), (0xEDC, 0xEDF), (0x1000, 0x102A), (0x103F, 0x103F), (0x1050, 0x1055),
   (0x105A, 0x105D), (0x1061, 0x1061), (0x1065, 0x1066), (0x106E, 0x1070), (0x1075, 0x1081),
   (0x108E, 0x108E), (0x1780, 0x17B3), (0x17D7, 0x17D7), (0x17DC, 0x17DC), (0x1950, 0x196D),
   (0x1970, 0x1974), (0x1980, 0x19AB), (0x19B0, 0x19C9), (0x1A20, 0x1A54), (0x1AA7, 0x1AA7),
   (0xA9E0, 0xA9E4), (0xA9E6, 0xA9EF), (0xA9FA, 0xA9FE), (0xAA60, 0xAA76), (0xAA7A, 0xAA7A),
   (0xAA7E, 0xAAAF), (0xAAB1, 0xAAB1), (0xAAB5, 0xAAB6), (0xAAB9, 0xAABD), (0xAAC0, 0xAAC0),
   (0xAAC2, 0xAAC2), (0xAADB, 0xAADD), (0x11700, 0x1171A), (0x11740, 0x11746)]

/-- Signs that count as letters. -/
def letterSigns : List (Nat × Nat) :=
  [(0x2C2, 0x2C5), (0x2D2, 0x2D7), (0x2DE, 0x2DF), (0x2E5, 0x2EB), (0x2ED, 0x2ED), (0x2EF, 0x2FF),
   (0x55A, 0x55C), (0x55E, 0x55E), (0x58A, 0x58A), (0x5F3, 0x5F3), (0x70F, 0x70F), (0xA708, 0xA716),
   (0xA720, 0xA721), (0xA789, 0xA78A), (0xAB5B, 0xAB5B)]

def isKatakana (c : Char) : Bool :=
  script c == "Kana" || within [(0x3031, 0x3035), (0x309B, 0x309C), (0x30A0, 0x30A0),
     (0x30FC, 0x30FC), (0xFF70, 0xFF70)]
    c.toNat

def isWordLetter (c : Char) : Bool :=
  within letterSigns c.toNat ||
    (isAlphabetic c && !listed ideographic c && script c != "Hira" && !within unspacedLetters c.toNat)

/-- The signs inside numbers only. -/
def betweenDigits : List (Nat × Nat) :=
  [(0x2C, 0x2C), (0x3B, 0x3B), (0x37E, 0x37E), (0x589, 0x589), (0x60C, 0x60D), (0x66C, 0x66C),
   (0x7F8, 0x7F8), (0x2044, 0x2044), (0xFE50, 0xFE50), (0xFE54, 0xFE54), (0xFF0C, 0xFF0C),
   (0xFF1B, 0xFF1B)]

/-- The signs that tie words together. -/
def wordTies : List (Nat × Nat) :=
  [(0x5F, 0x5F), (0x202F, 0x202F), (0x203F, 0x2040), (0x2054, 0x2054), (0xFE33, 0xFE34),
   (0xFE4D, 0xFE4F), (0xFF3F, 0xFF3F)]

def wordKind (c : Char) : String :=
  let n := c.toNat
  if n = 0xD then "CR"
  else if n = 0xA then "LF"
  else if n = 0x22 then "DQ"
  else if n = 0x27 then "SQ"
  else if n = 0x200D then "ZWJ"
  else if listed regionalIndicator c then "RI"
  else if within [(0xB, 0xC), (0x85, 0x85), (0x2028, 0x2029)] n then "NL"
  else if isAttached c || listed emojiModifier c then "Extend"
  else if within insideNumbers n then "MB"
  else if within insideWords n then "ML"
  else if within betweenDigits n then "MN"
  else if within wordTies n then "EX"
  else if isOf ["Zs"] c && n != 0xA0 && n != 0x2007 then "WSegSpace"
  else if isOf ["Nd"] c || enclosesDigits c || n = 0x66B || n = 0x19DA then "NU"
  else if isKatakana c then "KA"
  else if script c == "Hebr" && isOf ["Lo"] c then "HL"
  else if isWordLetter c then "LE"
  else if isOf ["Cf"] c && n != 0x200B then "FO"
  else "XX"

/-- The kinds for words, each under its names. -/
def wordKindNames : List (List String) :=
  [["CR"], ["DQ", "Double_Quote"], ["EX", "ExtendNumLet"], ["Extend"], ["FO", "Format"],
   ["HL", "Hebrew_Letter"], ["KA", "Katakana"], ["LE", "ALetter"], ["LF"], ["MB", "MidNumLet"],
   ["ML", "MidLetter"], ["MN", "MidNum"], ["NL", "Newline"], ["NU", "Numeric"],
   ["RI", "Regional_Indicator"], ["SQ", "Single_Quote"], ["WSegSpace"], ["ZWJ"]]

/-! ## Sentences -/

/-- Signs after which a sentence goes on. -/
def sentenceCommas : List (Nat × Nat) :=
  [(0x2C, 0x2D), (0x3A, 0x3B), (0x37E, 0x37E), (0x55D, 0x55D), (0x60C, 0x60D), (0x7F8, 0x7F8),
   (0x1802, 0x1802), (0x1808, 0x1808), (0x2013, 0x2014), (0x3001, 0x3001), (0xFE10, 0xFE11),
   (0xFE13, 0xFE14), (0xFE31, 0xFE32), (0xFE50, 0xFE51), (0xFE54, 0xFE55), (0xFE58, 0xFE58),
   (0xFE63, 0xFE63), (0xFF0C, 0xFF0D), (0xFF1A, 0xFF1B), (0xFF64, 0xFF64)]

/-- Ornaments that close a sentence as a bracket or a quotation mark would. -/
def closingOrnaments : List (Nat × Nat) :=
  [(0x275B, 0x2760), (0x2E00, 0x2E01), (0x2E06, 0x2E08), (0x2E0B, 0x2E0B), (0x1F676, 0x1F678)]

def isClosing (c : Char) : Bool :=
  (isOf ["Ps", "Pe", "Pi", "Pf"] c || listed quotationMark c || within closingOrnaments c.toNat) &&
    c.toNat != 0xFF02 && c.toNat != 0xFF07

def sentenceKind (c : Char) : String :=
  let n := c.toNat
  if n = 0xD then "CR"
  else if n = 0xA then "LF"
  else if within [(0x85, 0x85), (0x2028, 0x2029)] n then "SE"
  else if isBlank c then "SP"
  else if isAttached c || n = 0x200D then "EX"
  else if within [(0x2E, 0x2E), (0x2024, 0x2024), (0xFE52, 0xFE52), (0xFF0E, 0xFF0E)] n then "AT"
  else if listed sentenceTerminal c then "ST"
  else if isClosing c then "CL"
  else if within sentenceCommas n then "SC"
  else if isOf ["Nd"] c || enclosesDigits c || within [(0x66B, 0x66C), (0x19DA, 0x19DA)] n then "NU"
  else if isOf ["Cf"] c then "FO"
  else if isOf ["Lt"] c || (isUppercase c && !within [(0x1C90, 0x1CBA), (0x1CBD, 0x1CBF)] n) then "UP"
  else if isLowercase c && !within [(0x10D0, 0x10FA), (0x10FD, 0x10FF)] n then "LO"
  else if isAlphabetic c || n = 0x5F3 then "LE"
  else "XX"

/-- The kinds for sentences, each under its two names. -/
def sentenceKindNames : List (List String) :=
  [["AT", "ATerm"], ["CL", "Close"], ["CR"], ["EX", "Extend"], ["FO", "Format"], ["LE", "OLetter"],
   ["LF"], ["LO", "Lower"], ["NU", "Numeric"], ["SC", "SContinue"], ["SE", "Sep"], ["SP", "Sp"],
   ["ST", "STerm"], ["UP", "Upper"]]

end CycleLog.Text
