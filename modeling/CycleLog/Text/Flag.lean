import CycleLog.Text.Blank
import CycleLog.Text.Case

/-!
# Yes/no properties of characters

The properties of the character database that a character has or has not, under their names there. Some follow from
others or from the general category; the rest are kept as tables.
-/

namespace CycleLog.Text
set_option autoImplicit false

inductive Flag where
  | asciiHexDigit | alphabetic | bidiControl | bidiMirrored | caseIgnorable | cased
  | changesWhenCasefolded | changesWhenCasemapped | changesWhenLowercased | changesWhenTitlecased
  | changesWhenUppercased | dash | defaultIgnorableCodePoint | deprecated | diacritic | emoji
  | emojiComponent | emojiModifier | emojiModifierBase | emojiPresentation | extendedPictographic
  | extender | graphemeBase | graphemeExtend | graphemeLink | hexDigit | hyphen | idsBinaryOperator
  | idsTrinaryOperator | idsUnaryOperator | idCompatMathContinue | idCompatMathStart | idContinue
  | idStart | ideographic | joinControl | logicalOrderException | lowercase | math
  | modifierCombiningMark | noncharacterCodePoint | otherAlphabetic
  | otherDefaultIgnorableCodePoint | otherGraphemeExtend | otherIdContinue | otherIdStart
  | otherLowercase | otherMath | otherUppercase | patternSyntax | patternWhiteSpace
  | prependedConcatenationMark | quotationMark | radical | regionalIndicator | sentenceTerminal
  | softDotted | terminalPunctuation | unifiedIdeograph | uppercase | variationSelector
  | whiteSpace | xidContinue | xidStart
deriving DecidableEq, Repr

namespace Flag

/-- For each property the names it goes by, without underscores and in lower case. -/
def names : List (Flag × List String) :=
  [(.asciiHexDigit, ["asciihexdigit", "ahex"]), (.alphabetic, ["alphabetic", "alpha"]),
   (.bidiControl, ["bidicontrol", "bidic"]), (.bidiMirrored, ["bidimirrored", "bidim"]),
   (.caseIgnorable, ["caseignorable", "ci"]), (.cased, ["cased"]),
   (.changesWhenCasefolded, ["changeswhencasefolded", "cwcf"]),
   (.changesWhenCasemapped, ["changeswhencasemapped", "cwcm"]),
   (.changesWhenLowercased, ["changeswhenlowercased", "cwl"]),
   (.changesWhenTitlecased, ["changeswhentitlecased", "cwt"]),
   (.changesWhenUppercased, ["changeswhenuppercased", "cwu"]), (.dash, ["dash"]),
   (.defaultIgnorableCodePoint, ["defaultignorablecodepoint", "di"]),
   (.deprecated, ["deprecated", "dep"]), (.diacritic, ["diacritic", "dia"]), (.emoji, ["emoji"]),
   (.emojiComponent, ["emojicomponent", "ecomp"]), (.emojiModifier, ["emojimodifier", "emod"]),
   (.emojiModifierBase, ["emojimodifierbase", "ebase"]),
   (.emojiPresentation, ["emojipresentation", "epres"]),
   (.extendedPictographic, ["extendedpictographic", "extpict"]), (.extender, ["extender", "ext"]),
   (.graphemeBase, ["graphemebase", "grbase"]), (.graphemeExtend, ["graphemeextend", "grext"]),
   (.graphemeLink, ["graphemelink", "grlink"]), (.hexDigit, ["hexdigit", "hex"]),
   (.hyphen, ["hyphen"]), (.idsBinaryOperator, ["idsbinaryoperator", "idsb"]),
   (.idsTrinaryOperator, ["idstrinaryoperator", "idst"]),
   (.idsUnaryOperator, ["idsunaryoperator", "idsu"]),
   (.idCompatMathContinue, ["idcompatmathcontinue"]), (.idCompatMathStart, ["idcompatmathstart"]),
   (.idContinue, ["idcontinue", "idc"]), (.idStart, ["idstart", "ids"]),
   (.ideographic, ["ideographic", "ideo"]), (.joinControl, ["joincontrol", "joinc"]),
   (.logicalOrderException, ["logicalorderexception", "loe"]), (.lowercase, ["lowercase", "lower"]),
   (.math, ["math"]), (.modifierCombiningMark, ["modifiercombiningmark", "mcm"]),
   (.noncharacterCodePoint, ["noncharactercodepoint", "nchar"]),
   (.otherAlphabetic, ["otheralphabetic", "oalpha"]),
   (.otherDefaultIgnorableCodePoint, ["otherdefaultignorablecodepoint", "odi"]),
   (.otherGraphemeExtend, ["othergraphemeextend", "ogrext"]),
   (.otherIdContinue, ["otheridcontinue", "oidc"]), (.otherIdStart, ["otheridstart", "oids"]),
   (.otherLowercase, ["otherlowercase", "olower"]), (.otherMath, ["othermath", "omath"]),
   (.otherUppercase, ["otheruppercase", "oupper"]), (.patternSyntax, ["patternsyntax", "patsyn"]),
   (.patternWhiteSpace, ["patternwhitespace", "patws"]),
   (.prependedConcatenationMark, ["prependedconcatenationmark", "pcm"]),
   (.quotationMark, ["quotationmark", "qmark"]), (.radical, ["radical"]),
   (.regionalIndicator, ["regionalindicator", "ri"]),
   (.sentenceTerminal, ["sentenceterminal", "sterm"]), (.softDotted, ["softdotted", "sd"]),
   (.terminalPunctuation, ["terminalpunctuation", "term"]),
   (.unifiedIdeograph, ["unifiedideograph", "uideo"]), (.uppercase, ["uppercase", "upper"]),
   (.variationSelector, ["variationselector", "vs"]),
   (.whiteSpace, ["whitespace", "wspace", "space"]), (.xidContinue, ["xidcontinue", "xidc"]),
   (.xidStart, ["xidstart", "xids"])]

/-! ## Properties with a table of their own -/

def tables : List (Flag × Boundaries) :=
  [(.asciiHexDigit, .ofRuns "48 10 7 6 26 6"),
   (.bidiControl, .ofRuns "1564 1 6641 2 26 5 55 4"),
   (.bidiMirrored, .ofRuns (String.join
      ["40 2 18 1 1 1 28 1 1 1 29 1 1 1 45 1 15 1 3710 4 1885 2 2460 2 10 2 54 2 14 2 177 1 192 ",
       "4 3 6 3 1 3 2 3 4 1 4 1 1 1 1 4 9 5 1 1 18 5 4 9 2 1 1 1 8 1 32 2 4 5 1 9 2 2 19 5 2 9 ",
       "5 2 2 4 24 2 16 8 4 20 2 7 2 1085 14 74 1 2 4 1 2 1 3 5 4 5 3 3 14 403 22 2 6 1 14 8 1 ",
       "7 6 3 1 4 5 1 2 2 5 4 1 1 3 2 2 10 6 2 2 12 19 1 4 2 1 1 1 2 1 1 4 5 2 6 3 24 2 11 2 4 ",
       "4 1 2 2 2 4 43 2 8 1 40 5 1 1 1 3 5 5 3 4 1 3 5 1 1 256 1 515 4 3 2 1 2 14 2 2 10 43 8 ",
       "427 10 2 8 52797 6 5 2 162 2 18 1 1 1 28 1 1 1 29 1 1 1 1 2 1 2 55159 1 57 1 57 1 57 1 ",
       "57 1"])),
   (.dash, .ofRuns (String.join
      ["45 1 1372 1 51 1 3649 1 1029 1 2057 6 61 1 39 1 15 1 390 1 3076 1 2 1 31 2 4 1 28 1 446 ",
       "1 19 1 111 1 52624 2 37 1 10 1 169 1 3680 1 318 1"])),
   (.deprecated, .ofRuns "329 1 1321 1 2307 1 1 1 2089 2 2245 6 697 2 908502 1"),
   (.diacritic, .ofRuns (String.join
      ["94 1 1 1 71 1 6 1 4 1 2 2 503 159 1 8 5 6 17 2 4 1 9 2 253 5 209 1 55 17 1 27 1 1 1 2 1 ",
       "1 134 8 4 2 134 2 4 2 3 3 67 27 91 11 58 11 34 2 126 8 41 10 16 28 61 1 16 1 3 4 28 1 ",
       "74 1 16 1 110 1 16 1 110 1 16 1 47 3 60 1 16 1 7 1 119 1 110 1 16 1 110 1 16 1 109 2 16 ",
       "1 124 1 111 1 12 6 1 1 107 1 13 5 75 2 27 1 1 1 1 1 4 2 66 3 1 2 62 1 112 1 1 2 40 2 4 ",
       "5 25 7 1 1 10 2 705 3 948 2 30 1 148 11 9 1 347 3 292 1 20 8 2 1 48 15 2 11 104 1 15 1 ",
       "38 9 54 2 58 1 11 2 66 2 64 6 82 25 4 1 6 1 2 3 50 63 89 12 37 11 445 1 1 3 11 3 13 3 ",
       "13 3 13 2 3312 3 317 1 506 6 105 4 95 1 30066 1 12 2 1 1 28 2 82 2 14 34 102 3 109 2 12 ",
       "1 37 1 151 1 27 18 57 4 36 1 95 1 12 1 36 1 149 3 65 4 51 1 100 5 9 3 128 2 20272 1 769 ",
       "16 270 1 1 1 47 1 45 2 67 1 764 1 1183 6 1 42 1 9 637 3 4 1 165 2 571 6 38 1 26 5 399 3 ",
       "70 11 49 4 192 1 41 1 72 2 120 2 62 1 76 1 9 3 104 2 178 2 80 2 16 1 24 7 3 5 89 3 1 2 ",
       "13 2 95 1 3 1 123 2 251 2 126 1 118 2 115 1 269 2 258 2 4 1 156 1 83 1 18 1 81 1 421 1 ",
       "258 1 1 2 81 1 425 2 23 1 5356 15 11481 1 2496 5 59 7 564 2 546 17 80 2 16382 4 1 7 1 2 ",
       "7937 46 2 23 544 3 3 6 8 8 2 7 30 4 3714 62 194 7 375 1 61 4 766 2 736 7 109 3 1 3"])),
   (.emoji, .ofRuns (String.join
      ["35 1 6 1 5 10 111 1 4 1 8077 1 12 1 216 1 22 1 90 6 15 2 367 2 12 1 166 1 25 11 4 3 199 ",
       "1 231 2 10 1 9 1 58 4 1 5 9 1 2 1 2 2 2 1 4 1 2 1 1 2 2 1 3 1 3 2 8 3 5 1 1 1 5 12 11 2 ",
       "2 1 1 2 1 1 18 1 2 2 18 6 1 1 1 2 3 2 5 1 2 2 4 2 11 2 5 2 2 1 5 2 1 1 1 2 20 2 5 6 1 4 ",
       "2 1 4 1 2 1 2 6 1 1 2 1 1 1 1 1 6 1 3 1 6 1 10 2 15 1 2 1 4 1 1 1 4 3 1 1 11 2 48 3 9 1 ",
       "14 1 14 1 372 2 463 3 19 2 51 1 4 1 1242 1 12 1 601 1 1 1 114026 1 202 1 160 2 12 2 14 ",
       "1 2 10 75 26 1 2 23 1 20 1 2 9 21 2 174 34 2 112 2 2 1 3 2 83 2 3 1 263 1 63 11 6 1 24 ",
       "7 2 2 8 12 1 2 4 2 1 4 2 13 2 2 1 8 2 9 1 5 3 12 3 8 3 2 1 1 1 4 1 6 1 3 1 6 86 48 70 5 ",
       "8 2 3 4 10 3 1 1 2 3 1 2 10 227 12 4 1 283 47 1 10 1 185 112 13 3 10 5 56 7 15 2 11 6 9"])),
   (.emojiComponent, .ofRuns (String.join
      ["35 1 6 1 5 10 8147 1 213 1 56619 1 62422 26 507 5 1456 4 788076 96"])),
   (.emojiModifier, .ofRuns "127995 5"),
   (.emojiModifierBase, .ofRuns (String.join
      ["9757 1 219 1 16 4 117879 1 60 3 2 1 2 3 117 2 2 11 21 19 3 1 4 3 1 3 7 1 1 1 24 1 201 2 ",
       "4 1 21 1 4 2 174 3 3 5 83 1 16 3 9 1 11 1 575 1 2 1 8 8 6 1 9 10 2 3 56 1 61 2 1 2 1 1 ",
       "17 3 1 13 229 3 42 9"])),
   (.emojiPresentation, .ofRuns (String.join
      ["8986 2 205 4 3 1 2 1 521 2 21 2 50 12 43 1 19 1 13 1 8 2 17 2 5 2 8 1 5 1 21 1 7 2 1 1 ",
       "4 1 2 1 7 1 4 2 28 1 35 1 1 1 4 3 1 1 61 3 24 1 14 1 859 2 51 1 4 1 115886 1 202 1 190 ",
       "1 2 10 75 26 1 1 24 1 20 1 2 5 1 3 21 2 174 33 12 9 1 70 1 22 12 43 4 5 12 17 3 1 3 71 ",
       "1 1 1 187 2 63 13 4 1 24 18 1 26 2 13 1 86 85 48 70 6 1 3 3 2 3 4 4 11 2 7 9 227 12 4 1 ",
       "283 47 1 10 1 185 112 13 3 10 5 56 7 15 2 11 6 9"])),
   (.extendedPictographic, .ofRuns (String.join
      ["169 1 4 1 8077 1 12 1 216 1 22 1 90 6 15 2 367 2 12 1 95 1 70 1 25 11 4 3 199 1 231 2 ",
       "10 1 9 1 58 4 1 6 1 12 1 114 10 118 2 11 1 1 1 1 6 1 3 1 6 1 10 2 15 1 2 1 4 1 1 1 4 3 ",
       "1 1 11 5 45 3 9 1 14 1 14 1 372 2 463 3 19 2 51 1 4 1 1242 1 12 1 601 1 1 1 114022 256 ",
       "13 3 31 1 60 6 12 2 14 1 2 10 18 57 27 15 10 1 20 1 2 9 1 4 9 434 5 318 8 266 48 128 ",
       "116 12 85 43 12 4 56 8 10 6 40 8 30 82 12 47 1 10 1 441 256 1022"])),
   (.extender, .ofRuns (String.join
      ["183 1 536 2 878 1 441 1 630 1 137 1 89 1 752 1 127 1 2371 1 56 1 611 1 398 1 68 1 5001 ",
       "1 43 5 103 2 93 3 28438 1 1526 1 962 1 22 1 137 1 108 1 21 2 21627 1 2064 2 1483 1 27 1 ",
       "4 1 1223 1 293 1 116 2 498 3 1231 1 20649 2 1180 2 1 1 29016 2 1201 1 852 3"])),
   (.graphemeLink, .ofRuns (String.join
      ["2381 1 127 1 127 1 127 1 127 1 127 1 127 1 127 1 109 2 16 1 124 1 111 1 127 1 201 1 180 ",
       "2 1753 2 30 1 157 1 653 1 227 1 101 2 70 2 4491 1 31366 1 37 1 151 1 142 1 108 1 309 1 ",
       "246 1 24145 1 1542 1 41 1 14 1 57 1 121 2 139 1 116 1 180 1 98 1 128 3 113 1 127 1 252 ",
       "1 127 1 118 1 116 1 269 1 259 2 161 1 83 1 18 1 81 1 421 1 260 2 81 1 425 2 16876 1"])),
   (.hexDigit, .ofRuns "48 10 7 6 26 6 65193 10 7 6 26 6"),
   (.hyphen, .ofRuns "45 1 127 1 1244 1 4731 1 2057 2 3589 1 739 1 52583 1 169 1 87 1"),
   (.idsBinaryOperator, .ofRuns "12272 2 2 10 497 1"),
   (.idsTrinaryOperator, .ofRuns "12274 2"),
   (.idsUnaryOperator, .ofRuns "12286 2"),
   (.idCompatMathStart, .ofRuns (String.join
      ["8706 1 4 1 22 1 111778 1 25 1 31 1 25 1 31 1 25 1 31 1 25 1 31 1 25 1"])),
   (.ideographic, .ofRuns (String.join
      ["12294 2 25 9 14 3 965 6592 64 20992 22784 366 2 106 29962 1 27 6136 8 1238 41 10 9319 ",
       "396 19716 42720 32 4154 6 222 2 5762 14 7473 15 622 2466 542 1506 4939 5 4192"])),
   (.logicalOrderException, .ofRuns "3648 5 123 5 2800 3 2 1 37114 2 2 1 1 2"),
   (.modifierCombiningMark, .ofRuns "1620 2 2 1 131 1 6 1 3 2 481 2 1 3 3 1 31 1"),
   (.noncharacterCodePoint, .ofRuns (String.join
      ["64976 32 526 2 65534 2 65534 2 65534 2 65534 2 65534 2 65534 2 65534 2 65534 2 65534 2 ",
       "65534 2 65534 2 65534 2 65534 2 65534 2 65534 2 65534 2"])),
   (.otherDefaultIgnorableCodePoint, .ofRuns (String.join
      ["847 1 3599 2 1619 2 2223 1 4350 1 52795 1 79 9 851975 1 1 30 96 128 240 3600"])),
   (.otherIdContinue, .ofRuns "183 1 719 1 4065 9 1640 1 1585 2 4333 1 52841 1"),
   (.otherIdStart, .ofRuns "6277 2 2193 1 21 1 3948 2"),
   (.otherMath, .ofRuns (String.join
      ["94 1 881 3 2 1 26 2 2 2 7200 1 27 3 11 1 32 4 24 2 14 2 65 13 4 1 3 2 4 5 18 1 4 1 2 10 ",
       "1 1 3 5 6 1 3 2 2 2 1 3 1 6 3 4 5 5 75 5 2 4 1 2 1 2 1 1 1 5 2 2 4 2 4 18 2 2 1 1 1 7 1 ",
       "1 6 2 290 4 168 2 1 1 24 1 17 1 445 2 12 9 5 5 5 2 2 2 3 5 14 1 1 1 2 6 24 2 57 1 1 1 ",
       "29 4 9 2 342 2 31 10 403 22 63 4 32 2 54371 1 1 1 4 1 211 1 1 1 54465 85 1 71 1 2 2 1 2 ",
       "2 2 4 1 12 1 1 1 7 1 65 1 4 2 8 1 7 1 28 1 4 1 5 1 1 3 7 1 340 2 25 1 25 1 31 1 25 1 31 ",
       "1 25 1 31 1 25 1 31 1 25 1 8 2 50 5632 4 1 27 1 2 1 1 2 1 1 10 1 4 1 1 1 1 6 1 4 1 1 1 ",
       "1 1 1 3 1 2 1 1 2 1 1 1 1 1 1 1 1 1 1 2 1 1 2 4 1 7 1 4 1 4 1 1 1 10 1 17 5 3 1 5 1 17"])),
   (.patternSyntax, .ofRuns (String.join
      ["33 15 10 7 26 4 1 1 26 4 34 7 1 1 1 2 1 1 1 2 4 1 4 1 3 1 23 1 31 1 7960 24 8 15 2 19 1 ",
       "10 305 720 160 630 30 1132 512 128 385 3 4 25 15 1 52493 2 261 2"])),
   (.patternWhiteSpace, .ofRuns "9 5 18 1 100 1 8072 2 24 2"),
   (.prependedConcatenationMark, .ofRuns "1536 6 215 1 49 1 384 2 80 1 67546 1 15 1"),
   (.quotationMark, .ofRuns (String.join
      ["34 1 4 1 131 1 15 1 8028 8 25 2 3591 1 457 4 13 3 52769 4 189 1 4 1 90 2"])),
   (.radical, .ofRuns "11904 26 1 89 12 214"),
   (.regionalIndicator, .ofRuns "127462 26"),
   (.sentenceTerminal, .ofRuns (String.join
      ["33 1 12 1 16 1 1353 1 147 3 180 1 43 3 246 1 61 1 1 1 3 2 293 2 1764 2 790 1 4 2 773 1 ",
       "198 2 157 2 45 1 5 1 314 2 354 4 162 2 10 2 2 2 29 3 187 2 65 2 932 1 23 2 9 3 3247 3 ",
       "306 1 13 1 22 2 429 1 29948 1 270 2 227 1 3 1 382 2 86 2 95 1 152 2 147 3 144 2 249 1 ",
       "21030 1 2 2 59 1 3 2 169 1 12 1 16 1 65 1 2804 2 1277 5 44 4 189 2 117 4 127 3 129 2 6 ",
       "1 16 2 88 2 1 2 108 1 298 2 117 2 373 2 5 15 105 2 249 3 517 1 1 1 251 2 87 2 420 2 692 ",
       "2 74 2 19241 2 133 1 65 2 11 1 553 2 296 1 19974 1 7656 1"])),
   (.softDotted, .ofRuns (String.join
      ["105 2 196 1 281 1 30 1 52 1 20 1 320 1 98 1 1 1 6409 1 51 1 13 1 3 1 132 1 157 1 421 1 ",
       "214 2 2866 1 108453 2 50 2 50 2 50 2 50 2 50 2 50 2 50 2 50 2 50 2 50 2 50 2 50 2 2182 ",
       "1 305 2 26 1"])),
   (.terminalPunctuation, .ofRuns (String.join
      ["33 1 10 1 1 1 11 2 3 1 830 1 8 1 513 1 57 1 72 1 14 1 1 3 180 1 43 11 1 1 235 2 54 6 1 ",
       "8 31 1 261 2 1268 2 172 1 4 6 311 2 789 8 773 1 124 3 71 2 157 3 3 1 39 4 2 2 314 2 354 ",
       "4 162 2 10 2 1 3 29 3 187 5 62 2 932 1 23 2 9 3 3247 3 306 1 13 1 4 1 10 1 1 2 3 2 428 ",
       "2 29947 2 269 3 227 5 382 2 86 2 95 1 151 3 147 3 127 1 16 2 249 1 21030 1 2 2 57 3 1 4 ",
       "169 1 10 1 1 1 11 2 3 1 65 1 2 1 1082 1 48 1 1158 1 199 1 310 2 152 6 68 6 89 4 952 5 ",
       "44 4 189 7 112 4 127 3 129 2 6 1 16 2 88 5 108 1 298 2 117 3 12 2 358 4 3 15 105 2 249 ",
       "3 517 1 1 1 251 2 87 2 4 2 414 3 45 1 645 2 74 2 1323 5 17913 2 133 1 65 3 10 1 553 2 ",
       "295 2 19974 1 7655 4"])),
   (.unifiedIdeograph, .ofRuns (String.join
      ["13312 6592 64 20992 23054 2 1 1 1 2 10 1 1 1 1 2 2 3 67030 42720 32 4154 6 222 2 5762 ",
       "14 7473 15 622 4514 4939 5 4192"])),
   (.variationSelector, .ofRuns "6155 3 1 1 58864 16 852720 240")]

def listed (f : Flag) (c : Char) : Bool :=
  match tables.lookup f with
  | some t => t.has c
  | none => false

/-! ## Changes of case -/

def changesLowered (c : Char) : Bool := lowerForm c != [c]

def changesRaised (c : Char) : Bool := upperForm c != [c]

/-- In the title-case form: there the letters of category `Lt` and the modern Georgian ones stay, and the capitals
that stand for two letters change. -/
def changesTitled (c : Char) : Bool :=
  (changesRaised c && !isOf ["Lt"] c && !within [(0x10D0, 0x10FF)] c.toNat) ||
    within [(0x1C4, 0x1C4), (0x1C7, 0x1C7), (0x1CA, 0x1CA), (0x1F1, 0x1F1)] c.toNat

/-- Characters that fold to several characters. -/
def foldsLong : List (Nat × Nat) :=
  [(0xDF, 0xDF), (0x130, 0x130), (0x149, 0x149), (0x587, 0x587), (0x1E9A, 0x1E9A), (0x1F80, 0x1F87),
   (0x1F90, 0x1F97), (0x1FA0, 0x1FA7), (0x1FB2, 0x1FB4), (0x1FB7, 0x1FB7), (0x1FC2, 0x1FC4),
   (0x1FC7, 0x1FC7), (0x1FF2, 0x1FF4), (0x1FF7, 0x1FF7), (0xFB00, 0xFB06), (0xFB13, 0xFB17)]

/-- Three of the characters that fold to one have the folded one as their canonical form already. -/
def changesFolded (c : Char) : Bool :=
  (folded c != c.toNat && !within [(0x1FBE, 0x1FBE), (0x1FD3, 0x1FD3), (0x1FE3, 0x1FE3)] c.toNat) ||
    within foldsLong c.toNat

/-! ## Names in programs -/

/-- No sign that a pattern or a program gives a meaning to. -/
def outsideSyntax (c : Char) : Bool := !listed patternSyntax c && !listed patternWhiteSpace c

def startsName (c : Char) : Bool :=
  (isOf ["Lu", "Ll", "Lt", "Lm", "Lo", "Nl"] c || listed otherIdStart c) && outsideSyntax c

def continuesName (c : Char) : Bool :=
  startsName c ||
    ((isOf ["Mn", "Mc", "Nd", "Pc"] c || listed otherIdContinue c) && outsideSyntax c)

/-- Characters whose compatibility form would not continue a name. -/
def splitByForm : List (Nat × Nat) :=
  [(0x37A, 0x37A), (0x309B, 0x309C), (0xFC5E, 0xFC63), (0xFDFA, 0xFDFB), (0xFE70, 0xFE70),
   (0xFE72, 0xFE72), (0xFE74, 0xFE74), (0xFE76, 0xFE76), (0xFE78, 0xFE78), (0xFE7A, 0xFE7A),
   (0xFE7C, 0xFE7C), (0xFE7E, 0xFE7E)]

/-- Characters whose compatibility form would not start a name, beside these. -/
def startSplitByForm : List (Nat × Nat) :=
  [(0xE33, 0xE33), (0xEB3, 0xEB3), (0xFF9E, 0xFF9F)]

/-! ## The property of a character -/

/-- A character that is not shown where a font has no form for it. -/
def ignoredByDefault (c : Char) : Bool :=
  (listed otherDefaultIgnorableCodePoint c || isOf ["Cf"] c || listed variationSelector c) &&
    !isBlank c && !within [(0xFFF9, 0xFFFB), (0x13430, 0x13440)] c.toNat &&
    !listed prependedConcatenationMark c

def has (f : Flag) (c : Char) : Bool :=
  match f with
  | .alphabetic => isAlphabetic c
  | .caseIgnorable => isCaseIgnorable c
  | .cased => isCased c
  | .changesWhenCasefolded => changesFolded c
  | .changesWhenCasemapped => changesLowered c || changesRaised c || changesTitled c
  | .changesWhenLowercased => changesLowered c
  | .changesWhenTitlecased => changesTitled c
  | .changesWhenUppercased => changesRaised c
  | .defaultIgnorableCodePoint => ignoredByDefault c
  | .graphemeBase => !isOf ["Cc", "Cf", "Co", "Cn", "Zl", "Zp"] c && !isExtender c
  | .graphemeExtend => isExtender c
  | .idCompatMathContinue =>
    listed idCompatMathStart c ||
      within [(0xB2, 0xB3), (0xB9, 0xB9), (0x2070, 0x2070), (0x2074, 0x207E), (0x2080, 0x208E)]
        c.toNat
  | .idContinue => continuesName c
  | .idStart => startsName c
  | .joinControl => isJoiner c
  | .lowercase => isLowercase c
  | .math => isOf ["Sm"] c || listed otherMath c
  | .otherAlphabetic => otherAlphabeticTable.has c
  | .otherGraphemeExtend => otherExtenderTable.has c
  | .otherLowercase => within Text.otherLowercase c.toNat
  | .otherUppercase => within Text.otherUppercase c.toNat
  | .uppercase => isUppercase c
  | .whiteSpace => isBlank c
  | .xidContinue => continuesName c && !within splitByForm c.toNat
  | .xidStart =>
    startsName c && !within splitByForm c.toNat && !within startSplitByForm c.toNat
  | f => listed f c

def named? (name : String) : Option Flag :=
  (names.find? fun e => e.2.contains name).map (·.1)

/-- No two properties share a name. -/
theorem named?_of_mem {f : Flag} {ns : List String} {n : String} (h : (f, ns) ∈ names) (hn : n ∈ ns) :
    named? n = some f := by
  have hall : ∀ e ∈ names, ∀ n ∈ e.2, named? n = some e.1 := by decide +kernel
  exact hall _ h n hn

theorem exists_named (f : Flag) : ∃ n, named? n = some f := by
  have hmem : ∃ e ∈ names, e.1 = f ∧ e.2 ≠ [] := by cases f <;> decide +kernel
  obtain ⟨⟨_, ns⟩, he, rfl, hne⟩ := hmem
  exact ⟨ns.head hne, named?_of_mem he (List.head_mem hne)⟩

end Flag
end CycleLog.Text
