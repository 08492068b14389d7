import CycleLog.Pattern.Class

/-!
# Names of classes

The names under which a class can be asked for: general categories, scripts and the other
properties of characters, and the classes of ASCII characters. Case, blanks, hyphens and underscores
do not count in the name of a property, nor does `is` in front of it.
-/

namespace CycleLog.Pattern
set_option autoImplicit false

open Text

/-! ## Properties -/

/-- A name without what does not count in it. Without its `is` the name `isc` would be another one, and keeps it. -/
def plainName (name : String) : String :=
  let plain (cs : List Char) : List Char :=
    (cs.filter fun c => c != ' ' && c != '_' && c != '-' && c.toNat < 0x80).map Char.toLower
  match name.toList with
  | i :: s :: r =>
    if i.toLower = 'i' && s.toLower = 's' then
      if plain r = ['c'] then "isc" else String.ofList (plain r)
    else String.ofList (plain (i :: s :: r))
  | cs => String.ofList (plain cs)

/-- General categories and groups of them, under their short and long names. -/
def categoryNames : List (List String × List String) :=
  [(["l", "letter"], ["Lu", "Ll", "Lt", "Lm", "Lo"]),
   (["lc", "casedletter"], ["Lu", "Ll", "Lt"]),
   (["lu", "uppercaseletter"], ["Lu"]),
   (["ll", "lowercaseletter"], ["Ll"]),
   (["lt", "titlecaseletter"], ["Lt"]),
   (["lm", "modifierletter"], ["Lm"]),
   (["lo", "otherletter"], ["Lo"]),
   (["m", "mark", "combiningmark"], ["Mn", "Mc", "Me"]),
   (["mn", "nonspacingmark"], ["Mn"]),
   (["mc", "spacingmark"], ["Mc"]),
   (["me", "enclosingmark"], ["Me"]),
   (["n", "number"], ["Nd", "Nl", "No"]),
   (["nd", "decimalnumber", "digit"], ["Nd"]),
   (["nl", "letternumber"], ["Nl"]),
   (["no", "othernumber"], ["No"]),
   (["p", "punctuation", "punct"], ["Pc", "Pd", "Ps", "Pe", "Pi", "Pf", "Po"]),
   (["pc", "connectorpunctuation"], ["Pc"]),
   (["pd", "dashpunctuation"], ["Pd"]),
   (["ps", "openpunctuation"], ["Ps"]),
   (["pe", "closepunctuation"], ["Pe"]),
   (["pi", "initialpunctuation"], ["Pi"]),
   (["pf", "finalpunctuation"], ["Pf"]),
   (["po", "otherpunctuation"], ["Po"]),
   (["s", "symbol"], ["Sm", "Sc", "Sk", "So"]),
   (["sm", "mathsymbol"], ["Sm"]),
   (["sc", "currencysymbol"], ["Sc"]),
   (["sk", "modifiersymbol"], ["Sk"]),
   (["so", "othersymbol"], ["So"]),
   (["z", "separator"], ["Zs", "Zl", "Zp"]),
   (["zs", "spaceseparator"], ["Zs"]),
   (["zl", "lineseparator"], ["Zl"]),
   (["zp", "paragraphseparator"], ["Zp"]),
   (["c", "other"], ["Cc", "Cf", "Cn", "Co"]),
   (["cc", "control", "cntrl"], ["Cc"]),
   (["cf", "format"], ["Cf"]),
   (["cn", "unassigned"], ["Cn"]),
   (["co", "privateuse"], ["Co"])]

def categoryNamed? (name : String) : Option Property :=
  match name with
  | "any" => some .any
  | "assigned" => some .assigned
  | "ascii" => some .ascii
  | _ => (categoryNames.find? fun e => e.1.contains name).map fun e => .categories e.2

/-- Where in a list of names the row with this one stands. -/
def rowNamed? (rows : List (List String)) (name : String) : Option Nat :=
  rows.findIdx? fun names => (names.map plainName).contains name

/-- The name that stands first in the row with this one. -/
def codeNamed? (rows : List (List String)) (name : String) : Option String :=
  (rowNamed? rows name).bind fun k => rows[k]?.bind (·.head?)

def propertyNamed? (name : String) : Option Property :=
  let n := plainName name
  (((Flag.named? n).map .flag).or (categoryNamed? n)).or ((codeNamed? scriptNames n).map .script)

/-- The property with that value, as in `Script=Greek`. -/
def propertyWith? (name value : String) : Option Property :=
  let v := plainName value
  match plainName name with
  | "gc" | "generalcategory" => categoryNamed? v
  | "sc" | "script" => (codeNamed? scriptNames v).map .script
  | "scx" | "scriptextensions" => (codeNamed? scriptNames v).map .usedIn
  | "age" => (rowNamed? versionNames v).map .since
  | "gcb" | "graphemeclusterbreak" => (codeNamed? clusterKindNames v).map .cluster
  | "wb" | "wordbreak" => (codeNamed? wordKindNames v).map .inWord
  | "sb" | "sentencebreak" => (codeNamed? sentenceKindNames v).map .inSentence
  | _ => none

/-! ## ASCII classes -/

def asciiNamed? : String → Option Class
  | "alnum" => some (.ofRanges [('0', '9'), ('A', 'Z'), ('a', 'z')])
  | "alpha" => some (.ofRanges [('A', 'Z'), ('a', 'z')])
  | "ascii" => some (.range '\x00' '\x7f')
  | "blank" => some (.ofRanges [('\t', '\t'), (' ', ' ')])
  | "cntrl" => some (.ofRanges [('\x00', '\x1f'), ('\x7f', '\x7f')])
  | "digit" => some .asciiDigit
  | "graph" => some (.range '!' '~')
  | "lower" => some (.range 'a' 'z')
  | "print" => some (.range ' ' '~')
  | "punct" =>
    some (.ofRanges [('!', '/'), (':', '@'), ('[', '\x60'), ('\x7b', '~')])
  | "space" => some .asciiBlank
  | "upper" => some (.range 'A' 'Z')
  | "word" => some .asciiWord
  | "xdigit" => some (.ofRanges [('0', '9'), ('A', 'F'), ('a', 'f')])
  | _ => none

end CycleLog.Pattern
