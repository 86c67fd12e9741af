import Geoscript.Expression.Basic
import Geoscript.Text.Block
import Geoscript.Text.Segment

/-! The classes of characters that an expression may name. Case, blanks, dashes and underscores in a name do not
matter. -/

namespace Geoscript.Expression

/-- A named class: its members, and its members when case does not matter. -/
structure Property where
  strict : CharTest
  loose : CharTest

namespace Property

def plain (test : CharTest) : Property := ⟨test, test⟩

def standardName (name : String) : String :=
  String.ofList ((name.toList.filter fun c => !(c == '_' || c == '-' || c == ' ')).map Char.toUpper)

def ofCategories (names : List String) : CharTest :=
  let members := Text.categories.filter fun (name, _) => names.contains name
  fun c => members.any fun (_, ranges) => ranges.has c.toNat

def ofRanges (ranges : Text.Ranges) : CharTest := fun c => ranges.has c.toNat

def union (tests : List CharTest) : CharTest := fun c => tests.any fun test => test c

def casedLetter : CharTest := ofCategories ["Lu", "Ll", "Lt"]

def letter : CharTest := ofCategories ["Lu", "Ll", "Lt", "Lm", "Lo"]

def unassigned : CharTest := fun c => !Text.isAssigned c.toNat

def punctuation : CharTest := ofCategories ["Pc", "Pd", "Ps", "Pe", "Pi", "Pf", "Po"]

def symbol : CharTest := ofCategories ["Sm", "Sc", "Sk", "So"]

/-- The names of the classes that are made of whole categories, and their categories. -/
def categoryRows : List (List String × CharTest) :=
  (Text.Coded.readTable "CC CONTROL CNTRL:Cc
CF FORMAT:Cf
CO PRIVATEUSE:Co
L LETTER:Lu Ll Lt Lm Lo
LC CASEDLETTER L&:Lu Ll Lt
LM MODIFIERLETTER:Lm
LO OTHERLETTER:Lo
M MARK COMBININGMARK:Mn Mc Me
MC SPACINGMARK:Mc
ME ENCLOSINGMARK:Me
MN NONSPACINGMARK:Mn
N NUMBER:Nd Nl No
ND DECIMALNUMBER DIGIT:Nd
NL LETTERNUMBER:Nl
NO OTHERNUMBER:No
P PUNCTUATION PUNCT:Pc Pd Ps Pe Pi Pf Po
PC CONNECTORPUNCTUATION:Pc
PD DASHPUNCTUATION:Pd
PE CLOSEPUNCTUATION:Pe
PF FINALPUNCTUATION:Pf
PI INITIALPUNCTUATION:Pi
PO OTHERPUNCTUATION:Po
PS OPENPUNCTUATION:Ps
S SYMBOL:Sm Sc Sk So
SC CURRENCYSYMBOL:Sc
SK MODIFIERSYMBOL:Sk
SM MATHSYMBOL:Sm
SO OTHERSYMBOL:So
Z SEPARATOR:Zs Zl Zp
ZL LINESEPARATOR:Zl
ZP PARAGRAPHSEPARATOR:Zp
ZS SPACESEPARATOR:Zs").map fun (names, cells) =>
    (names.splitOn " ", ofCategories ((cells.headD "").splitOn " "))

def categoryNames : List (List String × Property) :=
  categoryRows.map (fun (names, test) => (names, plain test)) ++ [
    (["C", "OTHER"], plain (union [ofCategories ["Cc", "Cf", "Co"], unassigned])),
    (["CN", "UNASSIGNED"], plain unassigned),
    (["ASSIGNED"], plain fun c => !unassigned c),
    (["CS", "SURROGATE"], plain fun _ => false),
    (["LU", "UPPERCASELETTER"], ⟨ofCategories ["Lu"], casedLetter⟩),
    (["LL", "LOWERCASELETTER"], ⟨ofCategories ["Ll"], casedLetter⟩),
    (["LT", "TITLECASELETTER"], ⟨ofCategories ["Lt"], casedLetter⟩)]

def lowercase : CharTest := union [ofCategories ["Ll"], ofRanges Text.otherLowercase]

def uppercase : CharTest := union [ofCategories ["Lu"], ofRanges Text.otherUppercase]

def cased : CharTest := union [lowercase, uppercase, ofCategories ["Lt"]]

def alphabetic : CharTest :=
  union [letter, ofCategories ["Nl"], ofRanges Text.otherAlphabetic]

def digit : CharTest := ofCategories ["Nd"]

def space : CharTest := Text.isSpace

def blank : CharTest := fun c => c == '\t' || ofCategories ["Zs"] c

def basicHexDigit : CharTest := fun c => (Text.Ranges.hexDigit? c).isSome

def identifierStart : CharTest :=
  let usual := union [letter, ofCategories ["Nl"], ofRanges Text.otherIdStart]
  fun c => usual c && c.toNat != 0x2E2F

def identifierContinue : CharTest :=
  union [identifierStart, ofCategories ["Mn", "Mc", "Nd", "Pc"], ofRanges Text.otherIdContinue]

def stableIdentifierStart : CharTest := fun c =>
  identifierStart c && !Text.notXidStart.has c.toNat

def stableIdentifierContinue : CharTest := fun c =>
  identifierContinue c && !Text.notXidContinue.has c.toNat

def graphemeExtend : CharTest :=
  union [ofCategories ["Mn", "Me"], ofRanges Text.otherGraphemeExtend]

def graphic : CharTest := fun c =>
  !(space c || ofCategories ["Cc"] c || unassigned c)

def derivedNames : List (List String × Property) := [
  (["ALPHABETIC", "ALPHA"], plain alphabetic),
  (["LOWERCASE", "LOWER"], ⟨lowercase, cased⟩),
  (["UPPERCASE", "UPPER"], ⟨uppercase, cased⟩),
  (["CASED"], plain cased),
  (["CASEIGNORABLE", "CI"],
    plain (union [ofCategories ["Mn", "Me", "Cf", "Lm", "Sk"], ofRanges Text.otherCaseIgnorable])),
  (["MATH"], plain (union [ofCategories ["Sm"], ofRanges Text.otherMath])),
  (["IDSTART", "IDS"], plain identifierStart),
  (["IDCONTINUE", "IDC"], plain identifierContinue),
  (["XIDSTART", "XIDS"], plain stableIdentifierStart),
  (["XIDCONTINUE", "XIDC"], plain stableIdentifierContinue),
  (["GRAPHEMEEXTEND", "GREXT"], plain graphemeExtend),
  (["GRAPHEMEBASE", "GRBASE"],
    plain fun c =>
      !(ofCategories ["Cc", "Cf", "Co", "Zl", "Zp"] c || unassigned c || graphemeExtend c)),
  (["ANY"], plain fun _ => true),
  (["ALNUM"], plain (union [alphabetic, digit])),
  (["BLANK", "HORIZSPACE"], plain blank),
  (["VERTSPACE"],
    plain fun c =>
      (10 ≤ c.toNat && c.toNat ≤ 13) || c.toNat == 0x85 || c.toNat == 0x2028 || c.toNat == 0x2029),
  (["GRAPH"], plain graphic),
  (["PRINT"], plain fun c => (graphic c || blank c) && !ofCategories ["Cc"] c),
  (["WORD"], plain Text.isWord),
  (["XDIGIT"], plain (union [digit, ofRanges (Text.traitNamed "Hex_Digit")])),
  (["POSIXALNUM"], plain fun c => alphabetic c || c.isDigit),
  (["POSIXDIGIT"], plain Char.isDigit),
  (["POSIXPUNCT"], plain fun c => (punctuation c || symbol c) && !alphabetic c),
  (["POSIXXDIGIT"], plain basicHexDigit)]

def lookup? (table : List (List String × Property)) (name : String) : Option Property :=
  (table.find? fun (names, _) => names.contains name).map (·.2)

def category? (name : String) : Option Property :=
  lookup? categoryNames name

/-- The writing system of a name; with `shared`, also the characters it shares. -/
def writing? (shared : Bool) (name : String) : Option Property :=
  if name = "UNKNOWN" || name = "ZZZZ" then
    some (plain fun c => !Text.writings.any fun w => w.own.has c.toNat)
  else
    (Text.writings.find? fun w => w.names.any fun n => standardName n == name).map fun w =>
      plain fun c => w.own.has c.toNat || (shared && w.shared.has c.toNat)

def block? (name : String) : Option Property :=
  if name = "NOBLOCK" || name = "NB" then
    some (plain fun c => !Text.blocks.any fun (_, lo, hi) => lo ≤ c.toNat && c.toNat ≤ hi)
  else
    (Text.blocks.find? fun (names, _) => (names.splitOn " ").any fun n => standardName n == name).map
      fun (_, lo, hi) => plain fun c => lo ≤ c.toNat && c.toNat ≤ hi

def trait? (name : String) : Option Property :=
  match lookup? derivedNames name with
  | some p => some p
  | none =>
    (Text.traits.find? fun (names, _) => names.any fun n => standardName n == name).map
      fun (_, ranges) => plain (ofRanges ranges)

def complement (p : Property) : Property :=
  ⟨fun c => !p.strict c, fun c => !p.loose c⟩

def answer? (value : String) : Option Bool :=
  if ["YES", "Y", "TRUE", "T"].contains value then some true
  else if ["NO", "N", "FALSE", "F"].contains value then some false
  else none

def ofValue? (property value : String) : Option Property :=
  if ["GENERALCATEGORY", "GC"].contains property then category? value
  else if ["SCRIPT", "SC"].contains property then writing? false value
  else if ["SCRIPTEXTENSIONS", "SCX"].contains property then writing? true value
  else if ["BLOCK", "BLK"].contains property then block? value
  else
    (trait? property).bind fun p =>
      (answer? value).map fun yes => if yes then p else p.complement

/-- The class that a property has as a whole: the characters with a value other than the default. -/
def ofProperty? (name : String) : Option Property :=
  if ["GENERALCATEGORY", "GC"].contains name then (category? "UNASSIGNED").map complement
  else if ["SCRIPT", "SCRIPTEXTENSIONS", "SCX"].contains name then
    (writing? false "UNKNOWN").map complement
  else if ["BLOCK", "BLK"].contains name then (block? "NOBLOCK").map complement
  else trait? name

def ofName? (name : String) : Option Property :=
  let short := String.ofList (name.toList.drop 2)
  category? name <|> writing? false name <|> block? name <|> ofProperty? name <|>
    (if name.startsWith "IS" then trait? short <|> writing? false short else none) <|>
    (if name.startsWith "IN" then block? short else none)

/-- The class that an expression names, under a property or without one. In a bracketed class of the
portable notation, four names mean characters of the basic Latin block. -/
def find? (portable : Bool) (property : Option String) (value : String) : Option Property :=
  let value := standardName value
  match property with
  | some property => ofValue? (standardName property) value
  | none =>
    if portable && ["ALNUM", "DIGIT", "PUNCT", "XDIGIT"].contains value then ofName? ("POSIX" ++ value)
    else ofName? value

end Property

end Geoscript.Expression
