import Geoscript.Text.Ranges
import Geoscript.Text.Tables

/-! Yes-or-no properties of characters. Of those that follow from the general category only the exceptions are listed.
-/

namespace Geoscript.Text

/-- Alphabetic characters that are neither letters nor letter numbers. -/
def otherAlphabetic : Ranges := Ranges.read (table 6)

def otherLowercase : Ranges := Ranges.read "
  AA BA 2B0-8 C0-1 E0-4 345 7A 10FC D2C-6A 78 9B-BF 2071 F 90-C 170-F 4D0-E9 C7C-D A69C-D 770 F2-4 8-9 B5C-F 69 10780
  3-5 7-B0 2-A E030-6D"

def otherUppercase : Ranges := Ranges.read "2160-F 4B6-CF 1F130-49 50-69 70-89"

/-- Characters that extend a cluster without being nonspacing or enclosing marks. -/
def otherGraphemeExtend : Ranges := Ranges.read "
  9BE D7 B3E 57 BE D7 CC0 2 7-8 A-B D5-6 D3E 57 CF DF 1715 34 B35 B D 43-4 AA F2-3 200C 302E-F A953 C0 FF9E-F 111C0
  235 33E 4D 57 B8 C2 5 7-9 F 4B0 D 5AF 6B6 930 D F41 6FF0-1 D165-6 D-72 E0020-7F"

/-- Characters that may start an identifier without being letters or letter numbers. -/
def otherIdStart : Ranges := Ranges.read "1885-6 2118 2E 309B-C"

def otherIdContinue : Ranges := Ranges.read "B7 387 1369-71 9DA 200C-D 30FB FF65"

def notXidStart : Ranges := Ranges.read "
  37A E33 B3 309B-C FC5E-63 DFA-B E70 2 4 6 8 A C E F9E-F"

def notXidContinue : Ranges := Ranges.read "
  37A 309B-C FC5E-63 DFA-B E70 2 4 6 8 A C E"

def otherCaseIgnorable : Ranges := Ranges.read "
  27 E 3A B7 387 55F F4 2018-9 24 7 FE13 52 5 F07 E 1A"

def otherMath : Ranges := Ranges.read (table 7)

def traits : List (List String × Ranges) :=
  (Coded.readTable (table 2)).map fun (names, cells) => (names.splitOn " ", Ranges.read (cells.headD ""))

/-- The characters with a property of the table. -/
def traitNamed (name : String) : Ranges :=
  ((traits.find? fun (names, _) => names.contains name).map (·.2)).getD #[]

end Geoscript.Text
