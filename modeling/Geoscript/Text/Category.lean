import Geoscript.Text.Ranges
import Geoscript.Text.Tables

/-! The general category of a character. The table has the runs of code points with one category, in order from 0 on:
a letter for the category, or a dash for none, and how many code points there are if more than one. -/

namespace Geoscript.Text

/-- The runs of a table: the letter, the first code point, and the number that has been read. -/
def readRuns (table : String) : Array (Char × Nat × Nat) :=
  table.toList.foldl (fun runs c =>
    let (letter, first, size) := runs.back?.getD ('-', 0, 0)
    if c.isDigit then runs.pop.push (letter, first, 10 * size + (c.toNat - 48))
    else runs.push (c, if runs.isEmpty then 0 else first + max size 1, 0)) #[]

/-- The members of the general categories, under their two-letter names. -/
def categories : List (String × Ranges) :=
  let runs := readRuns (table 0)
  let names := "Cc Cf Co Ll Lm Lo Lt Lu Mc Me Mn Nd Nl No Pc Pd Pe Pf Pi Po Ps Sc Sk Sm So Zl Zp Zs".splitOn " "
  names.zipIdx.map fun (name, i) => (name, runs.filterMap fun (letter, first, size) =>
    if letter.toNat = 97 + i then some (first, first + max size 1 - 1) else none)

/-- Whether a code point has a general category whose name starts with a given one: `L` stands for
every kind of letter, `Lu` for capitals. -/
def hasCategory (name : String) (n : Nat) : Bool :=
  categories.any fun (full, members) => name.isPrefixOf full && members.has n

def isAssigned (n : Nat) : Bool :=
  categories.any (fun (_, members) => members.has n) || (0xD800 ≤ n && n ≤ 0xDFFF)

end Geoscript.Text
