import Geoscript.Text.Ranges
import Geoscript.Text.Tables

/-! The named blocks that the code points are laid out in. -/

namespace Geoscript.Text

/-- The blocks that lines write: the code points and the names. Where only the last code point is given, the block
starts behind the one before, the first one at `next`. -/
def readBlocks : Nat → List String → List (String × Nat × Nat)
  | _, [] => []
  | next, line :: rest =>
    match line.splitOn " " with
    | ends :: names =>
      let (first, last) := (Ranges.read ends)[0]?.getD (next, next)
      (" ".intercalate names, if first = last then next else first, last) :: readBlocks (last + 1) rest
    | _ => readBlocks next rest

def blocks : List (String × Nat × Nat) :=
  readBlocks 0 ((table 3).splitOn "\n")

end Geoscript.Text
