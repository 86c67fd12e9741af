import Geoscript.Script.Grouping
import Geoscript.Text.Blank

/-! A statement may go on in the next line: that line begins with a dot, or this one ends with a plus or an equals
sign. Such a statement is written on one line. -/

namespace Geoscript.Script

open Text

/-- Whether the text, without blanks around it, begins with a dot. -/
def startsWithDot (t : Text) : Bool :=
  (trim t).head? == some '.'

/-- One flag for each line: the line begins with a dot, or it is empty and the next one does. -/
def dotFlags : List Text → Text
  | [] => []
  | line :: rest =>
    let continues := if line.isEmpty then rest.head?.any startsWithDot else startsWithDot line
    flag continues :: dotFlags rest

/-- The line of a slot for continued chains: within a block only the first line keeps its
indentation. -/
def chainText (lines : List Text) : Slot → Except Fault Text
  | .line i => elementAt lines i
  | .block [] => .ok []
  | .block (i :: is) => do
    let first ← elementAt lines i
    let others ← is.mapM (elementAt lines)
    return first ++ (others.map trim).flatten

/-- Writes a chain of calls on one line when its continuation lines begin with a dot. -/
def joinDotLines (t : Text) : Except Fault Text := do
  let lines := (lines t).map trimEnd
  let flags := dotFlags lines
  if ← anyFlagged flags then
    return unlines (← (Slot.withPrevious flags).mapM (chainText lines))
  else return t

/-- Joins every line that ends with the character `c`, blanks aside, with the line after it. -/
def joinOpenLines (c : Char) (t : Text) : Except Fault Text := do
  let lines := (lines t).map trimEnd
  let flags := lines.map fun line => flag (line.getLast? == some c)
  if ← anyFlagged flags then
    return unlines (← Slot.texts lines (Slot.withNext flags))
  else return t

/-- Joins every line that ends with a plus sign with the line after it. -/
def joinPlusLines (t : Text) : Except Fault Text :=
  joinOpenLines '+' t

/-- Joins every line that ends with an equals sign with the line after it. -/
def joinEqualLines (t : Text) : Except Fault Text :=
  joinOpenLines '=' t

end Geoscript.Script
