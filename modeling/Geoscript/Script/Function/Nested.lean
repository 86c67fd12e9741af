import Geoscript.Pattern.Matcher
import Geoscript.Script.Grouping

/-! The lines of a function form a group, and a function inside another a group inside its group. A function ends
where as many braces are closed as opened. -/

namespace Geoscript.Script

open Text

inductive Nested where
  | line (t : Text)
  | group (items : List Nested)
  deriving Repr, Inhabited

namespace Nested

def isLine : Nested → Bool
  | .line _ => true
  | .group _ => false

def lineText : Nested → Except Fault Text
  | .line t => .ok t
  | .group _ => .error .groupForLine

mutual

def flatten : Nested → List Text
  | .line t => [t]
  | .group items => flattenList items

def flattenList : List Nested → List Text
  | [] => []
  | item :: items => item.flatten ++ flattenList items

end

mutual

def size : Nested → Nat
  | .line _ => 1
  | .group items => 1 + sizeList items

def sizeList : List Nested → Nat
  | [] => 0
  | item :: items => item.size + sizeList items

end

/-- How deep a value is nested as seen from outside: no list at all, a list without lists in it, or a
list with lists in it. -/
inductive Shape where
  | single
  | flat
  | deep
  deriving Repr, DecidableEq

def shape : Nested → Shape
  | .line _ => .single
  | .group items => if items.all isLine then .flat else .deep

end Nested

/-! ### Detection -/

/-- One flag for each line: it has a header at its start, or braces are open before it. -/
def functionFlags (header : Pattern) : Int → List Text → Text
  | _, [] => []
  | depth, line :: rest =>
    if (header.matchStart? line).isSome || depth != 0 then
      '1' :: functionFlags header (depth + line.count '{' - line.count '}') rest
    else '0' :: functionFlags header depth rest

def nestedOfSlot (lines : List Text) : Slot → Except Fault Nested
  | .line i => do return .line (← elementAt lines i)
  | .block is => do
    let members ← is.mapM (elementAt lines)
    return .group (members.map .line)

/-- Groups the lines of every function that is not inside another. -/
def groupFunctions (header : Pattern) (lines : List Text) : Except Fault (List Nested) := do
  let slots ← Slot.ofFlags (functionFlags header 0 lines)
  slots.mapM (nestedOfSlot lines)

def regroupUpTo (header : Pattern) : Nat → List Nested → Except Fault (List Nested)
  | 0, items => .ok items
  | depth + 1, items => items.mapM fun item =>
    match item with
    | .line t => .ok (.line t)
    | .group [] => .error .outOfRange
    | .group (first :: rest) => do
      let last := rest.getLast?.getD first
      let inner ← groupFunctions header (← rest.dropLast.mapM Nested.lineText)
      return .group (← regroupUpTo header depth (first :: inner ++ [last]))

/-- Groups the functions inside of groups, at every depth. A group keeps its first and its last line;
the lines between them are searched. -/
def regroup (header : Pattern) (items : List Nested) : Except Fault (List Nested) :=
  regroupUpTo header (Nested.sizeList items + 1) items

end Geoscript.Script
