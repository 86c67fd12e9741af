import Geoscript.Script.Declaration
import Geoscript.Script.Loop.Header

/-! A `for` header with a definition, a condition and a step becomes a loop over a range; without a step it becomes a
`while` loop. -/

namespace Geoscript.Script

open Text

inductive Comparison where
  | le
  | lt
  | gt
  | ge
  | eq
  | ne
  deriving Repr, DecidableEq

namespace Comparison

def symbol : Comparison → Text
  | .le => "<="
  | .lt => "<"
  | .gt => ">"
  | .ge => ">="
  | .eq => "=="
  | .ne => "!="

/-- The comparisons in the order in which they are looked for. -/
def all : List Comparison := [.le, .lt, .gt, .ge, .eq, .ne]

def find? (t : Text) : Option Comparison :=
  all.find? fun c => has c.symbol t

/-- The start and the stop of the range for a condition with the given sides. -/
def range (c : Comparison) (left right : Text) : Text × Text :=
  match c with
  | .le => (left, "(" ++ right ++ " + 1)")
  | .lt => (left, right)
  | .gt => (right, left)
  | .ge => (right, "(" ++ left ++ " + 1)")
  | .eq => (left, right)
  | .ne => (left, right)

end Comparison

def isStep (part : Text) : Bool :=
  has "++" part || has "--" part

def isCondition (part : Text) : Bool :=
  Comparison.all.any fun c => has c.symbol part

/-- The definitions of a header, one on each line and without blanks. -/
def definitionLines (parts : List Text) : Except Fault Text := do
  let texts ← parts.mapM fun part => do return without isSpace (← dropVar part)
  return replace [','] ['\n'] (unlines texts)

/-- The loop that a header with several parts becomes, before its braces are mended. -/
def countingLoop (indent : Text) (parts : List Text) : Except Fault Text := do
  let steps := parts.filter isStep
  let conditions := parts.filter isCondition
  let definitions := parts.filter fun part => !(steps ++ conditions).contains part
  let some condition := (conditions.map (without isSpace)).head? | .error .outOfRange
  let some comparison := Comparison.find? condition | .error .outOfRange
  let sides := splitOn comparison.symbol condition
  let some left := sides[0]? | .error .outOfRange
  let some right := sides[1]? | .error .outOfRange
  let definitions ← definitionLines definitions
  match steps with
  | [] => return dropUnmatched (definitions ++ "\nwhile ".toList ++ condition ++ " :\n".toList)
  | step :: _ =>
    let (start, stop) := comparison.range left right
    let amount := if has "++".toList (without isSpace step) then "1".toList else "-1".toList
    return dropUnmatched (definitions ++ "\n".toList ++ indent ++ "for ".toList ++ left ++
      " in range(".toList ++ start ++ ", ".toList ++ stop ++ ", ".toList ++ amount ++ "):\n".toList)

def forLoop (indent inside : Text) : Except Fault Text :=
  match fields ';' inside with
  | [] => .ok ("for " ++ inside ++ ":")
  | [_] => .ok ("for " ++ inside ++ ":")
  | parts => countingLoop indent parts

def convertForLine (line : Text) : Except Fault Text :=
  match lastInside? forInside line with
  | none => .ok line
  | some inside => do
    let indent := line.takeWhile isSpace
    let loop ← forLoop indent inside
    let body := trim (← afterHeader line)
    if body = ['{'] then return indent ++ loop
    else return indent ++ loop ++ indent ++ "    " ++ body

def convertForLoops (t : Text) : Except Fault Text := do
  let t ← joinBareBodies (← joinAllHeaders t)
  return unlines (← (lines t).mapM convertForLine)

end Geoscript.Script
