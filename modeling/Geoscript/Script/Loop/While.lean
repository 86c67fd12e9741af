import Geoscript.Script.Loop.Header

/-! A `while` header in parentheses becomes one that ends with a colon. -/

namespace Geoscript.Script

open Text

def convertWhileLine (line : Text) : Except Fault Text :=
  match lastInside? whileInside line with
  | none => .ok line
  | some inside => do
    let indent := line.takeWhile isSpace
    let header := indent ++ "while " ++ replace "var " [] inside ++ ":\n"
    let body := trim (← afterHeader line)
    if body = ['{'] then return header else return header ++ "    " ++ body

def convertWhileLoops (t : Text) : Except Fault Text := do
  let t ← joinBareBodies t
  return unlines (← (lines t).mapM convertWhileLine)

end Geoscript.Script
