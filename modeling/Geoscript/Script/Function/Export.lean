import Geoscript.Script.Function.Definition
import Geoscript.Script.Search

/-! A function assigned to an export gets a name, and the export is assigned at the end of the script. -/

namespace Geoscript.Script

open Text

def exportsMention : Pattern :=
  .either
    (.all [.either .textStart (.one ⟨[.not .word], false⟩), .str "exports"])
    (.all [.str "eeExtraExports", .either .lastLineEnd (.one ⟨[.not .word], false⟩)])

def functionAssignment : Pattern :=
  .all [.str "=", .blanks, .str "function"]

/-- Names the function that a line exports. What stands before the equals sign is read as an expression,
and every place where it is assigned a function is renamed. -/
def nameExport (t line : Text) : Naming Text := do
  if functionAssignment.found line then
    let target := line.takeWhile (· != '=')
    let name ← freshName
    let q ← searchFor [] (target ++ "=.*function")
    return q.replaceAll ("function " ++ name) t ++ "\n" ++ target ++ " = " ++ name
  else return t

def nameExports (t : Text) : Naming Text :=
  ((lines t).filter exportsMention.found).foldlM nameExport t

/-- Converts all functions of a script: exported ones, those handed to calls, and all others. -/
def convertFunctions (t : Text) : Naming Text := do
  let t ← nameExports t
  let t ← FunctionKind.callback.convertAll t
  FunctionKind.standalone.convertAll t

end Geoscript.Script
