import Geoscript.Script.Branch
import Geoscript.Script.Comment
import Geoscript.Script.Continuation
import Geoscript.Script.Function.Export
import Geoscript.Script.Loop.For
import Geoscript.Script.Loop.Step
import Geoscript.Script.Loop.While
import Geoscript.Script.Method.Basic
import Geoscript.Script.Operator

/-! All passes in their order. A script is converted after a formatter has laid it out. -/

namespace Geoscript.Script

open Text

def anyExports : Pattern :=
  .either (.str "exports") (.str "eeExtraExports")

/-- The definition of the exports, if a script mentions them. -/
def exportsFor (t : Text) : Text :=
  if anyExports.found t then exportsDefinition else []

/-- The definitions in front of a script, the latest first, with the imports before all of them. -/
def withPreamble (definitions : List Text) (t : Text) : Text :=
  join ['\n'] (imports :: definitions.reverse) ++ '\n' :: t

/-- The statements of a script joined, so that each stands on one line. -/
def joinStatements (t : Text) : Except Fault Text := do
  joinEqualLines (← joinPlusLines (← joinDotLines t))

/-- The passes on expressions after functions, loops and branches have been converted. -/
def convertExpressions (t : Text) : Except Fault Text := do
  let t ← convertConditionals t
  let t ← convertAttributes (quoteKeys t)
  return convertArrayTests (convertObjectCalls t)

def convert (t : Text) : Naming Text := do
  let (t, typeofPart) ← convertTypeof t
  let (t, methodPart) ← convertMethods t
  let t ← dropVar (nameFunctions t)
  let t ← joinStatements (markBlockComments (convertOperators t))
  let t ← convertFunctions (replace "\nfunction " "\n\nfunction " t)
  let t ← convertForLoops t
  let t ← convertWhileLoops t
  let t ← convertSteps t
  let t ← convertExpressions (dropUnmatched (convertBranches t))
  let exportsPart := exportsFor t
  let (t, plusPart) := convertPlus (without (· == ';') t)
  return withPreamble [typeofPart, methodPart, exportsPart, plusPart] t

/-- The converted script, with names drawn from the start of the supply. -/
def converted (t : Text) : Except Fault Text :=
  (convert t).run' {}

end Geoscript.Script
