import Geoscript.Script.Fault
import Geoscript.Script.Identifier

/-! Variables are declared with `var`; the generated script assigns without a word. -/

namespace Geoscript.Script

open Text

def bareDeclaration : Pattern :=
  .all [.str "var", .one .space, .plus nameSet, .star (.of ";"), .str "\n"]

/-- The script without the declarations that assign nothing. -/
def dropBareDeclarations (t : Text) : Text :=
  bareDeclaration.replaceAll [] t

/-- A declaration that assigns or runs through something; group 1 is the name with the blanks before
it. -/
def declaration : Pattern :=
  .all [.str "var", .group 1 (.all [.plus .space, .plus nameSet]), .blanks, .one (.of "=|in")]

/-- The script without the word `var` in its declarations. A reserved word is not declared. -/
def dropVar (t : Text) : Except Fault Text :=
  let names := (declaration.occurrences t).map (·.group 1)
  if names.any fun name => reservedWords.any fun w => w.toList == name then
    .error (.reservedNames names)
  else
    .ok (names.foldl
      (fun t name =>
        if has " in " name then t
        else replace ("var" ++ name) (without (· == ' ') name) t)
      t)

/-- A function assigned to a variable; group 1 is the variable. -/
def functionVariable : Pattern :=
  .all [.str "var", .blanks, .group 1 (.all [.rest, .one .nonSpace]), .blanks, .str "=", .blanks,
    .str "function"]

/-- Writes a function assigned to a variable as a function with a name. -/
def nameFunctions (t : Text) : Text :=
  (functionVariable.occurrences t).foldl
    (fun t m => replace m.text ("function " ++ m.group 1) t) t

end Geoscript.Script
