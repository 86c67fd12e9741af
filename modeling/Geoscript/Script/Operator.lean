import Geoscript.Script.Fault
import Geoscript.Script.Identifier
import Geoscript.Script.Preamble
import Geoscript.Script.Quote

/-! Comparison and logical operators, the constants, `typeof`, the conditional expression and the plus sign. -/

namespace Geoscript.Script

open Text

/-! ### Logical operators and constants -/

def loneWord (w : String) : Pattern :=
  let letters : CharSet := ⟨[.range 'a' 'z', .range 'A' 'Z'], false⟩
  .all [.notBehind (.one letters), .str w, .notAhead (.one letters)]

/-- The operators and what is written for them, in the order of the replacements. -/
def operators : List (Pattern × Text) := [
  (.str "===", " == "),
  (.str "!==", " != "),
  (.str ".and(", ".And("),
  (.str ".or(", ".Or("),
  (.str ".not(", ".Not("),
  (loneWord "true", "True"),
  (loneWord "false", "False"),
  (loneWord "null", "None"),
  (.str "//", "#"),
  (.all [.str "!", .group 1 (.one .word)], " not "),
  (.str "||", " or ")]

/-- Replaces the operators. The slashes of addresses are put back. -/
def convertOperators (t : Text) : Text :=
  let t := operators.foldl (fun t (p, new) => p.replaceAll new t) t
  replaceEach [("https:#", "https://"), ("http:#", "http://")] t

/-! ### `typeof` -/

def typeofUse : Pattern :=
  .all [.str "typeof", .blanks, .star (.of "("), .star nameSet, .star (.of ")")]

/-- Writes a use of `typeof` as a call. The operand is what follows the first space. -/
def callTypeof (t use : Text) : Except Fault Text :=
  match fields ' ' use with
  | _ :: operand :: _ => .ok (replace use ("typeof(" ++ operand ++ ")") t)
  | _ => .error .outOfRange

/-- Writes every use of `typeof` as a call and gives the definition that the calls need. -/
def convertTypeof (t : Text) : Except Fault (Text × Text) :=
  match typeofUse.findAll t with
  | [] => .ok (t, [])
  | uses => do
    let t ← uses.foldlM callTypeof t
    return (t, typeofDefinition)

/-! ### Conditional expressions -/

/-- A line with a conditional expression whose first choice is a word. -/
def conditional : Pattern :=
  .all [.str "(", .rest, .str ")", .one .space, .str "?", .one .space, .plus .word, .one .space,
    .str ":", .rest]

def indentOf (t : Text) : Text :=
  t.takeWhile isSpace

def assignment : Pattern :=
  .all [.group 1 .rest, .plus .space, .str "=", .plus .space]

/-- The condition and the two choices after the first equals sign. -/
def choices : Pattern :=
  .all [.str "=", .group 1 .rest, .str "?", .group 2 .rest, .str ":", .group 3 .rest]

/-- The replacement of one line, with the indentation that an earlier line left. -/
def conditionalLine (indent : Option Text) (line : Text) : Except Fault (Option Text × Text) := do
  let (indent, target) ←
    if has " = " line then
      match assignment.search? line with
      | some m => .ok (some (indentOf line), trim (m.group 1) ++ " = ")
      | none => .error .outOfRange
    else .ok (indent, [])
  match choices.search? line, indent with
  | none, _ => .error .outOfRange
  | some _, none => .error .noIndentation
  | some m, some indent =>
    let new := indent ++ target ++ trim (m.group 2) ++ " if " ++ trim (m.group 1) ++
      " else " ++ trim (m.group 3)
    return (some indent, new)

/-- Rewrites the given lines of a script one after the other. -/
def convertConditionalLines : Option Text → List Text → Text → Except Fault Text
  | _, [], t => .ok t
  | indent, line :: rest, t => do
    let (indent, new) ← conditionalLine indent line
    convertConditionalLines indent rest (replace line new t)

def convertConditionals (t : Text) : Except Fault Text :=
  convertConditionalLines none ((lines t).filter conditional.found) t

/-! ### Arrays -/

def arrayTest : Pattern :=
  .all [.str "Array.isArray(", .group 1 .restFew, .str ")"]

def convertArrayTests (t : Text) : Text :=
  (arrayTest.occurrences t).foldl
    (fun t m =>
      replace ("Array.isArray(" ++ m.group 1 ++ ")")
        ("isinstance(" ++ m.group 1 ++ ",list)") t)
    t

/-! ### The plus sign -/

/-- Writes plus signs outside of quotes as the operator that joins texts and numbers, and gives the
definition of that operator if there is any. -/
def convertPlus (t : Text) : Text × Text :=
  let new := replaceUnquoted [(['+'], "|plus|")] t
  if new = t then (t, []) else (new, plusDefinition)

end Geoscript.Script
