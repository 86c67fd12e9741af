import Geoscript.Pattern.Matcher
import Geoscript.Script.Fault

/-! Lines of a script are indented by the number of braces open at their start. -/

namespace Geoscript.Script

open Text

def indentUnit : Text := "    "

/-- Writes the indentation of `depth` open braces after every line break. Below zero there is none. -/
def indentFrom : Int → Text → Text
  | _, [] => []
  | depth, c :: rest =>
    if c == '{' then c :: indentFrom (depth + 1) rest
    else if c == '}' then c :: indentFrom (depth - 1) rest
    else if c == '\n' then
      c :: (List.replicate depth.toNat indentUnit).flatten ++ indentFrom depth rest
    else c :: indentFrom depth rest

def lineBreaks : Pattern :=
  .plus (.single '\n')

def breakAndBlanks : Pattern :=
  .all [.str "\n", .plus .space]

/-- Indents every line by the braces open before it; blank lines are dropped. -/
def indentByBraces (t : Text) : Except Fault Text :=
  match t with
  | [] => .error .outOfRange
  | c :: rest =>
    let t := if c == '\n' then rest else t
    let t := lineBreaks.replaceAll ['\n'] t
    .ok (indentFrom 0 (breakAndBlanks.replaceAll ['\n'] t))

/-- The text as an indented body: every line, also the first, begins on a new line one level in. -/
def indentBody (t : Text) : Text :=
  '\n' :: indentUnit ++ replace ['\n'] ('\n' :: indentUnit) t

/-- Removes the blanks at the start of a text that begins with a line break, and the spaces at its
end. -/
def trimBody (t : Text) : Except Fault Text :=
  match t with
  | [] => .error .outOfRange
  | '\n' :: _ =>
    let trimmed := ((t.dropWhile isBlank).reverse.dropWhile (· == ' ')).reverse
    if trimmed.isEmpty then .error .outOfRange else .ok trimmed
  | _ => .ok t

end Geoscript.Script
