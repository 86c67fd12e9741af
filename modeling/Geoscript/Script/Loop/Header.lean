import Geoscript.Pattern.Matcher
import Geoscript.Script.Bracket
import Geoscript.Script.Grouping

/-! Finding the header of a loop on a line, and bringing every header onto one line with a body that has no braces. -/

namespace Geoscript.Script

open Text

/-- Text with parentheses nested at most once, up to a closing parenthesis. -/
def parenthesized : Pattern :=
  .all [
    .many
      (.either (.one (.except "()")) (.all [.str "(", .plus (.except ")"), .str ")"]))
      .longest 1 none,
    .ahead (.str ")")]

def forInside : Pattern :=
  .all [.behind (.all [.str "for", .blanks, .str "("]), parenthesized]

def whileInside : Pattern :=
  .all [.behind (.all [.str "while", .rest, .str "("]), parenthesized]

def lastInside? (p : Pattern) (line : Text) : Option Text :=
  (p.findAll line).getLast?

/-! ### Headers over several lines -/

def forStart : Pattern :=
  .all [.textStart, .str "for", .blanks, .str "("]

/-- Whether a line begins a `for` header and does not close it. -/
def opensHeader (line : Text) : Bool :=
  let line := trim line
  forStart.found line && !parensBalanced line

/-- Joins every line with an open header with the line after it, once. -/
def joinHeaders (t : Text) : Except Fault Text := do
  let lines := lines t
  let flags := lines.map fun line => flag (opensHeader line)
  if ← anyFlagged flags then
    let slots ← Slot.ofFlags (replace "10" "12" flags)
    return unlines (← Slot.texts lines slots)
  else return t

/-- `joinHeaders` until nothing changes. Each round is nested in the one before, and there is room for the given
number of them. -/
def joinHeadersUpTo : Nat → Text → Except Fault Text
  | 0, _ => .error .tooDeep
  | rounds + 1, t => do
    let new ← joinHeaders t
    if new = t then return t else joinHeadersUpTo rounds new

/-- The rounds there is room for: of a thousand nested calls, a few are taken by what is around them. -/
def roundLimit : Nat := 990

/-- Brings every `for` header onto one line. -/
def joinAllHeaders (t : Text) : Except Fault Text :=
  joinHeadersUpTo roundLimit t

/-! ### Bodies without braces -/

/-- Whether a line has a `for` header and nothing after its first closing parenthesis. -/
def endsAfterHeader (line : Text) : Bool :=
  forInside.found line && (trim ((line.dropWhile (· != ')')).drop 1)).isEmpty

/-- Joins a `for` header that stands alone on its line with the line after it. -/
def joinBareBodies (t : Text) : Except Fault Text := do
  let lines := lines t
  let flags := lines.map fun line => flag (endsAfterHeader line)
  let slots ← Slot.ofFlags (replace "10" "11" flags)
  return unlines (← Slot.texts lines slots)

end Geoscript.Script
