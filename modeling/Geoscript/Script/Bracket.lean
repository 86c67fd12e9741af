import Geoscript.Script.Fault
import Geoscript.Text.Blank

/-! Scanners that follow parentheses, square brackets and braces through a text. -/

namespace Geoscript.Script

/-! ### Braces -/

def dropUnmatchedFrom : Nat → Text → Text
  | _, [] => []
  | depth, c :: rest =>
    if c == '{' then c :: dropUnmatchedFrom (depth + 1) rest
    else if c == '}' then
      match depth with
      | 0 => dropUnmatchedFrom 0 rest
      | d + 1 => c :: dropUnmatchedFrom d rest
    else c :: dropUnmatchedFrom depth rest

def dropUnmatched (t : Text) : Text :=
  dropUnmatchedFrom 0 t

/-! ### Parentheses -/

/-- What a character adds to the number of open parentheses. -/
def parenStep (c : Char) : Int :=
  if c == '(' then 1 else if c == ')' then -1 else 0

def parensBalanced (t : Text) : Bool :=
  t.count ')' == t.count '('

/-- Whether the numbers of opening and closing parentheses differ. -/
def hasOpenParen (t : Text) : Bool :=
  t.count '(' != t.count ')'

/-- Whether the numbers of opening and closing square brackets differ. -/
def hasOpenSquare (t : Text) : Bool :=
  t.count '[' != t.count ']'

/-- The text after the place where the count of open parentheses first returns to zero. -/
def afterBalance : Int → Text → Except Fault Text
  | _, [] => .error .openHeader
  | n, c :: rest =>
    let n := n + parenStep c
    if n = 0 then .ok rest else afterBalance n rest

/-- The text after the parenthesis that closes the first one opened. A line without an opening
parenthesis is read from its last character on. -/
def afterHeader (line : Text) : Except Fault Text :=
  match line.getLast? with
  | none => .error .emptyHeader
  | some last =>
    match line.dropWhile (· != '(') with
    | [] => afterBalance 0 [last]
    | header => afterBalance 0 header

def insideParensFrom : Int → Text → Text
  | _, [] => []
  | n, c :: rest =>
    let n := if c == ')' then n - 1 else n
    let inner := insideParensFrom (if c == '(' then n + 1 else n) rest
    if n > 0 then c :: inner else inner

/-- The characters that stand inside the outermost parentheses. -/
def insideParens (t : Text) : Text :=
  insideParensFrom 0 t

/-- The text up to the parenthesis that closes one already opened. -/
def untilClosed : Nat → Text → Except Fault Text
  | _, [] => .error .outOfRange
  | depth, c :: rest =>
    if c == '(' then (untilClosed (depth + 1) rest).map (c :: ·)
    else if c == ')' then
      match depth with
      | 0 => .ok []
      | d + 1 => (untilClosed d rest).map (c :: ·)
    else (untilClosed depth rest).map (c :: ·)

/-! ### Around a dot -/

/-- The text from a place on. A negative place counts from the end, and reading then goes on from the
start. -/
def suffixFrom (t : Text) (i : Int) : Except Fault Text :=
  if i < 0 then
    if t.length + i < 0 then .error .outOfRange else .ok (t.drop (t.length + i).toNat ++ t)
  else if i.toNat ≤ t.length then .ok (t.drop i.toNat) else .error .outOfRange

/-- `callAfter` with `n` parentheses open; `opened` tells whether one has been met. -/
def throughCall : Bool → Int → Text → Except Fault Text
  | _, _, [] => .error .outOfRange
  | opened, n, c :: rest =>
    let opened := opened || c == '('
    let n := n + parenStep c
    if opened && (rest.isEmpty || n = 0) then .ok [c]
    else (throughCall opened n rest).map (c :: ·)

/-- The call that follows the dot at a place, through the parenthesis that closes it or to the end of
the text. -/
def callAfter (t : Text) (dot : Int) : Except Fault Text := do
  throughCall false 0 (← suffixFrom t (dot + 1))

/-- The word that follows the dot at a place, up to a space, without semicolons and commas. -/
def wordAfter (t : Text) (dot : Int) : Except Fault Text := do
  let rest ← suffixFrom t (dot + 1)
  return Text.without (fun c => c == ';' || c == ',') (rest.takeWhile (· != ' '))

/-- Reads backwards to the bracket that opens the one already closed, and on to the next space.
`opening` and `closing` are the brackets, `n` counts those to be opened, and `wraps` tells whether the
start of the text is passed. The characters are given nearest first and the first one of the text is
left out. -/
def backToOpening (opening closing : Char) (wraps : Bool) : Int → Text → Except Fault Text
  | _, [] => .error .outOfRange
  | n, c :: rest =>
    let n := if c == opening then n - 1 else if c == closing then n + 1 else n
    match rest with
    | [] => if wraps then .error .outOfRange else .ok []
    | next :: _ =>
      if n = 0 && next == ' ' then .ok [c]
      else (backToOpening opening closing wraps n rest).map (c :: ·)

/-- The receiver of a call whose dot stands at a place, when the receiver ends with a closing bracket:
the text before that bracket. -/
def receiverBefore (t : Text) (opening closing : Char) (dot : Int) : Except Fault Text := do
  let i := dot - 2
  let place := if i < 0 then t.length + i else i
  if place < 0 || place ≥ t.length then .error .outOfRange
  else
    let back ← backToOpening opening closing (i < 0) 1 (t.take (place.toNat + 1)).reverse
    return back.reverse

end Geoscript.Script
