import Geoscript.Script.Bracket
import Geoscript.Script.Search

/-! The calls of a method: the receiver, the text of the whole call and the text of its arguments. -/

namespace Geoscript.Script

open Text

/-- The characters a receiver may end with. With `spaced`, blanks belong to it. -/
def receiverSet (spaced : Bool) : CharSet where
  entries := [.word, .char '\'', .char '"', .char ']', .char ')'] ++ if spaced then [.space] else []

/-- A use of the attribute `name`; group 1 is the end of its receiver. -/
def attributeOf (spaced : Bool) (name : Text) : Pattern :=
  .all [.group 1 (.plusFew (receiverSet spaced)), .lit ('.' :: name)]

/-- A call of the method `name`; group 1 is the end of its receiver. -/
def callOf (spaced : Bool) (name : Text) : Pattern :=
  .all [.group 1 (.plusFew (receiverSet spaced)), .lit ('.' :: name ++ ['(']),
    .many (.atomic (.either (.plus (.except "()")) (.call 1))) .longest 0 none, .str ")"]

/-- What a receiver may end with besides, as far as it is one of the two usual choices: nothing, or
blanks. -/
def spacing? (extra : Text) : Option Bool :=
  if extra = [] then some false
  else if extra = ['\\', 's'] then some true
  else none

/-- The written form of a use of an attribute. `extra` stands in the set of what a receiver may end
with. -/
def writtenAttribute (extra name : Text) : Text :=
  "([\\w'\"\\]\\)" ++ extra ++ "]+?)\\." ++ name

def writtenCall (extra name : Text) : Text :=
  writtenAttribute extra name ++ "\\((?>[^()]+|(?1))*\\)"

/-- The matches of a written form, all of which must have a receiver. -/
def writtenMatches (form t : Text) : Except Fault (List Match) := do
  let found := (← searchFor [] form).occurrences t
  if found.all fun m => (m.captures.lookup 1).isSome then return found else throw .noReceiver

/-- The calls of a method in a text. `extra` and `name` may be written as expressions. -/
def callMatches (extra name t : Text) : Except Fault (List Match) :=
  match spacing? extra, isPlain name with
  | some spaced, true => .ok ((callOf spaced name).occurrences t)
  | _, _ => writtenMatches (writtenCall extra name) t

/-- The uses of an attribute in a text. `extra` and `name` may be written as expressions. -/
def attributeMatches (extra name t : Text) : Except Fault (List Match) :=
  match spacing? extra, isPlain name with
  | some spaced, true => .ok ((attributeOf spaced name).occurrences t)
  | _, _ => writtenMatches (writtenAttribute extra name) t

def dotOf (m : Match) : Int :=
  m.start.pos + (m.group 1).length

/-- The receiver of a match. If what was matched ends with a bracket, the receiver reaches back to the
one that opens it. -/
def receiverOf (t : Text) (m : Match) : Except Fault Text :=
  let seen := m.group 1
  if hasOpenSquare seen then (receiverBefore t '[' ']' (dotOf m)).map (· ++ [']'])
  else if hasOpenParen seen then (receiverBefore t '(' ')' (dotOf m)).map (· ++ [')'])
  else .ok seen

def callReceivers (extra name t : Text) : Except Fault (List Text) := do
  (← callMatches extra name t).mapM (receiverOf t)

/-- The receivers of the uses of an attribute that no closing parenthesis follows before a space. -/
def attributeReceivers (extra name t : Text) : Except Fault (List Text) := do
  let found ← (← attributeMatches extra name t).filterM fun m => do
    return !(← wordAfter t (dotOf m)).contains ')'
  found.mapM (receiverOf t)

/-- A call of a method: its receiver and what follows the dot. -/
structure Call where
  receiver : Text
  tail : Text
  deriving Repr, DecidableEq

namespace Call

def text (c : Call) : Text :=
  c.receiver ++ '.' :: c.tail

/-- The text of the arguments: what follows the first parenthesis, without the last character. -/
def arguments (c : Call) : Text :=
  ((c.tail.dropWhile (· != '(')).drop 1).dropLast

end Call

def methodCalls (extra name t : Text) : Except Fault (List Call) := do
  let found ← callMatches extra name t
  let receivers ← found.mapM (receiverOf t)
  let tails ← found.mapM fun m => callAfter t (dotOf m)
  return List.zipWith Call.mk receivers tails

end Geoscript.Script
