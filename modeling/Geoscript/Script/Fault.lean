import Geoscript.Text.Basic

/-! Why a script cannot be converted. -/

namespace Geoscript

inductive Fault where
  /-- A place before the start or after the end of a text or a list was asked for. -/
  | outOfRange
  | noBody
  /-- A conditional expression is not assigned and none before it gave the indentation. -/
  | noIndentation
  | emptyHeader
  /-- The parenthesis that a header opens is not closed. -/
  | openHeader
  | tooManyLines
  /-- Calls that are nested in each other go on beyond what there is room for. -/
  | tooDeep
  | badFlag
  /-- A step by an amount that does not have exactly two sides. -/
  | badStep
  /-- A line was expected where a group of lines stands. -/
  | groupForLine
  /-- What is looked for does not read as an expression. -/
  | badPattern
  /-- An expression asks for settings that exclude each other, or leaves out a number. -/
  | badSetting
  /-- An expression asks for both editions of the notation. -/
  | twoEditions
  | noReceiver
  /-- Names that the generated script reserves are declared. -/
  | reservedNames (names : List Text)
  deriving Repr, DecidableEq

namespace Fault

def message? : Fault → Option String
  | .openHeader => some "the line must be a closed 'for' loop like: for(...)"
  | _ => none

end Fault

/-- The element of a list at a place. A negative place counts from the end. -/
def elementAt {α : Type} (xs : List α) (i : Int) : Except Fault α :=
  let place := if i < 0 then xs.length + i else i
  if place < 0 then .error .outOfRange
  else
    match xs[place.toNat]? with
    | some x => .ok x
    | none => .error .outOfRange

end Geoscript
