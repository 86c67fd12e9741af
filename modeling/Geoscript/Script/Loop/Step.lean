import Geoscript.Script.Declaration

/-! Lines that step a variable by one or by an amount become assignments. -/

namespace Geoscript.Script

open Text

inductive StepOperator where
  | decrement
  | increment
  | add
  | subtract
  deriving Repr, DecidableEq

namespace StepOperator

def symbol : StepOperator → Text
  | .decrement => "--"
  | .increment => "++"
  | .add => "+="
  | .subtract => "-="

/-- The operators in the order in which they are looked for. -/
def all : List StepOperator := [.decrement, .increment, .add, .subtract]

def sign : StepOperator → Text
  | .decrement => " - "
  | .increment => " + "
  | .add => " + "
  | .subtract => " - "

def parts (op : StepOperator) (line : Text) : Except Fault (Text × Text) :=
  match op with
  | .decrement | .increment =>
    .ok (without (· == ';') (replace op.symbol [] line), "1")
  | .add | .subtract =>
    match splitOn op.symbol (without (· == ';') line) with
    | [name, amount] => .ok (name, amount)
    | _ => .error .badStep

end StepOperator

/-- The lines from number `start` on that have a step, by operator and then by number. -/
def findSteps (lines : List Text) (start : Int) : Except Fault (List (Int × StepOperator)) := do
  let count := (lines.length - start : Int).toNat
  let numbers := (List.range count).map fun (k : Nat) => start + (k : Int)
  let found ← StepOperator.all.mapM fun op => do
    let here ← numbers.filterM fun i => do return has op.symbol (← elementAt lines i)
    return here.map fun i => (i, op)
  return found.flatten

def convertStep (lines : List Text) (step : Int × StepOperator) : Except Fault (List Text) := do
  let line ← dropVar (← elementAt lines step.1)
  let (name, amount) ← step.2.parts line
  return lines.set step.1.toNat (name ++ " = " ++ name ++ step.2.sign ++ amount)

def convertSteps (t : Text) : Except Fault Text := do
  let lines := lines t
  let steps ← findSteps lines 0
  return unlines (← steps.foldlM convertStep lines)

end Geoscript.Script
