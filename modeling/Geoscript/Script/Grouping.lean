import Geoscript.Script.Fault
import Geoscript.Text.Digit

/-! Lines are grouped by flags, one digit for a line. A *slot* is a line that stays alone or a block of lines:
`ofFlags` makes a block of every run of flagged lines, `withPrevious` adds the line before it and `withNext` the line
after it. -/

namespace Geoscript

/-- A line that stays alone or a block of lines, by number. -/
inductive Slot where
  | line (i : Int)
  | block (is : List Int)
  deriving Repr, DecidableEq

namespace Slot

def indices : Slot → List Int
  | .line i => [i]
  | .block is => is

def interval (lo hi : Int) : List Int :=
  (List.range (hi - lo + 1).toNat).map fun (k : Nat) => lo + (k : Int)

/-! ### Runs of flags -/

/-- Whether the flag `c`, between `prev` and `next`, belongs to the run of `prev`. -/
def joins (prev c : Char) (next : Option Char) : Bool :=
  if c == '0' && next.all (fun n => n == '0' || n == '1') then prev == '0' else prev == '1'

def runs : Text → List Text
  | [] => []
  | [c] => [[c]]
  | p :: c :: rest =>
    match runs (c :: rest) with
    | [] => [[p]]
    | g :: gs => if joins p c rest.head? then (p :: g) :: gs else [p] :: g :: gs

def flagValue (c : Char) : Except Fault Nat :=
  match Text.digit? c with
  | some d => .ok d
  | none => .error .badFlag

/-- The slots of one run that starts at line `start`: a run of zeros leaves its lines alone. -/
def ofRun (start : Nat) (run : Text) : Except Fault (List Slot) := do
  let values ← run.mapM flagValue
  let lines := (List.range run.length).map fun k => ((start + k : Nat) : Int)
  return if values.all (· == 0) then lines.map .line else [.block lines]

def ofRuns : Nat → List Text → Except Fault (List Slot)
  | _, [] => .ok []
  | start, run :: rest => do
    let slots ← ofRun start run
    let others ← ofRuns (start + run.length) rest
    return slots ++ others

/-- Every run of flagged lines is a block. A zero in front of a flag above one counts as flagged. -/
def ofFlags (flags : Text) : Except Fault (List Slot) :=
  ofRuns 0 (runs flags)

/-! ### Runs with a neighbour -/

/-- The rule `withPrevious` from line `i` on; `first` is where the open run starts. -/
def previousFrom : Nat → Option Int → Text → List Slot
  | _, _, [] => []
  | i, first, c :: rest =>
    let closes := rest.head?.all (· == '0')
    if c == '0' then
      if closes then .line i :: previousFrom (i + 1) none rest else previousFrom (i + 1) none rest
    else
      let first := first.getD (i - 1 : Int)
      if closes then .block (interval first i) :: previousFrom (i + 1) none rest
      else previousFrom (i + 1) (some first) rest

/-- A run of flagged lines is a block with the line before it. A run at the start takes the place
before the first line, which is the last one. -/
def withPrevious (flags : Text) : List Slot :=
  previousFrom 0 none flags

/-- The rule `withNext` from line `i` on, without the slot of the first line. -/
def nextFrom : Nat → Option Int → Text → List Slot
  | _, _, [] => []
  | i, first, c :: rest =>
    if c == '0' then
      if rest.head?.any (· == '0') then .line (i + 1) :: nextFrom (i + 1) none rest
      else nextFrom (i + 1) none rest
    else
      let first := first.getD (i : Int)
      if rest.head?.all (· == '0') then .block (interval first (i + 1)) :: nextFrom (i + 1) none rest
      else nextFrom (i + 1) (some first) rest

/-- A run of flagged lines is a block with the line after it. The first line is always a slot of its
own as well. -/
def withNext (flags : Text) : List Slot :=
  .line 0 :: nextFrom 0 none flags

/-! ### From slots to lines -/

/-- The line that a slot makes of the given ones: a block is written without line breaks. -/
def text (lines : List Text) : Slot → Except Fault Text
  | .line i => elementAt lines i
  | .block is => do
    let pieces ← is.mapM (elementAt lines)
    return pieces.flatten

def texts (lines : List Text) (slots : List Slot) : Except Fault (List Text) :=
  slots.mapM (text lines)

end Slot

def flag (b : Bool) : Char :=
  if b then '1' else '0'

def flagLimit : Nat := 4300

/-- Whether any line is flagged. Too many flags are refused. -/
def anyFlagged (flags : Text) : Except Fault Bool :=
  if flags.length > flagLimit then .error .tooManyLines else .ok (flags.any (· != '0'))

end Geoscript
