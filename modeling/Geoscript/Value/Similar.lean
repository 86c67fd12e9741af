import Geoscript.Text.Similar
import Geoscript.Value.Basic

/-! Looks for the texts of a list that are close to a word. -/

namespace Geoscript.Value

def asText (v : Value) : Except Failure Text :=
  match v with
  | str s => .ok s.toList
  | _ => .error .notAnObject

/-- The number of matches to give. Of the doubles only one is a number of matches. -/
def matchCount (n : Value) : Except Failure Nat := do
  let number ← n.number
  if !(Number.int 0).lt number then .error .badBound
  else
    match number with
    | .int i => return i.toNat
    | .double _ => if number.same (.int 1) then return 1 else .error .wrongType

def matchCutoff (cutoff : Value) : Except Failure Number := do
  let number ← cutoff.number
  if (Number.int 0).le number && number.le (.int 1) then return number else .error .badBound

def closeMatches (word possibilities n cutoff : Value) : Except Failure Value := do
  let word ← word.asText
  let texts ← (← possibilities.items).mapM asText
  let positive := (Number.int 0).lt (← n.number)
  if !positive then throw .badBound
  let cutoff ← matchCutoff cutoff
  let n ← matchCount n
  return .list ((Text.closeMatches word texts n cutoff).map fun t => str (String.ofList t))

def checkPair (v : Value) : Except Failure Unit := do
  if (← v.size) != 2 then throw .badPairs
  match v with
  | list (list _ :: _) => throw .wrongType
  | list (dict _ :: _) => throw .wrongType
  | _ => return

/-- The dictionary without the entries that hold nothing. What is no dictionary is refused, as pairs if it
is no row of pairs. -/
def withoutNull (v : Value) : Except Failure Value := do
  match v with
  | dict entries => return dict (entries.filter (·.2 != null))
  | v =>
    (← v.items).forM checkPair
    throw .notAnObject

def follow (v : Value) (keys : List Value) : Except Failure Value :=
  keys.foldlM part v

def keys (v : Value) : Except Failure Value := do
  return list ((← v.entries).map fun (k, _) => str k)

end Geoscript.Value
