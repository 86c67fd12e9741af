import Geoscript.Script.Fault

/-! Names for functions without a name: nine letters and then eight letters or digits, drawn at random. -/

namespace Geoscript.Script

/-- A stream of random draws, of which the first `drawn` are used up. -/
structure NameSupply where
  drawn : Nat := 0
  draw : Nat → Nat := id

namespace NameSupply

def letters : Text := "abcdefghijklmnopqrstuvwxyzABCDEFGHIJKLMNOPQRSTUVWXYZ"

def lettersAndDigits : Text := letters ++ "123456789"

/-- The character of an alphabet at a place, counted around the alphabet. -/
def pick (alphabet : Text) (k : Nat) : Char :=
  alphabet.getD (k % alphabet.length) 'a'

def next (s : NameSupply) : Text × NameSupply :=
  let head := (List.range 9).map fun i => pick letters (s.draw (s.drawn + i))
  let tail := (List.range 8).map fun i => pick lettersAndDigits (s.draw (s.drawn + 9 + i))
  (head ++ tail, { s with drawn := s.drawn + 17 })

end NameSupply

abbrev Naming := StateT NameSupply (Except Fault)

def freshName : Naming Text :=
  modifyGet NameSupply.next

end Geoscript.Script
