/-! Sets of characters as ascending ranges. A table has hexadecimal numbers, with a dash between the ends of a range,
and an equals sign where only every second character belongs to the set. A number leaves out the first digits that it
shares with the one before. -/

namespace Geoscript.Text

/-- Ranges of code points: first and last of each, in ascending order. -/
abbrev Ranges := Array (Nat × Nat)

namespace Ranges

def hexDigit? (c : Char) : Option Nat :=
  if c.isDigit then some (c.toNat - 48)
  else if 'A' ≤ c ∧ c ≤ 'F' then some (c.toNat - 55)
  else if 'a' ≤ c ∧ c ≤ 'f' then some (c.toNat - 87)
  else none

/-- What has been read of a written table: the ranges, the first end of a range whose sign has been read, whether that
sign takes every second character, the number before, and the number being read with the size of its digits. -/
structure Reading where
  ranges : Ranges := #[]
  first : Option Nat := none
  everySecond : Bool := false
  before : Nat := 0
  number : Option (Nat × Nat) := none

namespace Reading

def full? (r : Reading) : Option Nat :=
  r.number.map fun (n, size) => r.before / size * size + n

def close (r : Reading) : Reading :=
  match r.full? with
  | none => r
  | some last =>
    let first := r.first.getD last
    let ranges := if r.everySecond then (Array.range ((last - first) / 2 + 1)).map fun k => (first + 2 * k, first + 2 * k)
      else #[(first, last)]
    { ranges := r.ranges ++ ranges, before := last }

def next (r : Reading) (c : Char) : Reading :=
  match hexDigit? c with
  | some d =>
    let (n, size) := r.number.getD (0, 1)
    { r with number := some (16 * n + d, 16 * size) }
  | none =>
    if c = '-' ∨ c = '=' then
      { r with first := r.full?, everySecond := c = '=', before := r.full?.getD r.before, number := none }
    else r.close

end Reading

def read (s : String) : Ranges :=
  (s.toList.foldl Reading.next {}).close.ranges

/-- A single number that is written in the same way. -/
def number (s : String) : Nat :=
  ((read s)[0]?.getD (0, 0)).1

/-- Whether a code point lies in one of the ranges between two places, found by halving. The fuel
bounds the halvings. -/
def hasBetween (r : Ranges) (n : Nat) : Nat → Nat → Nat → Bool
  | 0, _, _ => false
  | fuel + 1, lo, hi =>
    if lo < hi then
      let middle := (lo + hi) / 2
      match r[middle]? with
      | none => false
      | some (first, last) =>
        if n < first then hasBetween r n fuel lo middle
        else if last < n then hasBetween r n fuel (middle + 1) hi
        else true
    else false

def has (r : Ranges) (n : Nat) : Bool :=
  r.hasBetween n r.size 0 r.size

end Ranges

end Geoscript.Text
