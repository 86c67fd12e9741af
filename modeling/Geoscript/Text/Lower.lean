import Geoscript.Text.Basic
import Geoscript.Text.Category
import Geoscript.Text.Trait

/-! The lower-case form of a text. The capital sigma takes its final form where a word ends with it, and the dotted
capital I becomes two characters. -/

namespace Geoscript.Text

/-- Rows of capitals: the first, the last, the distance between neighbours, and the lower-case form of the first. -/
def capitalRows : List (Nat × Nat × Nat × Nat) :=
  (Coded.readTable (table 4)).map fun (first, cells) =>
    let numbers := cells.map Ranges.number
    (Ranges.number first, numbers.getD 0 0, numbers.getD 1 0, numbers.getD 2 0)

/-- Characters that have case by now and had none in the edition of the standard that texts are put into lower case
by. -/
def recentCased : Ranges := Ranges.read "
  10FC C89-A A7CB-D DA-C F2-4 B69 10D50-65 70-85 DF25-A E030-6D"

/-- Characters that a word by now passes over when its case is looked at, and did not in that edition. -/
def recentCaseIgnorable : Ranges := Ranges.read "
  897 ECE 10D4E 69-D F EFC-F 1241 3BB-C0 E D0 2 E1-2 F00-1 36-A 40 2 5A 3439-40 7-55 611E-29 D-F D40-2 6B-C E030-6D
  8F 4EB-F 5EE-F"

def hasCase (n : Nat) : Bool :=
  (["Lu", "Ll", "Lt"].any (hasCategory · n) || otherLowercase.has n || otherUppercase.has n) && !recentCased.has n

/-- Whether a word passes over a code point when its case is looked at. -/
def isCaseIgnorable (n : Nat) : Bool :=
  (["Mn", "Me", "Cf", "Lm", "Sk"].any (hasCategory · n) || otherCaseIgnorable.has n) &&
    !recentCaseIgnorable.has n || n == 0x1171E

/-- The lower-case form of one character, away from the two exceptions. -/
def lowerChar (c : Char) : Char :=
  if c.toNat < 128 then
    if 'A' ≤ c ∧ c ≤ 'Z' then Char.ofNat (c.toNat + 32) else c
  else
    match capitalRows.find? fun (lo, hi, gap, _) =>
        lo ≤ c.toNat && c.toNat ≤ hi && (c.toNat - lo) % gap == 0 with
    | some (lo, _, _, form) => Char.ofNat (form + (c.toNat - lo))
    | none => c

def meetsCased : Text → Bool
  | [] => false
  | c :: t =>
    if isCaseIgnorable c.toNat then meetsCased t else hasCase c.toNat

/-- The lower-case form of a text, given the characters already read, nearest first. -/
def lowerFrom (before : Text) : Text → Text
  | [] => []
  | c :: t =>
    let form :=
      if c = 'İ' then ['i', Char.ofNat 775]
      else if c = 'Σ' then
        if meetsCased before && !meetsCased t then ['ς'] else ['σ']
      else [lowerChar c]
    form ++ lowerFrom (c :: before) t

def lower (t : Text) : Text :=
  lowerFrom [] t

end Geoscript.Text
