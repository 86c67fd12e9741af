import Geoscript.Text.Category

/-! The characters that names are made of. -/

namespace Geoscript.Text

def otherWord : Ranges := Ranges.read "200C-D 4B6-E9 1F130-49 50-69 70-89"

def isBasicWord (c : Char) : Bool :=
  c.isAlphanum || c == '_'

/-- The letters of the second half of the Latin block. -/
def isLatinLetter (n : Nat) : Bool :=
  [0xAA, 0xB5, 0xBA].contains n || (0xC0 ≤ n && n != 0xD7 && n != 0xF7)

def isWord (c : Char) : Bool :=
  if c.toNat < 128 then isBasicWord c
  else if c.toNat < 256 then isLatinLetter c.toNat
  else ["L", "M", "Nd", "Nl", "Pc"].any (hasCategory · c.toNat) || otherWord.has c.toNat

end Geoscript.Text
