import Geoscript.Text.Blank
import Geoscript.Text.Word

/-! A pattern describes pieces of text together with the order in which the ways to match it are tried. It has groups,
whose text can be asked for again, looks to either side, and calls of a group from within, which describe nested text.
-/

namespace Geoscript

inductive CharClass where
  | char (c : Char)
  | range (lo hi : Char)
  | space
  | word
  | not (k : CharClass)
  deriving Repr, BEq, DecidableEq

def CharClass.covers : CharClass → Char → Bool
  | .char d, c => c == d
  | .range lo hi, c => lo ≤ c && c ≤ hi
  | .space, c => Text.isSpace c
  | .word, c => Text.isWord c
  | .not k, c => !k.covers c

/-- A set of characters: those that some entry covers or, negated, those that none does. -/
structure CharSet where
  entries : List CharClass
  negated : Bool := false
  deriving Repr, BEq, DecidableEq

namespace CharSet

def has (s : CharSet) (c : Char) : Bool :=
  s.entries.any (·.covers c) != s.negated

def single (c : Char) : CharSet := ⟨[.char c], false⟩

def of (s : String) : CharSet := ⟨s.toList.map .char, false⟩

def except (s : String) : CharSet := ⟨s.toList.map .char, true⟩

def space : CharSet := ⟨[.space], false⟩

def nonSpace : CharSet := ⟨[.space], true⟩

def word : CharSet := ⟨[.word], false⟩

def inLine : CharSet := ⟨[.char '\n'], true⟩

def any : CharSet := ⟨[], true⟩

end CharSet

/-- Which of the possible numbers of repetitions is tried first. -/
inductive Greed where
  | longest
  | shortest
  deriving Repr, BEq, DecidableEq

/-- The way a pattern is read along a text. A look behind reads backwards. -/
inductive Direction where
  | forward
  | backward
  deriving Repr, BEq, DecidableEq

/-- Patterns. `run` repeats a set, `many` any pattern; `call 0` stands for the whole pattern and
`call n` for the body of group `n`. -/
inductive Pattern where
  | empty
  | lit (t : Text)
  | one (s : CharSet)
  | seq (p q : Pattern)
  | either (p q : Pattern)
  | run (s : CharSet) (greed : Greed) (least : Nat) (most : Option Nat)
  | many (p : Pattern) (greed : Greed) (least : Nat) (most : Option Nat)
  | group (n : Nat) (p : Pattern)
  | atomic (p : Pattern)
  | look (dir : Direction) (wanted : Bool) (p : Pattern)
  | textStart
  | lineStart
  | lineEnd
  | lastLineEnd
  | sameAs (n : Nat)
  | call (n : Nat)
  deriving Repr, BEq, DecidableEq

namespace Pattern

def str (s : String) : Pattern := .lit s.toList

def all : List Pattern → Pattern
  | [] => .empty
  | [p] => p
  | p :: ps => .seq p (all ps)

def anyOf : List Pattern → Pattern
  | [] => .empty
  | [p] => p
  | p :: ps => .either p (anyOf ps)

def star (s : CharSet) : Pattern := .run s .longest 0 none

def plus (s : CharSet) : Pattern := .run s .longest 1 none

def starFew (s : CharSet) : Pattern := .run s .shortest 0 none

def plusFew (s : CharSet) : Pattern := .run s .shortest 1 none

def blanks : Pattern := star .space

/-- Any number of characters of one line, as many as possible. -/
def rest : Pattern := star .inLine

/-- Any number of characters of one line, as few as possible. -/
def restFew : Pattern := starFew .inLine

def ahead (p : Pattern) : Pattern := .look .forward true p

def notAhead (p : Pattern) : Pattern := .look .forward false p

def behind (p : Pattern) : Pattern := .look .backward true p

def notBehind (p : Pattern) : Pattern := .look .backward false p

def body? (n : Nat) : Pattern → Option Pattern
  | .group m p => if m = n then some p else body? n p
  | .seq p q => body? n p <|> body? n q
  | .either p q => body? n p <|> body? n q
  | .many p _ _ _ => body? n p
  | .atomic p => body? n p
  | .look _ _ p => body? n p
  | _ => none

def part (whole : Pattern) (n : Nat) : Option Pattern :=
  if n = 0 then some whole else whole.body? n

end Pattern

end Geoscript
