import Geoscript.Number.Double
import Geoscript.Text.Lower

/-! How similar two texts are: twice the length of their longest common piece and of those before and after it, by the
length of both. In a long word, characters that occur too often do not begin a piece. -/

namespace Geoscript.Text

/-- A common piece: where it starts in each text, and its length. -/
structure Piece where
  first : Nat
  second : Nat
  length : Nat
  deriving Repr, DecidableEq

/-- The characters of a word of two hundred and more that occur more often than once in a hundred. -/
def frequentChars (word : Text) : Text :=
  if 200 ≤ word.length then word.eraseDups.filter fun c => word.length / 100 + 1 < count c word
  else []

/-- One row of the table of common pieces: the lengths of the pieces that end with `c` in the first text
and at each character of the second. `previous` is the row before, moved by one. -/
def pieceRow (frequent : Char → Bool) (c : Char) : Text → List Nat → List Nat
  | [], _ => []
  | d :: rest, previous =>
    (if c = d && !frequent d then previous.headD 0 + 1 else 0) ::
      pieceRow frequent c rest previous.tail

/-- The longest piece of a row if it is longer than the best so far; of equal ones the first. -/
def bestInRow (i : Nat) : Nat → List Nat → Piece → Piece
  | _, [], best => best
  | j, k :: rest, best =>
    bestInRow i (j + 1) rest (if best.length < k then ⟨i + 1 - k, j + 1 - k, k⟩ else best)

def longestFrom (frequent : Char → Bool) (b : Text) : Nat → Text → List Nat → Piece → Piece
  | _, [], _, best => best
  | i, c :: rest, previous, best =>
    let row := pieceRow frequent c b (0 :: previous)
    longestFrom frequent b (i + 1) rest row (bestInRow i 0 row best)

def commonLength : Text → Text → Nat
  | a :: as, b :: bs => if a = b then commonLength as bs + 1 else 0
  | _, _ => 0

/-- The longest common piece, grown at both ends by the frequent characters beside it. -/
def longestPiece (frequent : Char → Bool) (a b : Text) : Piece :=
  let p := longestFrom frequent b 0 a [] ⟨0, 0, 0⟩
  let before := commonLength (a.take p.first).reverse (b.take p.second).reverse
  let after := commonLength (a.drop (p.first + p.length)) (b.drop (p.second + p.length))
  ⟨p.first - before, p.second - before, before + p.length + after⟩

/-- The length of all common pieces. The fuel bounds how often texts are cut. -/
def commonTotal (frequent : Char → Bool) : Nat → Text → Text → Nat
  | 0, _, _ => 0
  | fuel + 1, a, b =>
    let p := longestPiece frequent a b
    if p.length = 0 then 0
    else
      p.length + commonTotal frequent fuel (a.take p.first) (b.take p.second) +
        commonTotal frequent fuel (a.drop (p.first + p.length)) (b.drop (p.second + p.length))

/-- The similarity of a text to a word, as a double. Two empty texts are alike. -/
def similarity (word t : Text) : Double :=
  let total := t.length + word.length
  if total = 0 then Double.ofRatio false 1 1
  else
    let frequent := frequentChars word
    Double.ofRatio false (2 * commonTotal frequent.contains (t.length + 1) t word) total

def before : Text → Text → Bool
  | [], [] => false
  | [], _ :: _ => true
  | _ :: _, [] => false
  | a :: as, b :: bs => a < b || (a = b && before as bs)

/-- Whether a scored text comes no later than another: the higher score first, then the later text. -/
def ranksBefore (a b : Double × Text) : Bool :=
  b.1.bits.toNat < a.1.bits.toNat || (a.1 = b.1 && !before a.2 b.2)

/-- The best `n` texts that are at least as similar to a word as the cutoff, best first. -/
def closest (word : Text) (texts : List Text) (n : Nat) (cutoff : Number) : List Text :=
  let scored := texts.map fun t => (similarity word t, t)
  let close := scored.filter fun (score, _) => cutoff.le (.double score)
  ((close.mergeSort ranksBefore).take n).map (·.2)

/-- The texts whose small-letter forms are among the best `n` for the word. They keep their order. -/
def closeMatches (word : Text) (texts : List Text) (n : Nat) (cutoff : Number) : List Text :=
  let best := closest (lower word) (texts.map lower) n cutoff
  texts.filter fun t => best.contains (lower t)

end Geoscript.Text
