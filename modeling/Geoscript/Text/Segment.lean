import Geoscript.Text.Cluster
import Geoscript.Text.Writing

/-! The finer rule for where words begin and end: a full stop inside a number or an apostrophe inside a word does not
end it. -/

namespace Geoscript.Text

/-- How a character behaves at the edge of a word. -/
inductive SegmentRole where
  | return
  | feed
  | newline
  | extending
  | joiner
  | regional
  | katakana
  | hebrew
  | letter
  | singleQuote
  | doubleQuote
  | midNumberLetter
  | midLetter
  | midNumber
  | number
  | connector
  | space
  | other
  deriving Repr, DecidableEq

/-- Characters that count as letters of a word without being alphabetic. -/
def wordLetters : Ranges := Ranges.read "
  2C2-5 D2-7 E-F E5-B D F-FF 55A-C E 8A F3 A708-16 20-1 89-A B5B"

/-- Writing systems whose words are not told apart by their characters. -/
def unspacedWritings : Ranges := Ranges.read "
  E01-3A 40-E 81-DF 1000-3F 50-8F 9A-F 780-D3 7 C-D 950-DF A20-AD A9E0-F FA-E A60-DF 11700-2B 3A-B F-46"

def katakanaWords : Ranges := Ranges.read "
  3031-5 9B-C A0-FA C-F 1F0-F 2D0-FE 300-57 FF66-9D 1AFF0-3 5-B D-E B000 120-2 55 64-7"

def hebrewLetters : Ranges := Ranges.read "
  5D0-EA F-F2 FB1D F-28 A-36 8-C E 40-1 3-4 6-F"

def hiragana : Ranges :=
  ((writings.find? fun w => w.names.contains "Hiragana").map (·.own)).getD #[]

def ideographs : Ranges := traitNamed "Ideographic"

def isAlphabetic (n : Nat) : Bool :=
  hasCategory "L" n || hasCategory "Nl" n || otherAlphabetic.has n

def isWordLetter (n : Nat) : Bool :=
  wordLetters.has n ||
    (isAlphabetic n && !ideographs.has n && !hiragana.has n && !unspacedWritings.has n)

def segmentRole (n : Nat) : SegmentRole :=
  if (65 ≤ n && n ≤ 90) || (97 ≤ n && n ≤ 122) then .letter
  else if 48 ≤ n && n ≤ 57 then .number
  else if n = 13 then .return
  else if n = 10 then .feed
  else if [0xB, 0xC, 0x85, 0x2028, 0x2029].contains n then .newline
  else if n = 0x200D then .joiner
  else if n = 0x27 then .singleQuote
  else if n = 0x22 then .doubleQuote
  else if [0x2E, 0x2018, 0x2019, 0x2024, 0xFE52, 0xFF07, 0xFF0E].contains n then .midNumberLetter
  else if [0x3A, 0xB7, 0x387, 0x55F, 0x5F4, 0x2027, 0xFE13, 0xFE55, 0xFF1A].contains n then .midLetter
  else if [0x2C, 0x3B, 0x37E, 0x589, 0x60C, 0x60D, 0x66C, 0x7F8, 0x2044, 0xFE10, 0xFE14, 0xFE50,
      0xFE54, 0xFF0C, 0xFF1B].contains n then .midNumber
  else if n < 128 then if n = 0x5F then .connector else if n = 0x20 then .space else .other
  else if [0x1680, 0x205F, 0x3000].contains n || (0x2000 ≤ n && n ≤ 0x200A && n != 0x2007) then .space
  else if hasCategory "Pc" n || n = 0x202F then .connector
  else if isExtending n || hasCategory "Mc" n then .extending
  else if hasCategory "Cf" n && n != 0x200B then .extending
  else if 0x1F1E6 ≤ n && n ≤ 0x1F1FF then .regional
  else if katakanaWords.has n then .katakana
  else if hebrewLetters.has n then .hebrew
  else if hasCategory "Nd" n then .number
  else if isWordLetter n then .letter
  else .other

namespace SegmentRole

def isLetter (r : SegmentRole) : Bool :=
  r == .letter || r == .hebrew

def isLetterMark (r : SegmentRole) : Bool :=
  r == .midLetter || r == .midNumberLetter || r == .singleQuote

def isNumberMark (r : SegmentRole) : Bool :=
  r == .midNumber || r == .midNumberLetter || r == .singleQuote

def isConnected (r : SegmentRole) : Bool :=
  r.isLetter || r == .number || r == .katakana || r == .connector

def isBreak (r : SegmentRole) : Bool :=
  r == .return || r == .feed || r == .newline

def isAttached (r : SegmentRole) : Bool :=
  r == .extending || r == .joiner

end SegmentRole

/-- Whether a word goes on between two roles that meet. `before` and `after` hold the roles on the
two sides, nearest first, without what is attached to another character. -/
def joinsSegment (before after : List SegmentRole) : Bool :=
  match before, after with
  | left :: earlier, right :: later =>
    (left.isLetter && right.isLetter) ||
    (left.isLetter && right.isLetterMark && later.head?.any (·.isLetter)) ||
    (left.isLetterMark && right.isLetter && earlier.head?.any (·.isLetter)) ||
    (left == .hebrew && right == .singleQuote) ||
    (left == .hebrew && right == .doubleQuote && later.head? == some .hebrew) ||
    (left == .doubleQuote && right == .hebrew && earlier.head? == some .hebrew) ||
    (left == .number && right == .number) ||
    (left.isLetter && right == .number) ||
    (left == .number && right.isLetter) ||
    (left.isNumberMark && right == .number && earlier.head? == some .number) ||
    (left == .number && right.isNumberMark && later.head? == some .number) ||
    (left == .katakana && right == .katakana) ||
    (left.isConnected && right == .connector) ||
    (left == .connector && right.isConnected) ||
    (left == .regional && right == .regional &&
      (earlier.takeWhile (· == .regional)).length % 2 == 0)
  | _, _ => false

/-- Whether a segment ends between the characters before, nearest first, and those after. -/
def atSegmentEdge : Text → Text → Bool
  | [], [] => false
  | [], _ => true
  | _, [] => true
  | l :: earlier, r :: later =>
    let left := segmentRole l.toNat
    let right := segmentRole r.toNat
    if left == .return && right == .feed then false
    else if left.isBreak || right.isBreak then true
    else if left == .joiner && pictures.has r.toNat then false
    else if left == .space && right == .space then false
    else if right.isAttached then false
    else
      let side (t : Text) : List SegmentRole :=
        (t.map fun c => segmentRole c.toNat).filter (!·.isAttached)
      !joinsSegment (side (l :: earlier)) (side (r :: later))

end Geoscript.Text
