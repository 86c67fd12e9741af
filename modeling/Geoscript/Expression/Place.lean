import Geoscript.Expression.Basic
import Geoscript.Pattern.Matcher
import Geoscript.Text.Segment

/-! Whether a cursor stands at a place that an expression asks for. -/

namespace Geoscript.Expression

def isSeparator (c : Char) : Bool :=
  (10 ≤ c.toNat && c.toNat ≤ 13) || c.toNat == 0x85 || c.toNat == 0x2028 || c.toNat == 0x2029

namespace LineRule

def startsAt : LineRule → Cursor → Bool
  | .feed, c => c.before.head?.all (· == '\n')
  | .separators, c =>
    match c.before, c.after with
    | [], _ => true
    | '\r' :: _, '\n' :: _ => false
    | d :: _, _ => isSeparator d

def endsAt : LineRule → Cursor → Bool
  | .feed, c => c.after.head?.all (· == '\n')
  | .separators, c =>
    match c.before, c.after with
    | _, [] => true
    | '\r' :: _, '\n' :: _ => false
    | _, d :: _ => isSeparator d

/-- Whether the text ends at the cursor, but for the end of its last line. -/
def endsTextAt (rule : LineRule) (c : Cursor) : Bool :=
  match rule, c.after with
  | _, [] => true
  | .feed, ['\n'] => true
  | .separators, ['\r', '\n'] => true
  | .separators, [d] => isSeparator d && !(d == '\n' && c.before.head? == some '\r')
  | _, _ => false

end LineRule

namespace WordRule

def isWord : WordRule → Char → Bool
  | .basic, c => Text.isBasicWord c
  | _, c => Text.isWord c

def edgeAt (rule : WordRule) (c : Cursor) : Bool :=
  match rule with
  | .segments => Text.atSegmentEdge c.before c.after
  | rule => (c.before.head?.any rule.isWord) != (c.after.head?.any rule.isWord)

def startsAt (rule : WordRule) (c : Cursor) : Bool :=
  rule.edgeAt c && !c.before.head?.any rule.isWord && c.after.head?.any rule.isWord

def endsAt (rule : WordRule) (c : Cursor) : Bool :=
  rule.edgeAt c && c.before.head?.any rule.isWord && !c.after.head?.any rule.isWord

end WordRule

/-- Whether the cursor stands at the place, in a search that began at `start`. -/
def Place.holds (start : Nat) : Place → Cursor → Bool
  | .textStart, c => c.before.isEmpty
  | .textEnd, c => c.after.isEmpty
  | .lineStart rule, c => rule.startsAt c
  | .lineEnd rule, c => rule.endsAt c
  | .lastLineEnd rule, c => rule.endsTextAt c
  | .wordEdge rule wanted, c => rule.edgeAt c == wanted
  | .wordStart rule, c => rule.startsAt c
  | .wordEnd rule, c => rule.endsAt c
  | .clusterEdge, c => Text.atClusterEdge c.before c.after
  | .searchStart, c => c.pos == start

end Geoscript.Expression
