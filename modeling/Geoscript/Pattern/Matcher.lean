import Geoscript.Pattern.Basic

/-! Matching tries the ways a pattern can be read from a cursor in order, and hands each end to a continuation until
one is accepted. Only a call of a group counts down; every nested call of the patterns in use reads a character first,
so the length of the text is depth enough. -/

namespace Geoscript

/-- A place in a text: the characters already read, nearest first, those still to come, and how many
have been read. -/
structure Cursor where
  before : Text
  after : Text
  pos : Nat
  deriving Repr, BEq, DecidableEq

namespace Cursor

def start (t : Text) : Cursor := ⟨[], t, 0⟩

def next? (c : Cursor) : Option (Char × Cursor) :=
  match c.after with
  | [] => none
  | ch :: rest => some (ch, ⟨ch :: c.before, rest, c.pos + 1⟩)

def prev? (c : Cursor) : Option (Char × Cursor) :=
  match c.before with
  | [] => none
  | ch :: rest => some (ch, ⟨rest, ch :: c.after, c.pos - 1⟩)

def step? (c : Cursor) : Direction → Option (Char × Cursor)
  | .forward => c.next?
  | .backward => c.prev?

def ahead (c : Cursor) : Direction → Text
  | .forward => c.after
  | .backward => c.before

/-- Reads a fixed text, given in reading order, off the characters ahead. The arguments are the
characters read, those to come, and how many have been read. -/
def readAhead : Text → Text → Text → Nat → Option (Text × Text × Nat)
  | [], read, rest, n => some (read, rest, n)
  | _ :: _, _, [], _ => none
  | ch :: t, read, d :: rest, n => if ch = d then readAhead t (d :: read) rest (n + 1) else none

def read? (dir : Direction) (t : Text) (c : Cursor) : Option Cursor :=
  match dir with
  | .forward =>
    match readAhead t c.before c.after 0 with
    | some (read, rest, n) => some ⟨read, rest, c.pos + n⟩
    | none => none
  | .backward =>
    match readAhead t c.after c.before 0 with
    | some (read, rest, n) => some ⟨rest, read, c.pos - n⟩
    | none => none

def upTo (c : Cursor) (pos : Nat) : Text :=
  c.after.take (pos - c.pos)

end Cursor

/-- The text of a group: where it starts and where it ends. -/
structure Span where
  start : Cursor
  stop : Nat
  deriving Repr, BEq, DecidableEq

def Span.text (s : Span) : Text :=
  s.start.upTo s.stop

abbrev Captures := List (Nat × Span)

/-- Where a match ended and which groups it read. -/
structure Ending where
  stop : Cursor
  captures : Captures
  deriving Repr, BEq, DecidableEq

abbrev Continuation := Cursor → Captures → Option Ending

/-- A way to match: from a place, with a continuation that may refuse. -/
abbrev Matcher := Cursor → Captures → Continuation → Option Ending

namespace Pattern

def allowsMore (most : Option Nat) (n : Nat) : Bool :=
  match most with
  | none => true
  | some m => n < m

/-- Tries the counts of a run of characters, the longest first. The arguments are the count, the
characters read and those to come. -/
def runLongest (s : CharSet) (most : Option Nat) (k : Nat → Text → Text → Option Ending) :
    Nat → Text → Text → Option Ending
  | n, read, [] => k n read []
  | n, read, c :: rest =>
    if s.has c && allowsMore most n then
      match runLongest s most k (n + 1) (c :: read) rest with
      | some e => some e
      | none => k n read (c :: rest)
    else k n read (c :: rest)

/-- Tries the counts of a run of characters, the shortest first. -/
def runShortest (s : CharSet) (most : Option Nat) (k : Nat → Text → Text → Option Ending) :
    Nat → Text → Text → Option Ending
  | n, read, [] => k n read []
  | n, read, c :: rest =>
    match k n read (c :: rest) with
    | some e => some e
    | none => if s.has c && allowsMore most n then runShortest s most k (n + 1) (c :: read) rest else none

def runMatcher (dir : Direction) (s : CharSet) (greed : Greed) (least : Nat) (most : Option Nat) :
    Matcher := fun c captures k =>
  let stop (n : Nat) (read rest : Text) : Option Ending :=
    if n < least then none
    else
      match dir with
      | .forward => k ⟨read, rest, c.pos + n⟩ captures
      | .backward => k ⟨rest, read, c.pos - n⟩ captures
  let (read, rest) :=
    match dir with
    | .forward => (c.before, c.after)
    | .backward => (c.after, c.before)
  match greed with
  | .longest => runLongest s most stop 0 read rest
  | .shortest => runShortest s most stop 0 read rest

/-- A matcher repeated. An iteration that reads nothing is refused, so `room` iterations, one for
each character ahead, are all there can be. -/
def manyMatcher (m : Matcher) (greed : Greed) (most : Option Nat) : Nat → Nat → Nat → Matcher
  | 0, n, least => fun c captures k => if n < least then none else k c captures
  | room + 1, n, least => fun c captures k =>
    let stop (_ : Unit) : Option Ending := if n < least then none else k c captures
    let more (_ : Unit) : Option Ending :=
      if allowsMore most n then
        m c captures fun c' captures' =>
          if c'.pos = c.pos then none
          else manyMatcher m greed most room (n + 1) least c' captures' k
      else none
    match greed with
    | .longest =>
      match more () with
      | some e => some e
      | none => stop ()
    | .shortest =>
      match stop () with
      | some e => some e
      | none => more ()

def matcher (calls : Nat → Matcher) (dir : Direction) : Pattern → Matcher
  | .empty => fun c captures k => k c captures
  | .lit t => fun c captures k =>
    match c.read? dir (match dir with | .forward => t | .backward => t.reverse) with
    | some c' => k c' captures
    | none => none
  | .one s => fun c captures k =>
    match c.step? dir with
    | some (ch, c') => if s.has ch then k c' captures else none
    | none => none
  | .seq p q => fun c captures k =>
    match dir with
    | .forward =>
      matcher calls dir p c captures fun c' captures' => matcher calls dir q c' captures' k
    | .backward =>
      matcher calls dir q c captures fun c' captures' => matcher calls dir p c' captures' k
  | .either p q => fun c captures k =>
    match matcher calls dir p c captures k with
    | some e => some e
    | none => matcher calls dir q c captures k
  | .run s greed least most => runMatcher dir s greed least most
  | .many p greed least most => fun c captures k =>
    manyMatcher (matcher calls dir p) greed most (c.ahead dir).length 0 least c captures k
  | .group n p => fun c captures k =>
    matcher calls dir p c captures fun c' captures' =>
      match dir with
      | .forward => k c' ((n, ⟨c, c'.pos⟩) :: captures')
      | .backward => k c' ((n, ⟨c', c.pos⟩) :: captures')
  | .atomic p => fun c captures k =>
    match matcher calls dir p c captures (fun c' captures' => some ⟨c', captures'⟩) with
    | some e => k e.stop e.captures
    | none => none
  | .look side wanted p => fun c captures k =>
    match matcher calls side p c captures (fun c' captures' => some ⟨c', captures'⟩) with
    | some e => if wanted then k c e.captures else none
    | none => if wanted then none else k c captures
  | .textStart => fun c captures k => if c.before.isEmpty then k c captures else none
  | .lineStart => fun c captures k =>
    if c.before.head?.all (· == '\n') then k c captures else none
  | .lineEnd => fun c captures k =>
    if c.after.head?.all (· == '\n') then k c captures else none
  | .lastLineEnd => fun c captures k =>
    if c.after.isEmpty || c.after == ['\n'] then k c captures else none
  | .sameAs n => fun c captures k =>
    match captures.lookup n with
    | none => none
    | some s =>
      match c.read? dir (match dir with | .forward => s.text | .backward => s.text.reverse) with
      | some c' => k c' captures
      | none => none
  | .call n => fun c captures k => calls n c captures fun c' _ => k c' captures

/-- What the calls of a pattern mean down to a depth. A call leaves the groups of its caller as they
were. -/
def calls (whole : Pattern) : Nat → Nat → Matcher
  | 0, _ => fun _ _ _ => none
  | depth + 1, n => fun c captures k =>
    match whole.part n with
    | some p => matcher (calls whole depth) .forward p c captures k
    | none => none

end Pattern

/-- A match: where it starts, where it ends and the groups it read. -/
structure Match where
  start : Cursor
  stop : Cursor
  captures : Captures
  deriving Repr, BEq, DecidableEq

namespace Match

def text (m : Match) : Text :=
  m.start.upTo m.stop.pos

/-- The text of a group, empty when the match did not read the group. -/
def group (m : Match) (n : Nat) : Text :=
  match m.captures.lookup n with
  | some s => s.text
  | none => []

end Match

namespace Pattern

/-- The first way to match the pattern at a place. A second empty match at one place is refused when
`moving` is set. -/
def matchAt (p : Pattern) (depth : Nat) (moving : Bool) (c : Cursor) : Option Match :=
  match p.matcher (calls p depth) .forward c [] fun c' captures =>
      if moving && c'.pos == c.pos then none else some ⟨c', captures⟩ with
  | some e => some ⟨c, e.stop, e.captures⟩
  | none => none

/-- The first match at or after the place with the given characters before and after it. -/
def searchFrom (p : Pattern) (depth : Nat) : Bool → Text → Text → Nat → Option Match
  | moving, before, [], pos => p.matchAt depth moving ⟨before, [], pos⟩
  | moving, before, ch :: rest, pos =>
    match p.matchAt depth moving ⟨before, ch :: rest, pos⟩ with
    | some m => some m
    | none => searchFrom p depth false (ch :: before) rest (pos + 1)

def matchStart? (p : Pattern) (t : Text) : Option Match :=
  p.matchAt (t.length + 1) false (.start t)

def search? (p : Pattern) (t : Text) : Option Match :=
  p.searchFrom (t.length + 1) false [] t 0

def found (p : Pattern) (t : Text) : Bool :=
  (p.search? t).isSome

/-- The matches from a place on, each starting where the one before ended. -/
def matchesFrom (p : Pattern) (depth : Nat) : Nat → Bool → Cursor → List Match
  | 0, _, _ => []
  | fuel + 1, moving, c =>
    match p.searchFrom depth moving c.before c.after c.pos with
    | none => []
    | some m => m :: matchesFrom p depth fuel (m.stop.pos == m.start.pos) m.stop

/-- All matches in the text from left to right. Two matches do not overlap. -/
def occurrences (p : Pattern) (t : Text) : List Match :=
  p.matchesFrom (t.length + 1) (2 * t.length + 2) false (.start t)

def findAll (p : Pattern) (t : Text) : List Text :=
  (p.occurrences t).map (·.text)

/-- Puts the replacements of the matches between the texts that the matches leave. -/
def rebuild (f : Match → Text) : Cursor → List Match → Text
  | c, [] => c.after
  | c, m :: ms => c.upTo m.start.pos ++ f m ++ rebuild f m.stop ms

/-- The text with every match turned into what `f` gives for it. -/
def replaceBy (p : Pattern) (f : Match → Text) (t : Text) : Text :=
  rebuild f (.start t) (p.occurrences t)

def replaceAll (p : Pattern) (new : Text) (t : Text) : Text :=
  p.replaceBy (fun _ => new) t

-- The equations by which proofs unfold these functions are made here, once for all of them.
attribute [local simp] Cursor.readAhead runLongest runShortest manyMatcher matcher searchFrom rebuild

end Pattern

end Geoscript
