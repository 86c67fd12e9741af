import Geoscript.Expression.Matcher

/-! In which manner an expression is looked for: from which end, whether the longest match at a place is wanted, and
how hard to try for fewer errors. -/

namespace Geoscript

/-- How hard a search tries for a match with fewer errors. -/
inductive Fit where
  | first
  | improved
  /-- The match with the fewest errors in the whole text is taken. -/
  | best
  deriving Repr, DecidableEq

/-- An expression and the manner in which it is looked for. -/
structure Search where
  expression : Expression
  groups : Nat := 0
  /-- The characters that a match read forwards can begin with, if they are known. -/
  lead : Option Expression.CharTest := none
  dir : Direction := .forward
  longest : Bool := false
  fit : Fit := .first

namespace Search

open Expression

def setting (q : Search) (start : Nat) : Setting where
  start := start
  watched := (List.range (q.groups + 1)).filter fun n => q.expression.asksFor n

/-- Matches the expression at a place. The continuation says which ends are accepted. -/
def attempt (q : Search) (s : Setting) (depth : Nat) (accept : Cursor → Bool) (c : Cursor) : Outcome :=
  q.expression.matcher s (q.expression.calls s depth) q.dir c {} fun c' p =>
    if accept c' then .found c' p else p.fail

/-- How far a match that starts at one cursor and ends at the other reaches. -/
def reach (c c' : Cursor) : Nat :=
  (c'.pos - c.pos) + (c.pos - c'.pos)

/-- Looks for a longer match at the same place until there is none. The fuel bounds the lengths. -/
def lengthen (q : Search) (s : Setting) (depth : Nat) (c : Cursor) : Nat → Outcome → Outcome
  | fuel + 1, .found c' p =>
    match q.attempt s depth (fun d => reach c c' < reach c d) c with
    | .found d p' => lengthen q s depth c fuel (.found d p')
    | _ => .found c' p
  | _, o => o

def mayBegin (q : Search) (c : Cursor) : Bool :=
  match q.dir, q.lead with
  | .forward, some accepts => c.after.head?.any accepts
  | _, _ => true

/-- The match at a place. With `moving`, a match may not end where the search began. -/
def matchAt (q : Search) (s : Setting) (depth : Nat) (moving : Bool) (c : Cursor) : Outcome :=
  if q.mayBegin c then
    let o := q.attempt s depth (fun c' => !(moving && c'.pos == s.start)) c
    if q.longest then q.lengthen s depth c (c.ahead q.dir).length o else o
  else .failed {}

/-- What a scan finds: where the attempt began and ended, and what it read. -/
structure Hit where
  start : Cursor
  stop : Cursor
  progress : Progress

namespace Hit

def origin (h : Hit) : Cursor :=
  h.progress.kept.getD h.start

def toMatch (h : Hit) : Direction → Match
  | .forward => ⟨h.origin, h.stop, h.progress.captures⟩
  | .backward => ⟨h.stop, h.origin, h.progress.captures⟩

end Hit

def moveTo (dir : Direction) (pos : Nat) : Nat → Cursor → Cursor
  | 0, c => c
  | fuel + 1, c =>
    if c.pos = pos then c
    else
      match c.step? dir with
      | some (_, c') => moveTo dir pos fuel c'
      | none => c

def scan (q : Search) (s : Setting) (depth : Nat) (moving : Bool) : Nat → Cursor → Option Hit
  | 0, _ => none
  | fuel + 1, c =>
    match q.matchAt s depth moving c with
    | .found stop p => some ⟨c, stop, p⟩
    | .failed _ => (c.step? q.dir).bind fun (_, c') => scan q s depth moving fuel c'
    | .refused resume =>
      (c.step? q.dir).bind fun (_, c') =>
        match resume with
        | none => scan q s depth moving fuel c'
        | some pos =>
          if pos = c.pos then scan q s depth moving fuel c'
          else scan q s depth moving fuel (moveTo q.dir pos (c.ahead q.dir).length c')

def cutAt (dir : Direction) (pos : Nat) (c : Cursor) : Cursor :=
  match dir with
  | .forward => { c with after := c.after.take (pos - c.pos) }
  | .backward => { c with before := c.before.take (c.pos - pos) }

/-- Looks for a match with fewer errors until there is none. The fuel bounds the errors. -/
def improve (q : Search) (s : Setting) (depth : Nat) (moving : Bool) (c : Cursor) : Nat → Hit → Hit
  | 0, h => h
  | fuel + 1, h =>
    if h.progress.errors = 0 then h
    else
      let s := { s with mostErrors := some (h.progress.errors - 1) }
      let room := (c.ahead q.dir).length + 1
      match q.fit with
      | .first => h
      | .best =>
        match q.scan s depth moving room c with
        | some better => improve q s depth moving c fuel better
        | none => h
      | .improved =>
        match q.scan s depth moving room (cutAt q.dir h.stop.pos h.start) with
        | some better =>
          let whole (d : Cursor) : Cursor := moveTo q.dir d.pos room c
          improve q s depth moving c fuel { better with start := whole better.start, stop := whole better.stop }
        | none => h

def next? (q : Search) (depth : Nat) (moving : Bool) (c : Cursor) : Option Hit :=
  let s := q.setting c.pos
  (q.scan s depth moving ((c.ahead q.dir).length + 1) c).map fun h =>
    q.improve s depth moving c h.progress.errors h

/-- The matches from a place on, each search starting where the match before ended. -/
def hitsFrom (q : Search) (depth : Nat) : Nat → Bool → Cursor → List Hit
  | 0, _, _ => []
  | fuel + 1, moving, c =>
    match q.next? depth moving c with
    | none => []
    | some h => h :: hitsFrom q depth fuel (h.stop.pos == h.origin.pos) h.stop

def origin (q : Search) (t : Text) : Cursor :=
  match q.dir with
  | .forward => .start t
  | .backward => ⟨t.reverse, [], t.length⟩

/-- All matches in a text, in the order in which the search comes to them. -/
def occurrences (q : Search) (t : Text) : List Match :=
  (q.hitsFrom (t.length + q.groups + 2) (2 * t.length + 2) false (q.origin t)).map (·.toMatch q.dir)

def replaceAll (q : Search) (new t : Text) : Text :=
  let found := q.occurrences t
  Pattern.rebuild (fun _ => new) (.start t)
    (match q.dir with | .forward => found | .backward => found.reverse)

end Search

end Geoscript
