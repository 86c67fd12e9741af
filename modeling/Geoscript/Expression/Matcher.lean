import Std.Data.HashSet
import Geoscript.Expression.Place
import Geoscript.Text.Variant

/-! Matching tries the ways an expression can be read from a cursor in order, and hands each end to a continuation
until one is accepted. A part that tolerates errors may read a wrong character, pass over it, or do without the right
one, in this order. Places where a repetition has failed are kept in a memo, unless the expression asks for its groups
or tolerates errors. -/

namespace Geoscript.Expression

/-- The repetitions begun so far, by number, and the places from which each has failed. -/
structure Memo where
  begun : Nat := 0
  failed : Std.HashSet (Nat × Nat) := {}

namespace Memo

def begin (m : Memo) : Memo :=
  { m with begun := m.begun + 1 }

def fails (m : Memo) (number pos : Nat) : Bool :=
  m.failed.contains (number, pos)

def note (m : Memo) (number pos : Nat) : Memo :=
  { m with failed := m.failed.insert (number, pos) }

end Memo

/-- What has been read: the groups, the start that was set on the way, the tolerance in force with the
errors made under it, and the number of all errors. -/
structure Progress where
  captures : Captures := []
  kept : Option Cursor := none
  tolerance : Option (Tolerance × ErrorCount) := none
  errors : Nat := 0
  memo : Memo := {}

inductive Outcome where
  | failed (memo : Memo)
  /-- No way leads to a match any more. The search goes on at the next place, or at the one given. -/
  | refused (resume : Option Nat)
  | found (stop : Cursor) (progress : Progress)

abbrev Continuation := Cursor → Progress → Outcome

abbrev Matcher := Cursor → Progress → Continuation → Outcome

/-- What an attempt knows of the search: where it began, which groups the expression asks for, and how
many errors are allowed in all. -/
structure Setting where
  start : Nat
  watched : List Nat
  mostErrors : Option Nat := none

namespace Progress

def fail (p : Progress) : Outcome :=
  .failed p.memo

def orElse (p : Progress) (o : Outcome) (other : Progress → Outcome) : Outcome :=
  match o with
  | .failed memo => other { p with memo }
  | o => o

def err? (p : Progress) (s : Setting) (kind : ErrorKind) : Option Progress :=
  match p.tolerance with
  | none => none
  | some (t, made) =>
    if t.allows made kind && s.mostErrors.all (p.errors < ·) then
      some { p with tolerance := some (t, made.add kind), errors := p.errors + 1 }
    else none

/-- Whether the tolerance in force lets a character be substituted or inserted. -/
def accepts (p : Progress) (c : Char) : Bool :=
  p.tolerance.all fun (t, _) => t.test c

/-- Whether the errors made are as many as the tolerance in force requires. -/
def satisfied (p : Progress) : Bool :=
  p.tolerance.all fun (t, made) => t.satisfied made

def span? (p : Progress) (n : Nat) : Option (Nat × Nat) :=
  (p.captures.lookup n).map fun s => (s.start.pos, s.stop)

/-- Whether errors were made or a group that is asked for changed since. -/
def differs (p : Progress) (s : Setting) (earlier : Progress) : Bool :=
  p.errors != earlier.errors || s.watched.any fun n => p.span? n != earlier.span? n

def isBound (p : Progress) (s : Setting) : Bool :=
  s.watched.isEmpty && s.mostErrors.isNone && p.tolerance.isNone

end Progress

/-- Passes over the character at hand as an addition, then tries again. -/
def insert (s : Setting) (dir : Direction) (again : Matcher) : Matcher := fun c p k =>
  match c.step? dir, p.err? s .insertion with
  | some (ch, c'), some p' => if p.accepts ch then again c' p' k else p.fail
  | _, _ => p.fail

def delete (s : Setting) : Matcher := fun c p k =>
  match p.err? s .deletion with
  | some p' => k c p'
  | none => p.fail

def substitute (s : Setting) (dir : Direction) : Matcher := fun c p k =>
  match c.step? dir, p.err? s .substitution with
  | some (ch, c'), some p' => if p.accepts ch then k c' p' else p.fail
  | _, _ => p.fail

/-- Passing over a character where the search began is no use: the search comes to the next place. -/
def insertLater (s : Setting) (dir : Direction) (again : Matcher) : Matcher := fun c p k =>
  if c.pos = s.start then p.fail else insert s dir again c p k

/-- One character, possibly with errors. `room` bounds the characters passed over. -/
def oneWithErrors (s : Setting) (dir : Direction) (accepts : CharTest) : Nat → Matcher
  | 0 => fun c p k =>
    let mend (_ : Unit) : Outcome :=
      p.orElse (substitute s dir c p k) fun p => delete s c p k
    match c.step? dir with
    | some (ch, c') => if accepts ch then k c' p else mend ()
    | none => mend ()
  | room + 1 => fun c p k =>
    let mend (_ : Unit) : Outcome :=
      p.orElse (substitute s dir c p k) fun p =>
        p.orElse (insertLater s dir (oneWithErrors s dir accepts room) c p k) fun p => delete s c p k
    match c.step? dir with
    | some (ch, c') => if accepts ch then k c' p else mend ()
    | none => mend ()

def oneMatcher (s : Setting) (dir : Direction) (accepts : CharTest) : Matcher := fun c p k =>
  if p.tolerance.isSome then oneWithErrors s dir accepts (c.ahead dir).length c p k
  else
    match c.step? dir with
    | some (ch, c') => if accepts ch then k c' p else p.fail
    | none => p.fail

/-- Characters one after the other, each with its test, given in reading order. -/
def eachMatcher (s : Setting) (dir : Direction) : List CharTest → Matcher
  | [] => fun c p k => k c p
  | accepts :: rest => fun c p k =>
    oneMatcher s dir accepts c p fun c' p' => eachMatcher s dir rest c' p' k

/-- What is left of small letters after the given ones, variants of which they must begin with. -/
def afterSmall? : List Nat → List Nat → Option (List Nat)
  | [], small => some small
  | _ :: _, [] => none
  | n :: lead, m :: small => if (Text.variants m).contains n then afterSmall? lead small else none

/-- Text that folds to small letters, given in reading order. Every character folds to one at least, so
there are no more characters than letters. -/
def foldMatcher (dir : Direction) : Nat → List Nat → Matcher
  | _, [] => fun c p k => k c p
  | 0, _ :: _ => fun _ p _ => p.fail
  | fuel + 1, m :: small => fun c p k =>
    match c.step? dir with
    | none => p.fail
    | some (ch, c') =>
      let read := Text.fullyFolded ch.toNat
      match afterSmall? (match dir with | .forward => read | .backward => read.reverse) (m :: small) with
      | some small => foldMatcher dir fuel small c' p k
      | none => p.fail

/-- Text that folds to small letters. Where errors are tolerated, letter by letter. -/
def caselessMatcher (s : Setting) (dir : Direction) (small : List Nat) : Matcher := fun c p k =>
  let small := match dir with | .forward => small | .backward => small.reverse
  if p.tolerance.isSome then
    eachMatcher s dir (small.map fun n ch => (Text.variants n).contains ch.toNat) c p k
  else foldMatcher dir small.length small c p k

/-- A place, possibly with errors. `room` bounds the characters passed over. -/
def placeMatcher (s : Setting) (dir : Direction) (place : Place) : Nat → Matcher
  | 0 => fun c p k => if place.holds s.start c then k c p else delete s c p k
  | room + 1 => fun c p k =>
    if place.holds s.start c then k c p
    else
      p.orElse (insertLater s dir (placeMatcher s dir place room) c p k) fun p => delete s c p k

/-- The end of a part that tolerates errors: enough of them must have been made, and characters after
it may be passed over one by one. -/
def toleranceEnd (s : Setting) (dir : Direction) : Nat → Matcher
  | 0 => fun c p k => if p.satisfied then k c p else p.fail
  | room + 1 => fun c p k =>
    p.orElse (if p.satisfied then k c p else p.fail) fun p =>
      insert s dir (toleranceEnd s dir room) c p k

/-- Tries the counts of a run of characters, the longest first. The arguments are the count, the
characters read and those to come. -/
def runLongest (ok : Nat → Char → Bool) (k : Progress → Nat → Text → Text → Outcome) :
    Progress → Nat → Text → Text → Outcome
  | p, n, read, [] => k p n read []
  | p, n, read, c :: rest =>
    if ok n c then
      p.orElse (runLongest ok k p (n + 1) (c :: read) rest) fun p => k p n read (c :: rest)
    else k p n read (c :: rest)

def runShortest (ok : Nat → Char → Bool) (k : Progress → Nat → Text → Text → Outcome) :
    Progress → Nat → Text → Text → Outcome
  | p, n, read, [] => k p n read []
  | p, n, read, c :: rest =>
    p.orElse (k p n read (c :: rest)) fun p =>
      if ok n c then runShortest ok k p (n + 1) (c :: read) rest else p.fail

def runMatcher (dir : Direction) (accepts : CharTest) (greed : Greed) (least : Nat)
    (most : Option Nat) : Matcher := fun c p k =>
  let ok (n : Nat) (ch : Char) : Bool := Pattern.allowsMore most n && accepts ch
  let stop (p : Progress) (n : Nat) (read rest : Text) : Outcome :=
    if n < least then p.fail
    else
      match dir with
      | .forward => k ⟨read, rest, c.pos + n⟩ p
      | .backward => k ⟨rest, read, c.pos - n⟩ p
  let (read, rest) :=
    match dir with
    | .forward => (c.before, c.after)
    | .backward => (c.after, c.before)
  match greed with
  | .longest => runLongest ok stop p 0 read rest
  | .shortest => runShortest ok stop p 0 read rest

/-- A repetition as it is written: what is repeated, and how often. -/
structure Repetition where
  body : Matcher
  greed : Greed
  least : Nat
  most : Option Nat

/-- A matcher repeated, as repetition `number`. `changed` tells whether the last iteration changed
anything: one that did not is the last, however many are asked for. The fuel bounds the iterations. -/
def manyMatcher (s : Setting) (r : Repetition) (number : Nat) : Nat → Nat → Bool → Matcher
  | 0, n, changed => fun c p k => if changed && n < r.least then p.fail else k c p
  | fuel + 1, n, changed => fun c p k =>
    let bound := changed && r.least ≤ n && r.most.isNone && p.isBound s
    if bound && p.memo.fails number c.pos then p.fail
    else
      let stop (p : Progress) : Outcome := if changed && n < r.least then p.fail else k c p
      let more (p : Progress) : Outcome :=
        if changed && Pattern.allowsMore r.most n then
          r.body c p fun c' p' =>
            manyMatcher s r number fuel (n + 1) (c'.pos != c.pos || p'.differs s p) c' p' k
        else p.fail
      let outcome :=
        match r.greed with
        | .longest => p.orElse (more p) stop
        | .shortest => p.orElse (stop p) more
      match outcome with
      | .failed memo => .failed (if bound then memo.note number c.pos else memo)
      | o => o

def matcher (s : Setting) (calls : Nat → Direction → Matcher) (dir : Direction) : Expression → Matcher
  | .empty => fun c p k => k c p
  | .one accepts => oneMatcher s dir accepts
  | .seq a b => fun c p k =>
    match dir with
    | .forward => matcher s calls dir a c p fun c' p' => matcher s calls dir b c' p' k
    | .backward => matcher s calls dir b c p fun c' p' => matcher s calls dir a c' p' k
  | .either a b => fun c p k =>
    p.orElse (matcher s calls dir a c p k) fun p => matcher s calls dir b c p k
  | .many a greed least most => fun c p k =>
    match a, p.tolerance with
    | .one accepts, none => runMatcher dir accepts greed least most c p k
    | a, _ =>
      manyMatcher s ⟨matcher s calls dir a, greed, least, most⟩ p.memo.begun
        (2 * (c.ahead dir).length + 2) 0 true c { p with memo := p.memo.begin } k
  | .group n a => fun c p k =>
    matcher s calls dir a c p fun c' p' =>
      match dir with
      | .forward => k c' { p' with captures := (n, ⟨c, c'.pos⟩) :: p'.captures }
      | .backward => k c' { p' with captures := (n, ⟨c', c.pos⟩) :: p'.captures }
  | .atomic a => fun c p k =>
    match matcher s calls dir a c p .found with
    | .found c' p' => k c' p'
    | .failed memo => .failed memo
    | .refused _ => p.fail
  | .look side wanted a => fun c p k =>
    match matcher s calls side a c { p with tolerance := none } .found with
    | .found _ p' =>
      if wanted then k c { p' with tolerance := p.tolerance } else .failed p'.memo
    | .failed memo => if wanted then .failed memo else k c { p with memo }
    | .refused _ => if wanted then p.fail else k c p
  | .ifRead n a b => fun c p k =>
    if (p.captures.lookup n).isSome then matcher s calls dir a c p k else matcher s calls dir b c p k
  | .ifLook side wanted a b d => fun c p k =>
    match matcher s calls side a c p .found with
    | .found _ p' =>
      if wanted then matcher s calls dir b c { p' with tolerance := p.tolerance } k
      else matcher s calls dir d c p k
    | _ => if wanted then matcher s calls dir d c p k else matcher s calls dir b c p k
  | .at place => fun c p k =>
    if p.tolerance.isSome then placeMatcher s dir place (c.ahead dir).length c p k
    else if place.holds s.start c then k c p
    else p.fail
  | .caseless small => caselessMatcher s dir small
  | .sameAs n alike => fun c p k =>
    match p.captures.lookup n with
    | none => p.fail
    | some span =>
      let t := match dir with | .forward => span.text | .backward => span.text.reverse
      eachMatcher s dir (t.map alike) c p k
  | .call n => fun c p k => calls n dir c p fun c' p' => k c' { p' with captures := p.captures }
  | .withErrors t a => fun c p k =>
    matcher s calls dir a c { p with tolerance := some (t, {}) } fun c' p' =>
      toleranceEnd s dir (c'.ahead dir).length c' p' fun c'' p'' =>
        k c'' { p'' with tolerance := p.tolerance }
  | .keep => fun c p k => k c { p with kept := some c }
  | .fail => fun _ p _ => p.fail
  | .commit skip => fun c p k =>
    p.orElse (k c p) fun _ => .refused (if skip then some c.pos else none)

def calls (s : Setting) (whole : Expression) : Nat → Nat → Direction → Matcher
  | 0, _, _ => fun _ p _ => p.fail
  | depth + 1, n, dir => fun c p k =>
    match whole.part n with
    | some a => matcher s (calls s whole depth) dir a c p k
    | none => p.fail

end Geoscript.Expression
