import Geoscript.Pattern.Basic

/-! Expressions that a user has written. Besides what patterns have, there are conditions, references, places of
several kinds, verbs that cut off the way back, and parts that match with errors. -/

namespace Geoscript

namespace Expression

abbrev CharTest := Char → Bool

inductive WordRule where
  | full
  | basic
  | segments
  deriving Repr, DecidableEq

inductive LineRule where
  | feed
  | separators
  deriving Repr, DecidableEq

inductive Place where
  | textStart
  | textEnd
  | lineStart (rule : LineRule)
  | lineEnd (rule : LineRule)
  | lastLineEnd (rule : LineRule)
  | wordEdge (rule : WordRule) (wanted : Bool)
  | wordStart (rule : WordRule)
  | wordEnd (rule : WordRule)
  | clusterEdge
  | searchStart
  deriving Repr, DecidableEq

/-- The three kinds of errors: a character stands for another one, a character is added, a character is
missing. -/
inductive ErrorKind where
  | substitution
  | insertion
  | deletion
  deriving Repr, DecidableEq

structure ErrorCount where
  substitutions : Nat := 0
  insertions : Nat := 0
  deletions : Nat := 0
  deriving Repr, DecidableEq

namespace ErrorCount

def get (n : ErrorCount) : ErrorKind → Nat
  | .substitution => n.substitutions
  | .insertion => n.insertions
  | .deletion => n.deletions

def add (n : ErrorCount) : ErrorKind → ErrorCount
  | .substitution => { n with substitutions := n.substitutions + 1 }
  | .insertion => { n with insertions := n.insertions + 1 }
  | .deletion => { n with deletions := n.deletions + 1 }

def total (n : ErrorCount) : Nat :=
  n.substitutions + n.insertions + n.deletions

def weighed (n cost : ErrorCount) : Nat :=
  n.substitutions * cost.substitutions + n.insertions * cost.insertions +
    n.deletions * cost.deletions

end ErrorCount

/-- The least and the greatest number allowed. -/
structure Bounds where
  least : Nat := 0
  most : Option Nat := none
  deriving Repr, DecidableEq

/-- How many errors a part may be matched with. -/
structure Tolerance where
  substitutions : Bounds := {}
  insertions : Bounds := {}
  deletions : Bounds := {}
  errors : Bounds := {}
  cost : ErrorCount := ⟨1, 1, 1⟩
  budget : Option Nat := none
  test : CharTest := fun _ => true

namespace Tolerance

def bounds (t : Tolerance) : ErrorKind → Bounds
  | .substitution => t.substitutions
  | .insertion => t.insertions
  | .deletion => t.deletions

def allows (t : Tolerance) (made : ErrorCount) (kind : ErrorKind) : Bool :=
  (t.budget.all ((made.weighed t.cost + t.cost.get kind) ≤ ·)) &&
    ((t.bounds kind).most.all (made.get kind < ·)) && (t.errors.most.all (made.total < ·))

def satisfied (t : Tolerance) (made : ErrorCount) : Bool :=
  t.substitutions.least ≤ made.substitutions && t.insertions.least ≤ made.insertions &&
    t.deletions.least ≤ made.deletions && t.errors.least ≤ made.total

end Tolerance

end Expression

open Expression in
/-- Expressions. `call 0` stands for the whole expression and `call n` for the body of group `n`. -/
inductive Expression where
  | empty
  | one (accepts : CharTest)
  | seq (p q : Expression)
  | either (p q : Expression)
  | many (p : Expression) (greed : Greed) (least : Nat) (most : Option Nat)
  | group (n : Nat) (p : Expression)
  | atomic (p : Expression)
  | look (dir : Direction) (wanted : Bool) (p : Expression)
  /-- The first expression if the group has been read, else the second. -/
  | ifRead (n : Nat) (p q : Expression)
  /-- The second expression if the look succeeds, else the third. -/
  | ifLook (dir : Direction) (wanted : Bool) (p q r : Expression)
  | at (place : Place)
  /-- Text that folds to the given small letters, where one character may fold to several. -/
  | caseless (small : List Nat)
  /-- The text of a group once more, compared with the given rule. -/
  | sameAs (n : Nat) (alike : Char → Char → Bool)
  | call (n : Nat)
  | withErrors (tolerance : Tolerance) (p : Expression)
  | keep
  | fail
  /-- No way back past this place; with `skip`, the search goes on from here. -/
  | commit (skip : Bool)

namespace Expression

def all : List Expression → Expression
  | [] => .empty
  | [p] => p
  | p :: ps => .seq p (all ps)

def anyOf : List Expression → Expression
  | [] => .empty
  | [p] => p
  | p :: ps => .either p (anyOf ps)

/-- Whether the expression is made of nothing: it matches the empty text only, without a condition. -/
def isEmpty : Expression → Bool
  | .empty => true
  | .seq p q => p.isEmpty && q.isEmpty
  | .either p q => p.isEmpty && q.isEmpty
  | .many p _ _ _ => p.isEmpty
  | .group _ p => p.isEmpty
  | .atomic p => p.isEmpty
  | .look _ _ p => p.isEmpty
  | .ifRead _ p q => p.isEmpty && q.isEmpty
  | .withErrors _ p => p.isEmpty
  | _ => false

def body? (n : Nat) : Expression → Option Expression
  | .group m p => if m = n then some p else body? n p
  | .seq p q => body? n p <|> body? n q
  | .either p q => body? n p <|> body? n q
  | .many p _ _ _ => body? n p
  | .atomic p => body? n p
  | .look _ _ p => body? n p
  | .ifRead _ p q => body? n p <|> body? n q
  | .ifLook _ _ p q r => body? n p <|> body? n q <|> body? n r
  | .withErrors _ p => body? n p
  | _ => none

def part (whole : Expression) (n : Nat) : Option Expression :=
  if n = 0 then some whole else whole.body? n

/-- The characters that a match read forwards can begin with, if the expression begins with one. -/
def lead? : Expression → Option CharTest
  | .one accepts => some accepts
  | .seq p _ => p.lead?
  | .either p q =>
    match p.lead?, q.lead? with
    | some a, some b => some fun c => a c || b c
    | _, _ => none
  | .group _ p => p.lead?
  | .atomic p => p.lead?
  | .many p _ least _ => if least = 0 then none else p.lead?
  | _ => none

def asksFor (n : Nat) : Expression → Bool
  | .sameAs m _ => m == n
  | .ifRead m p q => m == n || asksFor n p || asksFor n q
  | .seq p q => asksFor n p || asksFor n q
  | .either p q => asksFor n p || asksFor n q
  | .many p _ _ _ => asksFor n p
  | .group _ p => asksFor n p
  | .atomic p => asksFor n p
  | .look _ _ p => asksFor n p
  | .ifLook _ _ p q r => asksFor n p || asksFor n q || asksFor n r
  | .withErrors _ p => asksFor n p
  | _ => false

end Expression

end Geoscript
