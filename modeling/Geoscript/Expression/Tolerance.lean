import Geoscript.Expression.Set

/-! How many errors a part tolerates, written in braces after it: limits as in `e<3` or `1<=s<=2`, an equation as in
`2i+1d<5`, and after a colon the characters that may be substituted or inserted. -/

namespace Geoscript.Expression

/-- What an equation of costs gives for each kind of error, and the greatest cost. -/
structure CostEquation where
  substitution : Option Nat := none
  insertion : Option Nat := none
  deletion : Option Nat := none
  most : Nat := 0

structure WrittenTolerance where
  substitutions : Option Bounds := none
  insertions : Option Bounds := none
  deletions : Option Bounds := none
  errors : Option Bounds := none
  cost : Option CostEquation := none
  test : Option CharTest := none

namespace WrittenTolerance

/-- The limits written for the kind of errors that a letter stands for. -/
def get? (w : WrittenTolerance) : Char → Option Bounds
  | 's' => w.substitutions
  | 'i' => w.insertions
  | 'd' => w.deletions
  | _ => w.errors

def put (w : WrittenTolerance) (kind : Char) (b : Bounds) : WrittenTolerance :=
  match kind with
  | 's' => { w with substitutions := some b }
  | 'i' => { w with insertions := some b }
  | 'd' => { w with deletions := some b }
  | _ => { w with errors := some b }

/-- The tolerance that is meant. A kind with a cost and no limit is unlimited; if some kind has a limit
or a cost, those without either are not allowed, and otherwise all are. -/
def toTolerance (w : WrittenTolerance) : Tolerance :=
  let costed (given : Option Bounds) (cost : Option Nat) : Option Bounds :=
    given <|> cost.map fun _ => ⟨0, none⟩
  let s := costed w.substitutions (w.cost.bind (·.substitution))
  let i := costed w.insertions (w.cost.bind (·.insertion))
  let d := costed w.deletions (w.cost.bind (·.deletion))
  let other : Bounds := if s.isSome || i.isSome || d.isSome then ⟨0, some 0⟩ else {}
  let errors := w.errors.getD {}
  { substitutions := s.getD other
    insertions := i.getD other
    deletions := d.getD other
    errors := errors
    cost :=
      match w.cost with
      | none => ⟨1, 1, 1⟩
      | some c => ⟨c.substitution.getD 0, c.insertion.getD 0, c.deletion.getD 0⟩
    budget :=
      match w.cost with
      | none => errors.most
      | some c => some c.most
    test := w.test.getD fun _ => true }

end WrittenTolerance

namespace Reader

/-- Reads a comparison sign and tells whether the limit itself is allowed. -/
def comparison? : Reader (Option Bool) := do
  if ← skip "<=" then return some true
  else if ← skip "<" then return some false
  else return none

def limit : Reader Nat := do
  let ds ← digits
  if ds.isEmpty then throw .malformed
  return valueOf ds

def upTo (inclusive : Bool) (n : Nat) : Reader Nat := do
  if inclusive then return n
  else if n = 0 then throw .malformed
  else return n - 1

def errorKind (w : WrittenTolerance) (c : Option Char) : Reader Char := do
  match c with
  | some c =>
    if "deis".toList.contains c && (w.get? c).isNone then return c else throw .unfit
  | none => throw .unfit

/-- A limit for a kind of errors: a letter that an upper limit may follow, or a letter between two. -/
def errorLimit (w : WrittenTolerance) : Reader WrittenTolerance := do
  let s ← get
  match ← next with
  | none => throw .unfit
  | some c =>
    if c.isAlpha then
      let kind ← errorKind w (some c)
      match ← comparison? with
      | none => return w.put kind {}
      | some inclusive =>
        let most ← upTo inclusive (← limit)
        return w.put kind ⟨0, some most⟩
    else if c.isDigit then
      set s
      let least ← limit
      match ← comparison? with
      | none => throw .unfit
      | some fromLeast =>
        let kind ← errorKind w (← next)
        match ← comparison? with
        | none => throw .unfit
        | some inclusive =>
          let least := if fromLeast then least else least + 1
          let most ← upTo inclusive (← limit)
          if most < least then throw .malformed
          return w.put kind ⟨least, some most⟩
    else throw .unfit

/-- A term of an equation of costs: a factor, which may be missing, and a letter. -/
def costTerm (e : CostEquation) : Reader CostEquation := do
  let ds ← digits
  let factor := if ds.isEmpty then 1 else valueOf ds
  match ← next with
  | some 's' =>
    if e.substitution.isSome then throw .malformed
    return { e with substitution := some factor }
  | some 'i' =>
    if e.insertion.isSome then throw .malformed
    return { e with insertion := some factor }
  | some 'd' =>
    if e.deletion.isSome then throw .malformed
    return { e with deletion := some factor }
  | _ => throw .unfit

/-- The terms of an equation of costs. There are at most three kinds of them. -/
def costTerms : Nat → CostEquation → Reader CostEquation
  | 0, _ => throw .malformed
  | fuel + 1, e => do
    let e ← costTerm e
    if ← skip "+" then costTerms fuel e else return e

def costEquation (w : WrittenTolerance) : Reader WrittenTolerance := do
  if w.cost.isSome then throw .malformed
  let e ← costTerms 4 {}
  match ← comparison? with
  | none => throw .unfit
  | some inclusive =>
    let ds ← digits
    if ds.isEmpty then throw .badValue
    let most ← upTo inclusive (valueOf ds)
    return { w with cost := some { e with most := most } }

def toleranceItem (w : WrittenTolerance) : Reader WrittenTolerance := do
  match ← attempt (errorLimit w) with
  | some w => return w
  | none => costEquation w

/-- Limits and equations that commas separate. The fuel bounds their number. -/
def toleranceItems : Nat → WrittenTolerance → Reader WrittenTolerance
  | 0, _ => throw .malformed
  | fuel + 1, w => do
    let w ← toleranceItem w
    if ← skip "," then toleranceItems fuel w else return w

def toleranceTest : Reader CharTest := do
  match ← next with
  | some '\\' =>
    match ← escape false with
    | .char n => return Atom.charTest (← variantsOf) n
    | .property p => return if (← variantsOf).isSome then p.loose else p.strict
    | .whole _ => throw .malformed
  | some '.' =>
    if ← has .dotAll then return fun _ => true
    else return fun c => c != '\n'
  | some '[' =>
    let (negated, m) ← writtenSet
    setTest negated m
  | some c =>
    if "()|?*+\x7b^$#".toList.contains c then throw .malformed
    else return Atom.charTest (← variantsOf) c.toNat
  | none => throw .malformed

/-- A tolerance whose opening brace has been read, if what follows is one. -/
def tolerance? : Reader (Option Tolerance) := do
  let fuel := (← get).rest.length + 1
  match ← attempt (toleranceItems fuel {}) with
  | none => return none
  | some w =>
    let w ←
      if ← skip ":" then pure { w with test := some (← toleranceTest) }
      else pure w
    if !(← skip "\x7d") then throw .malformed
    return some w.toTolerance

end Reader

end Geoscript.Expression
