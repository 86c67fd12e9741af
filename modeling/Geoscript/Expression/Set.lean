import Geoscript.Expression.Escape

/-! Sets of characters in square brackets. The second edition of the notation also has sets within sets, and operators
between them. -/

namespace Geoscript.Expression

inductive Member where
  | char (n : Nat)
  | property (p : Property)
  | test (t : CharTest)

namespace Member

def accepts : Member → CharTest
  | .char n => fun c => c.toNat == n
  | .property p => p.strict
  | .test t => t

def complement : Member → Member
  | .char n => .test fun c => c.toNat != n
  | .property p => .property p.complement
  | .test t => .test fun c => !t c

def union : List Member → Member
  | [m] => m
  | ms => .test fun c => ms.any fun m => m.accepts c

def inter : List Member → Member
  | [m] => m
  | ms => .test fun c => ms.all fun m => m.accepts c

def diff : List Member → Member
  | [m] => m
  | ms => .test fun c => (ms.head?.any fun m => m.accepts c) && !(ms.drop 1).any fun m => m.accepts c

def oddOnes : List Member → Member
  | [m] => m
  | ms => .test fun c => ms.foldl (fun odd m => odd != m.accepts c) false

/-- The characters of the member or, when case does not matter, with a variant in it. -/
def withVariants (variants : Option (Nat → List Nat)) (m : Member) : CharTest :=
  match variants, m with
  | none, m => m.accepts
  | some _, .property p => p.loose
  | some variants, .char n => Atom.charTest (some variants) n
  | some variants, .test t => fun c => t c || (variants c.toNat).any fun n => t (Char.ofNat n)

end Member

namespace Reader

/-- A class in bracketed colons, if what was read so far introduces one. -/
def portableClass : Reader Member := do
  let negated ← skip "^"
  let (property, value) ← propertyName
  if !(← skip ":]") then throw .unfit
  let p ← inScope (← lookUp true property value)
  return .property (if negated then p.complement else p)

def setItem (nested : Reader Member) : Reader Member := do
  if ← skip "\\" then
    match ← escape true with
    | .char n => return .char n
    | .property p => return .property p
    | .whole _ => throw .malformed
  else
    let portable ← attempt do
      if ← skip "[:" then portableClass else throw .unfit
    match portable with
    | some m => return m
    | none =>
      if (← isSecondEdition) && (← skip "[") then nested
      else
        match ← nextRaw with
        | some c => return .char c.toNat
        | none => throw .malformed

def setMember (nested : Reader Member) : Reader Member := do
  let first ← setItem nested
  match first with
  | .char lo =>
    let start ← get
    if !(← skip "-") then return first
    let middle ← get
    if (← isSecondEdition) && (← skip "-") then
      set start
      return first
    if ← skip "]" then
      set middle
      return .union [first, .char '-'.toNat]
    match ← setItem nested with
    | .char hi =>
      if hi < lo then throw .malformed
      else if hi = lo then return first
      else return .test fun c => lo ≤ c.toNat && c.toNat ≤ hi
    | last => return .union [first, .char '-'.toNat, last]
  | _ => return first

/-- Whether an operator of the second edition comes next. It is not read. -/
def atOperator : Reader Bool := do
  let s ← get
  let found ← ["||", "~~", "&&", "--"].anyM skip
  set s
  return found

/-- The members up to a closing bracket or an operator. The fuel bounds the members. -/
def setMembers (nested : Reader Member) : Nat → Reader (List Member)
  | 0 => throw .malformed
  | fuel + 1 => do
    let s ← get
    if ← skip "]" then
      set s
      return []
    if (← isSecondEdition) && (← atOperator) then return []
    let m ← setMember nested
    return m :: (← setMembers nested fuel)

def setRun (nested : Reader Member) : Reader Member := do
  let first ← setMember nested
  let rest ← setMembers nested ((← get).rest.length + 1)
  return .union (first :: rest)

/-- Operands that an operator separates. The fuel bounds their number. -/
def operands (op : String) (operand : Reader Member) : Nat → Reader (List Member)
  | 0 => throw .malformed
  | fuel + 1 => do
    let m ← operand
    if ← skip op then return m :: (← operands op operand fuel) else return [m]

/-- Sets combined by the operators of the second edition, from the one that binds least. -/
def setExpression (nested : Reader Member) : Reader Member := do
  let fuel := (← get).rest.length + 1
  let diff : Reader Member := Member.diff <$> operands "--" (setRun nested) fuel
  let inter : Reader Member := Member.inter <$> operands "&&" diff fuel
  let odd : Reader Member := Member.oddOnes <$> operands "~~" inter fuel
  Member.union <$> operands "||" odd fuel

/-- A set within a set, whose opening bracket has been read. The fuel bounds the depth. -/
def nestedSet : Nat → Reader Member
  | 0 => throw .malformed
  | fuel + 1 => do
    let negated ← skip "^"
    let m ← setExpression (nestedSet fuel)
    if !(← skip "]") then throw .malformed
    return if negated then m.complement else m

/-- A set whose opening bracket has been read, and whether it is negated. Blanks in it count. -/
def writtenSet : Reader (Bool × Member) := do
  let s ← get
  set { s with spaced := false }
  let negated ← skip "^"
  let nested := nestedSet (s.rest.length + 1)
  let m ← if ← isSecondEdition then setExpression nested else setRun nested
  if !(← skip "]") then throw .malformed
  modify fun now => { now with spaced := s.spaced }
  return (negated, m)

/-- The characters of a set. A negated one has no variants of its members. -/
def setTest (negated : Bool) (m : Member) : Reader CharTest := do
  let test := m.withVariants (← variantsOf)
  return if negated then fun c => !test c else test

/-- The characters that count as several small letters, as texts of these. -/
def spelledOut (accepts : CharTest) : List Expression :=
  (Text.expansions.filter fun (n, _) => accepts (Char.ofNat n)).map fun (_, small) => .caseless small

def charSet : Reader Expression := do
  let (negated, m) ← writtenSet
  let one := Expression.one (← setTest negated m)
  if negated || !(← foldsFully) then return one
  match m with
  | .char n => charExpression n
  | .property _ => return one
  | .test accepts => return .anyOf (one :: spelledOut accepts)

end Reader

end Geoscript.Expression
