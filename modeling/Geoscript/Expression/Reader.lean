import Geoscript.Expression.Search
import Geoscript.Expression.Tolerance

/-! The written notation of expressions. References may point forward and settings may hold from the start, so a text
is read once to learn its settings and groups and then again with them. -/

namespace Geoscript

namespace Expression

namespace Reader

/-- The bounds of a repetition in braces, whose opening brace has been read, if what follows are some. -/
def braceBounds? : Reader (Option Bounds) := do
  let s ← get
  let least ← digits
  let bounds? : Option Bounds ← do
    if ← skip "," then
      let most ← digits
      pure (some ⟨valueOf least, if most.isEmpty then none else some (valueOf most)⟩)
    else if least.isEmpty then pure none
    else pure (some ⟨valueOf least, some (valueOf least)⟩)
  match bounds? with
  | some b =>
    if ← skip "\x7d" then
      let tooBig (n : Nat) : Bool := 0xFFFFFFFF ≤ n
      if tooBig b.least || b.most.any tooBig || b.most.any (· < b.least) then throw .malformed
      return some b
  | none => pure ()
  set s
  return none

/-- The bounds of a repetition whose first character has been read, if it is one. -/
def bounds? (c : Char) : Reader (Option Bounds) :=
  match c with
  | '?' => return some ⟨0, some 1⟩
  | '*' => return some ⟨0, none⟩
  | '+' => return some ⟨1, none⟩
  | '{' => braceBounds?
  | _ => return none

/-- An expression repeated. A sign after the bounds asks for the fewest repetitions or gives up the way
back. What is made of nothing is not repeated. -/
def repeated (b : Bounds) (e : Expression) : Reader Expression := do
  let s ← get
  let wrap : Expression → Expression ← do
    match ← next with
    | some '?' => pure fun e => .many e .shortest b.least b.most
    | some '+' => pure fun e => .atomic (.many e .longest b.least b.most)
    | _ =>
      set s
      pure fun e => .many e .longest b.least b.most
  if e.isEmpty || (b.least == 1 && b.most == some 1) then return e else return wrap e

/-- An expression that tolerates errors. A group tolerates them within. -/
def tolerant (t : Tolerance) : Expression → Expression
  | .group n e => .group n (.withErrors t e)
  | e => .withErrors t e

def lineRule : Reader LineRule := do
  if ← has .segments then return .separators else return .feed

def anyChar : Reader Expression := do
  if ← has .dotAll then return .one fun _ => true
  match ← lineRule with
  | .feed => return .one fun c => c != '\n'
  | .separators => return .one fun c => !isSeparator c

def startPlace : Reader Expression := do
  if ← has .multiline then return .at (.lineStart (← lineRule)) else return .at .textStart

def endPlace : Reader Expression := do
  if ← has .multiline then return .at (.lineEnd (← lineRule))
  else return .at (.lastLineEnd (← lineRule))

def setFlags (flags : List Flag) : Reader Unit :=
  modify fun s => { s with flags := flags, spaced := flags.contains .spaced }

/-- Reads up to a closing parenthesis. Settings changed within are restored after it. -/
def enclosed (body : Reader Expression) : Reader Expression := do
  let flags := (← get).flags
  let e ← body
  expect ")"
  setFlags flags
  return e

/-- The number of the next new group. A named group passes over numbers that have a name. -/
def freshNumber (named : Bool) (g : Groups) : Nat :=
  if named then
    ((List.range (g.names.length + 1)).map (g.count + 1 + ·)).find? (fun n => !g.names.any (·.2 == n))
      |>.getD (g.count + 1)
  else g.count + 1

def openGroup (name : Option Text) : Reader Nat := do
  let s ← get
  let g := s.groups
  let (n, g) :=
    match name.bind fun name => g.names.lookup name with
    | some n => (n, g)
    | none =>
      let n := freshNumber name.isSome g
      (n, { g with count := n, names := (name.map (·, n)).toList ++ g.names })
  let g := if s.opening.contains n then g else { g with opened := n :: g.opened }
  set { s with groups := g, opening := n :: s.opening }
  return n

def groupBody (branches : Reader Expression) (n : Nat) : Reader Expression := do
  let e ← enclosed branches
  modify fun s => { s with opening := s.opening.drop 1 }
  return .group n e

def plainGroup (branches : Reader Expression) : Reader Expression := do
  groupBody branches (← openGroup none)

def namedGroup (branches : Reader Expression) : Reader Expression := do
  let n ← openGroup (some (← name false))
  expect ">"
  groupBody branches n

/-- A call of a group. A name that stands for several groups cannot be called. -/
def callOf (n : Nat) : Reader Expression := do
  let unknown := (← get).known.any fun known =>
    known.count < n || (n != 0 && 1 < (known.opened.filter (· == n)).length)
  if unknown then throw .malformed
  return .call n

def namedCall : Reader Expression := do
  let name ← name false
  expect ")"
  callOf (← groupNumber name)

def extension (branches : Reader Expression) : Reader Expression := do
  match ← next with
  | some '<' => namedGroup branches
  | some '=' =>
    let name ← name true
    expect ")"
    if ← isOpening name then throw .malformed
    reference name
  | some '>' => namedCall
  | some '&' => namedCall
  | _ => throw .malformed

/-- The text of a comment left out. A backslash hides the character after it. -/
def afterComment : Text → Text
  | [] => []
  | ')' :: t => ')' :: t
  | ['\\'] => []
  | '\\' :: _ :: t => afterComment t
  | _ :: t => afterComment t

def conditionBranches (sequence : Reader Expression) : Reader (Expression × Expression) := do
  let yes ← sequence
  if ← skip "|" then return (yes, ← sequence) else return (yes, .empty)

def lookCondition (branches sequence : Reader Expression) (dir : Direction) (wanted : Bool) :
    Reader Expression := do
  let look ← enclosed branches
  let (yes, no) ← conditionBranches sequence
  expect ")"
  return .ifLook dir wanted look yes no

/-- A condition on a group. The reserved name marks definitions, which are never matched in place. -/
def groupCondition (sequence : Reader Expression) : Reader Expression := do
  let flags := (← get).flags
  let group ← name true
  expect ")"
  let (yes, no) ← conditionBranches sequence
  expect ")"
  setFlags flags
  if yes.isEmpty && no.isEmpty then return .empty
  let s ← get
  let isDefinition := group == "DEFINE" && s.known.any fun known => (known.names.lookup group).isNone
  let n ← if isDefinition then pure 0 else groupNumber group
  if s.known.any fun known => known.count < n then throw .malformed
  return .ifRead n yes no

def condition (branches sequence : Reader Expression) : Reader Expression := do
  let s ← get
  match ← next with
  | some '?' =>
    match ← next with
    | some '=' => lookCondition branches sequence .forward true
    | some '!' => lookCondition branches sequence .forward false
    | some '<' =>
      match ← next with
      | some '=' => lookCondition branches sequence .backward true
      | some '!' => lookCondition branches sequence .backward false
      | _ => throw .malformed
    | _ => throw .malformed
  | _ =>
    set s
    groupCondition sequence

/-- Branches that number their groups alike. The fuel bounds the branches; `first` is the number of
groups before them, and `most` the greatest number after one of them. -/
def alikeBranches (sequence : Reader Expression) (first : Nat) : Nat → Nat → Reader (List Expression)
  | 0, _ => throw .malformed
  | fuel + 1, most => do
    let setCount (n : Nat) : Reader Unit :=
      modify fun s => { s with groups := { s.groups with count := n } }
    setCount first
    let e ← sequence
    let most := max most (← get).groups.count
    if ← skip "|" then return e :: (← alikeBranches sequence first fuel most)
    else
      setCount most
      return [e]

def flagLetters : Nat → Reader (List Flag)
  | 0 => return []
  | fuel + 1 => do
    let s ← get
    let flag : Option Flag ← do
      match ← next with
      | some 'V' =>
        match ← next with
        | some '0' => pure (some .firstEdition)
        | some '1' => pure (some .secondEdition)
        | _ => pure none
      | some c => pure (Flag.ofLetter? c)
      | none => pure none
    match flag with
    | some f => return f :: (← flagLetters fuel)
    | none =>
      set s
      return []

/-- Turns settings on and off from here on. In the first edition this holds for the whole expression,
and nothing can be turned off. -/
def changeFlags (on off : List Flag) : Reader Unit := do
  let s ← get
  if ← isSecondEdition then
    setFlags ((s.flags ++ on).filter fun f => !off.contains f)
  else
    if !off.isEmpty then throw .malformed
    let fresh := on.filter fun f => !s.globals.contains f
    if !fresh.isEmpty then throw (.restart (s.globals ++ fresh))
    setFlags s.flags

/-- Settings, alone or for an expression after a colon. Some hold for the whole expression and make it
necessary to start again. -/
def settings (branches : Reader Expression) : Reader (Option Expression) := do
  let s ← get
  let on ← flagLetters (s.rest.length + 1)
  let off : List Flag ← do
    if ← skip "-" then
      let off ← flagLetters (s.rest.length + 1)
      if off.isEmpty then throw .malformed
      pure off
    else pure []
  if off.any (·.isGlobal) || on.any off.contains then throw .malformed
  let fresh := on.filter fun f => f.isGlobal && !s.globals.contains f
  if !fresh.isEmpty then throw (.restart (s.globals ++ fresh))
  let on := on.filter fun f => !f.isGlobal
  if ← skip ":" then
    let flags := s.flags
    setFlags ((flags ++ on).filter fun f => !off.contains f)
    let e ← branches
    expect ")"
    setFlags flags
    return some e
  else if ← skip ")" then
    changeFlags on off
    return none
  else throw .malformed

def special (branches sequence : Reader Expression) : Reader (Option Expression) := do
  let s ← get
  match ← nextRaw with
  | some '<' =>
    let here ← get
    match ← next with
    | some '=' => return some (.look .backward true (← enclosed branches))
    | some '!' => return some (.look .backward false (← enclosed branches))
    | _ =>
      set here
      return some (← namedGroup branches)
  | some '=' => return some (.look .forward true (← enclosed branches))
  | some '!' => return some (.look .forward false (← enclosed branches))
  | some 'P' => return some (← extension branches)
  | some '#' =>
    modify fun s => { s with rest := afterComment s.rest }
    expect ")"
    return none
  | some '(' => return some (← condition branches sequence)
  | some '>' => return some (.atomic (← enclosed branches))
  | some '|' =>
    let here ← get
    let es ← alikeBranches sequence here.groups.count (here.rest.length + 1) here.groups.count
    expect ")"
    return some (.anyOf es)
  | some 'R' =>
    expect ")"
    return some (← callOf 0)
  | some '&' => return some (← namedCall)
  | some c =>
    if c.isDigit then
      let ds ← digits
      expect ")"
      return some (← callOf (valueOf (c :: ds)))
    else
      set s
      settings branches
  | none =>
    set s
    settings branches

def verb? : Reader (Option Expression) := do
  let word ← takeWhile isNameChar
  if !word.head?.any Property.letter then return none
  let e : Expression ←
    match String.ofList word with
    | "FAIL" => pure .fail
    | "F" => pure .fail
    | "PRUNE" => pure (.commit false)
    | "SKIP" => pure (.commit true)
    | _ => throw .malformed
  expect ")"
  return some e

/-- What an opening parenthesis introduces. Comments and settings leave nothing. -/
def parenthesis (branches sequence : Reader Expression) : Reader (Option Expression) := do
  let s ← get
  match ← nextRaw with
  | some '?' => special branches sequence
  | some '*' =>
    match ← verb? with
    | some e => return some e
    | none =>
      set s
      return some (← plainGroup branches)
  | _ =>
    set s
    return some (← plainGroup branches)

/-- Expressions with neighbouring folded texts joined, since a character may stand for letters of both. -/
def joined : List Expression → List Expression
  | [] => []
  | e :: es =>
    match e, joined es with
    | .caseless a, .caseless b :: rest => .caseless (a ++ b) :: rest
    | e, rest => e :: rest

/-- The sequence of the items read, latest first. A missing item marks where nothing can be repeated. -/
def sequenceOf (items : List (Option Expression)) : Expression :=
  .all (joined (items.reverse.filterMap id))

/-- A sign that may repeat the last item or make it tolerate errors, or else stands for itself. -/
def suffix (c : Char) (items : List (Option Expression)) : Reader (List (Option Expression)) := do
  let (last, earlier) := (items.head?.join, items.drop 1)
  match ← bounds? c with
  | some b =>
    match last with
    | some e => return none :: some (← repeated b e) :: earlier
    | none => throw .malformed
  | none =>
    match ← tolerance? with
    | some t =>
      match last with
      | some e => return none :: some (tolerant t e) :: earlier
      | none => throw .malformed
    | none => return some (← charExpression c.toNat) :: items

def moreBranches (sequence : Reader Expression) : Nat → Reader (List Expression)
  | 0 => return []
  | fuel + 1 => do
    if ← skip "|" then
      let e ← sequence
      return e :: (← moreBranches sequence fuel)
    else return []

mutual

/-- The branches up to a closing parenthesis or the end. The fuel bounds items and depth. -/
def branches : Nat → Reader Expression
  | 0 => throw .malformed
  | fuel + 1 => do
    let first ← items fuel [none]
    let rest ← moreBranches (items fuel [none]) fuel
    return .anyOf (first :: rest)

/-- The items of a sequence after those read, which stand latest first. -/
def items : Nat → List (Option Expression) → Reader Expression
  | 0, _ => throw .malformed
  | fuel + 1, read => do
    let s ← get
    match ← next with
    | none => return sequenceOf read
    | some c =>
      match c with
      | ')' =>
        set s
        return sequenceOf read
      | '|' =>
        set s
        return sequenceOf read
      | '\\' =>
        let e ← atomExpression (← escape false)
        items fuel (some e :: read)
      | '(' =>
        match ← parenthesis (branches fuel) (items fuel [none]) with
        | some e => items fuel (some e :: read)
        | none => items fuel read
      | '.' => items fuel (some (← anyChar) :: read)
      | '[' => items fuel (some (← charSet) :: read)
      | '^' => items fuel (some (← startPlace) :: read)
      | '$' => items fuel (some (← endPlace) :: read)
      | '?' => items fuel (← suffix c read)
      | '*' => items fuel (← suffix c read)
      | '+' => items fuel (← suffix c read)
      | '{' => items fuel (← suffix c read)
      | c => items fuel (some (← charExpression c.toNat) :: read)

end

def whole : Reader Expression := do
  let e ← branches (3 * (← get).rest.length + 10)
  if !(← atEnd) then throw .malformed
  return e

end Reader

/-- Reads a text with the given settings and, if they are known, its groups. -/
def readWith (flags : List Flag) (known : Option Groups) (t : Text) :
    Except ReadFault (Expression × ReadState) :=
  if flags.contains .firstEdition && flags.contains .secondEdition then .error .twoEditions
  else
    let flags := if flags.contains .secondEdition then flags ++ [.fullCase] else flags
    Reader.whole.run
      { rest := t, spaced := flags.contains .spaced, flags := flags, globals := flags, known := known }

/-- Whether settings exclude each other: at most one says which characters count. -/
def conflicts (flags : List Flag) : Bool :=
  1 < ([Flag.ascii, .localBytes, .allScripts].filter flags.contains).length

end Expression

namespace Search

open Expression

def fitOf (flags : List Flag) : Fit :=
  if flags.contains .bestFit then .best
  else if flags.contains .improvedFit then .improved
  else .first

/-- Reads a text, again and again as long as it asks for further settings. The fuel bounds the settings
asked for. -/
def readFrom (t : Text) : Nat → List Flag → Except ReadFault Search
  | 0, _ => .error .malformed
  | fuel + 1, flags =>
    match readWith flags none t with
    | .error (.restart flags) => readFrom t fuel flags
    | .error fault => .error fault
    | .ok (_, s) =>
      if conflicts s.flags then .error .badValue
      else
        match readWith flags (some s.groups) t with
        | .error fault => .error fault
        | .ok (e, s) =>
          .ok {
            expression := e
            groups := s.groups.count
            lead := e.lead?
            dir := if s.globals.contains .backward then .backward else .forward
            longest := s.globals.contains .longest
            fit := fitOf s.globals }

def read (flags : List Flag) (t : Text) : Except ReadFault Search :=
  readFrom t 20 flags

end Search

end Geoscript
