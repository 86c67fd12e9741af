import Geoscript.Expression.Property
import Geoscript.Expression.Source
import Geoscript.Text.CharName

/-! What a backslash introduces: a character by its number or name, a class, a place, or a reference to a group. -/

namespace Geoscript.Expression

/-- A part of an expression that stands for one character, or a whole expression. -/
inductive Atom where
  | char (n : Nat)
  | property (p : Property)
  | whole (e : Expression)

namespace Atom

/-- The characters that count as a code point, given the rule for variants. -/
def charTest (variants : Option (Nat → List Nat)) (n : Nat) : CharTest :=
  match variants with
  | none => fun c => c.toNat == n
  | some variants =>
    let all := variants n
    fun c => c.toNat == n || all.contains c.toNat

end Atom

namespace Reader

def charExpression (n : Nat) : Reader Expression := do
  if ← foldsFully then return .caseless (Text.fullyFolded n)
  else return .one (Atom.charTest (← variantsOf) n)

def propertyExpression (p : Property) : Reader Expression := do
  return .one (if (← variantsOf).isSome then p.loose else p.strict)

def atomExpression : Atom → Reader Expression
  | .char n => charExpression n
  | .property p => propertyExpression p
  | .whole e => return e

def inScope (p : Property) : Reader Property := do
  if (← has .ascii) || (← has .localBytes) then
    return ⟨fun c => c.toNat < 128 && p.strict c, fun c => c.toNat < 128 && p.loose c⟩
  else return p

def classAtom (test : CharTest) (wanted : Bool) : Reader Atom := do
  let p ← inScope (.plain test)
  return .property (if wanted then p else p.complement)

def isNameChar (c : Char) : Bool :=
  !(c == ')' || c == '>')

def isIdentifier : Text → Bool
  | [] => false
  | c :: t =>
    (c == '_' || Property.stableIdentifierStart c) && t.all Property.stableIdentifierContinue

/-- Reads the name of a group. A number is a name only where it is `allowed`. -/
def name (allowed : Bool) : Reader Text := do
  let name ← takeWhile isNameChar
  if name.isEmpty then throw .malformed
  if name.all Char.isDigit then
    if !allowed || valueOf name == 0 then throw .malformed
  else if !isIdentifier name then throw .malformed
  return name

/-- The number of a group by its name, once all groups are known; before that nothing is. -/
def groupNumber (name : Text) : Reader Nat := do
  match (← get).known with
  | none => return 0
  | some known =>
    if !name.isEmpty && name.all Char.isDigit then return valueOf name
    else
      match known.names.lookup name with
      | some n => return n
      | none => throw .malformed

/-- Whether a group with this name is being read. In the second edition none counts as such. -/
def isOpening (name : Text) : Reader Bool := do
  if ← isSecondEdition then return false
  let s ← get
  let number? :=
    if name.all Char.isDigit then some (valueOf name) else s.groups.names.lookup name
  return number?.any s.opening.contains

def reference (name : Text) : Reader Expression := do
  let n ← groupNumber name
  if (← get).known.any fun known => n == 0 || known.count < n then throw .malformed
  let alike : Char → Char → Bool :=
    match ← variantsOf with
    | none => fun a b => a == b
    | some variants => fun a b => a == b || (variants a.toNat).contains b.toNat
  return .sameAs n alike

/-- Reads the name of a group in pointed brackets, if one comes next that can be referred to. -/
def bracketedName? : Reader (Option Text) :=
  tryCatch
    (do
      expect "<"
      let name ← name true
      expect ">"
      if ← isOpening name then throw .malformed
      return some name)
    fun _ => return none

def hexadecimal : Nat → Nat → Reader Nat
  | 0, value => if value < 0x110000 then return value else throw .malformed
  | n + 1, value => do
    match (← next).bind Text.Ranges.hexDigit? with
    | some d => hexadecimal n (16 * value + d)
    | none => throw .malformed

def isOctal (c : Char) : Bool :=
  '0' ≤ c && c ≤ '7'

def octalValue (ds : Text) : Nat :=
  ds.foldl (fun n c => 8 * n + (c.toNat - 48)) 0

def octals : Nat → Reader Text
  | 0 => return []
  | n + 1 => do
    let s ← get
    match ← next with
    | some c =>
      if isOctal c then return c :: (← octals n)
      else
        set s
        return []
    | none =>
      set s
      return []

def octal (first : Char) : Reader Atom := do
  if !isOctal first then throw .malformed
  let more ← octals 2
  return .char (octalValue (first :: more))

/-- A digit after a backslash: a code point of three octal digits, or a reference to a group of one or
two digits. -/
def numeric (first : Char) : Reader Atom := do
  if first = '0' then return ← octal first
  let s ← get
  let two : Option (Char × ReadState) ← do
    match ← next with
    | some c => if c.isDigit then pure (some (c, ← get)) else pure none
    | none => pure none
  let refer (ds : Text) (s : ReadState) : Reader Atom := do
    set s
    if ← isOpening ds then throw .malformed
    return .whole (← reference ds)
  match two with
  | none => refer [first] s
  | some (second, s) =>
    match ← next with
    | some third =>
      if isOctal first && isOctal second && isOctal third then
        let narrow := (← has .ascii) || (← has .localBytes)
        return .char (octalValue [first, second, third] % if narrow then 256 else 512)
      else refer [first, second] s
    | none => refer [first, second] s

/-- A character by its name in braces. Without braces the letter stands for itself. -/
def named : Reader Atom := do
  let s ← get
  if ← skip "\x7b" then
    let part (c : Char) : Bool := c.isAlphanum || c == ' ' || c == '-'
    let here ← get
    let name := here.rest.takeWhile part
    set { here with rest := here.rest.dropWhile part }
    if ← skip "\x7d" then
      match Text.charNamed? (String.ofList name) with
      | some n => return .char n
      | none => throw .malformed
  set s
  return .char 'N'.toNat

/-- Reads the name of a property, alone or as a property and its value. -/
def propertyName : Reader (Option Text × Text) := do
  let part (c : Char) : Bool := c.isAlphanum || [' ', '&', '_', '-', '.'].contains c
  let first ← takeWhile part
  let s ← get
  match ← next with
  | some c =>
    if c = ':' || c = '=' then
      let second ← takeWhile fun c => part c || c == '/'
      let value := Text.trim second
      if value.isEmpty then
        set s
        return (none, first)
      else return (some first, value)
    else
      set s
      return (none, first)
  | none =>
    set s
    return (none, first)

def lookUp (portable : Bool) (property : Option Text) (value : Text) : Reader Property := do
  match Property.find? portable (property.map String.ofList) (String.ofList value) with
  | some p => return p
  | none => throw .malformed

/-- A class by the name of a property, in braces or as one letter. Without either the letter after the
backslash stands for itself. -/
def property (wanted : Bool) : Reader Atom := do
  let s ← get
  let finish (p : Property) (wanted : Bool) : Reader Atom := do
    let p ← inScope p
    return .property (if wanted then p else p.complement)
  match ← next with
  | some '{' =>
    let negated ← skip "^"
    let (property, value) ← propertyName
    if ← skip "\x7d" then
      return ← finish (← lookUp false property value) (wanted != negated)
  | some c =>
    if "CLMNPSZ".toList.contains c then
      return ← finish (← lookUp false none [c]) wanted
  | none => pure ()
  set s
  return .char (if wanted then 'p' else 'P').toNat

def wordRule : Reader WordRule := do
  if ← has .segments then return .segments
  else if ← has .ascii then return .basic
  else return .full

def place? (c : Char) : Reader (Option Expression) := do
  let rule ← wordRule
  return match c with
  | 'A' => some (.at .textStart)
  | 'Z' => some (.at .textEnd)
  | 'b' => some (.at (.wordEdge rule true))
  | 'B' => some (.at (.wordEdge rule false))
  | 'm' => some (.at (.wordStart rule))
  | 'M' => some (.at (.wordEnd rule))
  | 'K' => some .keep
  | _ => none

def class? (c : Char) : Option (CharTest × Bool) :=
  match c with
  | 'd' => some (Property.digit, true)
  | 'D' => some (Property.digit, false)
  | 'h' => some (Property.blank, true)
  | 's' => some (Property.space, true)
  | 'S' => some (Property.space, false)
  | 'w' => some (Text.isWord, true)
  | 'W' => some (Text.isWord, false)
  | _ => none

/-- The code point of the control that a letter names after a backslash. -/
def control? : Char → Option Nat
  | 'a' => some 7
  | 'b' => some 8
  | 't' => some 9
  | 'n' => some 10
  | 'v' => some 11
  | 'f' => some 12
  | 'r' => some 13
  | _ => none

/-- An end of a line: a carriage return with a line feed, or one separator. -/
def lineBreak : Expression :=
  .atomic (.either
    (.seq (.one (· == '\r')) (.one (· == '\n')))
    (.one fun c =>
      (10 ≤ c.toNat && c.toNat ≤ 13) || c.toNat == 0x85 || c.toNat == 0x2028 || c.toNat == 0x2029))

def cluster : Expression :=
  .atomic (.seq (.many (.one fun _ => true) .shortest 1 none) (.at .clusterEdge))

/-- What a letter means after a backslash, unless it is one of the special ones. -/
def letterEscape (inSet : Bool) (c : Char) : Reader Atom := do
  if !inSet then
    if let some e ← place? c then return .whole e
  match class? c with
  | some (test, wanted) => classAtom test wanted
  | none =>
    match control? c with
    | some n => return .char n
    | none => throw .malformed

def escape (inSet : Bool) : Reader Atom := do
  match ← nextRaw with
  | none => throw .malformed
  | some c =>
    match c, inSet with
    | 'x', _ => return .char (← hexadecimal 2 0)
    | 'u', _ => return .char (← hexadecimal 4 0)
    | 'U', _ => return .char (← hexadecimal 8 0)
    | 'g', false =>
      match ← bracketedName? with
      | some name => return .whole (← reference name)
      | none => return .char 'g'.toNat
    | 'G', false => return .whole (.at .searchStart)
    | 'L', false => throw .malformed
    | 'N', _ => named
    | 'p', _ => property true
    | 'P', _ => property false
    | 'R', false => return .whole lineBreak
    | 'X', false => return .whole cluster
    | c, inSet =>
      if c.isAlpha then letterEscape inSet c
      else if c.isDigit then
        if inSet then octal c else numeric c
      else return .char c.toNat

end Reader

end Geoscript.Expression
