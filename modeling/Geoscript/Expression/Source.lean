import Geoscript.Expression.Basic
import Geoscript.Text.Variant

/-! What a reader of a written expression keeps in mind: the text still to come, the settings in force and the groups
opened so far; and readers for characters, fixed texts and numbers. -/

namespace Geoscript.Expression

/-- A setting that an expression can turn on for itself. -/
inductive Flag where
  | ascii
  | bestFit
  | improvedFit
  | fullCase
  | ignoreCase
  | localBytes
  | multiline
  | longest
  | backward
  | dotAll
  | allScripts
  | firstEdition
  | secondEdition
  | segments
  | spaced
  deriving Repr, DecidableEq

namespace Flag

def ofLetter? : Char → Option Flag
  | 'a' => some .ascii
  | 'b' => some .bestFit
  | 'e' => some .improvedFit
  | 'f' => some .fullCase
  | 'i' => some .ignoreCase
  | 'L' => some .localBytes
  | 'm' => some .multiline
  | 'p' => some .longest
  | 'r' => some .backward
  | 's' => some .dotAll
  | 'u' => some .allScripts
  | 'w' => some .segments
  | 'x' => some .spaced
  | _ => none

/-- Whether the flag holds for a whole expression wherever it is written. -/
def isGlobal (f : Flag) : Bool :=
  [.firstEdition, .secondEdition, .bestFit, .improvedFit, .longest, .backward].contains f

end Flag

inductive ReadFault where
  | malformed
  /-- Settings exclude each other, or a number is missing. -/
  | badValue
  | twoEditions
  /-- The part being tried does not fit; another reading of it may. -/
  | unfit
  /-- The text must be read again with these settings from the start. -/
  | restart (flags : List Flag)
  deriving Repr, DecidableEq

/-- The groups of an expression: their number, their names, and how often each was opened. -/
structure Groups where
  count : Nat := 0
  names : List (Text × Nat) := []
  opened : List Nat := []
  deriving Repr

structure ReadState where
  rest : Text
  spaced : Bool
  flags : List Flag
  globals : List Flag
  groups : Groups := {}
  opening : List Nat := []
  /-- The groups found by an earlier reading. References are resolved with them. -/
  known : Option Groups := none

abbrev Reader := StateT ReadState (Except ReadFault)

namespace Reader

/-- The text after blanks and comments. A comment begins with a hash and ends with the line. -/
def skipIgnored : Bool → Text → Text
  | _, [] => []
  | true, c :: t => skipIgnored (c != '\n') t
  | false, c :: t =>
    if Text.isBlank c then skipIgnored false t
    else if c = '#' then skipIgnored true t
    else c :: t

def has (f : Flag) : Reader Bool := do
  return (← get).flags.contains f

def nextRaw : Reader (Option Char) := do
  let s ← get
  match s.rest with
  | [] => return none
  | c :: t =>
    set { s with rest := t }
    return some c

def next : Reader (Option Char) := do
  let s ← get
  if s.spaced then set { s with rest := skipIgnored false s.rest }
  nextRaw

def after? (spaced : Bool) : Text → Text → Option Text
  | [], t => some t
  | c :: lead, t =>
    match if spaced then skipIgnored false t else t with
    | d :: t => if c = d then after? spaced lead t else none
    | [] => none

def skip (lead : String) : Reader Bool := do
  let s ← get
  match after? s.spaced lead.toList s.rest with
  | some t =>
    set { s with rest := t }
    return true
  | none => return false

def expect (lead : String) : Reader Unit := do
  if !(← skip lead) then throw .malformed

def atEnd : Reader Bool := do
  let s ← get
  return (if s.spaced then skipIgnored false s.rest else s.rest).isEmpty

/-- The characters that pass a test, from the start of a text with blanks and comments in it, and the
text after them. -/
def spanSpaced (test : Char → Bool) : Bool → Text → Text × Text
  | _, [] => ([], [])
  | true, c :: t => spanSpaced test (c != '\n') t
  | false, c :: t =>
    if Text.isBlank c then spanSpaced test false t
    else if c = '#' then spanSpaced test true t
    else if test c then
      let (taken, rest) := spanSpaced test false t
      (c :: taken, rest)
    else ([], c :: t)

def takeWhile (test : Char → Bool) : Reader Text := do
  let s ← get
  let (taken, rest) :=
    if s.spaced then spanSpaced test false s.rest else (s.rest.takeWhile test, s.rest.dropWhile test)
  set { s with rest := rest }
  return taken

def digits : Reader Text :=
  takeWhile Char.isDigit

def valueOf (ds : Text) : Nat :=
  ds.foldl (fun n c => 10 * n + (c.toNat - 48)) 0

/-- Reads with a reader; if its part does not fit, goes back and gives nothing. -/
def attempt {α : Type} (r : Reader α) : Reader (Option α) :=
  tryCatch (some <$> r) fun
    | .unfit => pure none
    | fault => throw fault

def isSecondEdition : Reader Bool :=
  has .secondEdition

/-- The characters that count as a code point under the settings in force. -/
def variantsOf : Reader (Option (Nat → List Nat)) := do
  if ← has .ignoreCase then
    if (← has .ascii) || (← has .localBytes) then return some Text.basicVariants
    else return some Text.variants
  else return none

/-- Whether one character may count as several small letters under the settings in force. -/
def foldsFully : Reader Bool := do
  return (← has .ignoreCase) && (← has .fullCase) && !(← has .ascii) && !(← has .localBytes)

end Reader

end Geoscript.Expression
