import Geoscript.Number.Decimal
import Geoscript.Script.Fault
import Geoscript.Script.Identifier
import Geoscript.Script.Quote
import Geoscript.Text.Lower

/-! Keys of object literals are quoted, attributes are read by key, and an object passed to a call becomes keyword
arguments. -/

namespace Geoscript.Script

open Text

/-! ### Keys -/

def objectLiteral : Pattern :=
  .all [.str "\x7b", .group 1 (.starFew .any), .str "\x7d"]

def keyValue : Pattern :=
  .all [.group 1 .restFew, .str ":", .group 2 .rest]

def quoteKey (t : Text) (m : Match) : Text :=
  let key := without (fun c => c == '"' || c == '\'' || c == ' ') (m.group 1)
  replace (m.group 1 ++ ":" ++ m.group 2)
    ("'" ++ key ++ "':" ++ m.group 2) t

def quoteKeys (t : Text) : Text :=
  (objectLiteral.occurrences t).foldl
    (fun t literal =>
      (fields ',' (literal.group 1)).foldl
        (fun t entry => (keyValue.occurrences entry).foldl quoteKey t) t)
    t

/-! ### Attributes -/

def ascii : CharSet :=
  ⟨[.range (Char.ofNat 0) (Char.ofNat 127)], false⟩

/-- A line on which some attribute may be read and that has no address. -/
def attributeLine : Pattern :=
  .all [.lineStart,
    .ahead (.all [.rest, .one ascii, .plus .nonSpace, .str ".", .one ascii, .plus .nonSpace]),
    .notAhead (.all [.rest, .str "http"]),
    .rest, .lineEnd]

def attributeUse : Pattern :=
  .all [.plus nameSet, .str ".", .plus nameSet]

def attributeUseAndNext : Pattern :=
  .all [.plus nameSet, .str ".", .plus nameSet, .one .inLine]

/-- The attributes of a line, each with the character that follows it. At the end of the line a
closing parenthesis stands for that character. Square brackets are left out. -/
def attributesOf (line : Text) : List Text :=
  (List.zip (attributeUse.findAll line) (attributeUseAndNext.findAll line)).map fun (plain, extended) =>
    without (fun c => c == '[' || c == ']')
      (if plain = extended then extended ++ ")" else extended)

/-- Rewrites one attribute found on a line: functions of the mathematics object are written small,
methods and server functions are left alone, and all else is read by key. -/
def convertAttribute (line t found : Text) : Except Fault Text :=
  let word := found.dropLast
  let isMath := has "Math." found
  if isNumeral word then .ok t
  else if (found.getLast? == some '(' || has "ee." word) && !isMath then .ok t
  else if isMath then .ok (replaceOutsideQuotes t line found (lower found))
  else
    match fields '.' word with
    | object :: key :: _ =>
      .ok (replaceOutsideQuotes t line word
        (object ++ "[\"" ++ without isSpace key ++ "\"]"))
    | _ => .error .outOfRange

/-- Whether a text stands before another in the order of code points. -/
def textLe : Text → Text → Bool
  | [], _ => true
  | _ :: _, [] => false
  | a :: s, b :: t => a < b || (a == b && textLe s t)

/-- Reads attributes by key, line by line in descending order of the lines. -/
def convertAttributes (t : Text) : Except Fault Text :=
  let found := (attributeLine.findAll t).mergeSort fun a b => textLe b a
  found.foldlM
    (fun t line =>
      if line.head? == some '#' then .ok t
      else (attributesOf line).foldlM (convertAttribute line) t)
    t

/-! ### Keyword arguments -/

/-- A call with an object; group 1 is the function and group 2 the inside of the object. -/
def objectCall : Pattern :=
  .all [.group 1 (.plus .word), .str "(\x7b", .group 2 (.starFew .any), .str "\x7d)"]

def objectFunctions : List Text :=
  ["getThumbURL", "getDownloadURL", "getThumbId"]

/-- The insides of the objects that are passed to a function, each once. -/
def passedInsides (t : Text) : List Text :=
  let calls := (objectCall.occurrences t).filter fun m => !objectFunctions.contains (m.group 1)
  distinct (calls.map (·.group 2))

/-- Passes the entries of the objects with the given insides as keyword arguments. A dictionary is built from the
object itself. -/
def passAsKeywords (insides : List Text) (t : Text) : Text :=
  let t := insides.foldl
    (fun t inside =>
      let object := "\x7b".toList ++ inside ++ "\x7d".toList
      replace object ("**".toList ++ object) t)
    t
  replace "ee.Dictionary(**\x7b".toList "ee.Dictionary(\x7b".toList t

def convertObjectCalls (t : Text) : Text :=
  passAsKeywords (passedInsides t) t

end Geoscript.Script
