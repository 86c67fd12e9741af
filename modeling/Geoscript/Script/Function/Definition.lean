import Geoscript.Script.Bracket
import Geoscript.Script.Function.Name
import Geoscript.Script.Function.Nested
import Geoscript.Script.Object

/-! A function with its body in braces becomes a definition with an indented body. It stands alone or is handed to a
call. -/

namespace Geoscript.Script

open Text

def functionName : Pattern :=
  .all [.str "function", .blanks, .group 1 (.all [.one ascii, .plus .nonSpace]), .blanks, .str "(",
    .rest, .str ")", .blanks, .str "\x7b"]

def functionArguments : Pattern :=
  .either
    (.all [.str "function", .blanks, .one ascii, .star .nonSpace, .blanks, .str "(", .blanks,
      .group 1 (.plusFew (.except ")")), .blanks, .str ")", .blanks, .str "\x7b"])
    (.all [.str "function(", .blanks, .group 2 (.plusFew (.except ")")), .blanks, .str ")", .blanks])

def bracedText : Pattern :=
  .group 1 (.all [.str "\x7b",
    .many (.atomic (.either (.plus (.except "\x7b\x7d")) (.call 0))) .longest 0 none,
    .str "\x7d"])

/-- An attribute that a function is assigned to, from the start of its line, in group 1. -/
def functionTarget : Pattern :=
  .all [.lineStart, .group 1 (.all [.rest, .str ".", .rest]), .one .space, .str "=", .one .space,
    .str "function("]

/-- An argument with a value for the case that it is not given. -/
def optionalArgument (argument : Text) : Text :=
  if has "=" argument then trim argument else trim argument ++ "='__None'"

structure FunctionParts where
  name : Text
  anonymous : Bool
  arguments : Text
  body : Text
  indent : Text
  deriving Repr, DecidableEq

/-- Reads the first function of a text. A function without a name gets one. -/
def readFunction (t : Text) : Naming FunctionParts := do
  let (name, anonymous) ←
    match functionName.search? t with
    | some m => pure (m.group 1, false)
    | none => do pure (← freshName, true)
  let arguments :=
    match functionArguments.search? t with
    | none => []
    | some m => join ", " ((fields ',' (m.group 1 ++ m.group 2)).map optionalArgument)
  match bracedText.search? t with
  | none => throw .noBody
  | some m =>
    let body := trimEnd (m.text.drop 1).dropLast
    return ⟨name, anonymous, arguments, body, t.takeWhile isSpace⟩

/-- The definition of a function, up to the end of its body. -/
def FunctionParts.definition (f : FunctionParts) : Text :=
  f.indent ++ "def " ++ f.name ++ "(" ++ f.arguments ++ "):" ++ f.body ++
    "\n"

structure ConvertedFunction extends FunctionParts where
  text : Text
  deriving Repr, DecidableEq

/-- Converts a function that stands alone. One that is assigned to an attribute is defined first and
assigned after it. -/
def convertFunction (t : Text) : Naming ConvertedFunction := do
  let f ← readFunction t
  match functionTarget.search? t with
  | none => return ⟨f, f.definition⟩
  | some m =>
    return ⟨f, f.definition ++ f.indent ++ trim (m.group 1) ++ " = " ++ f.name⟩

/-- Converts a function handed to a call: it is defined first, and its name stands in the call. -/
def convertCallback (t : Text) : Naming ConvertedFunction := do
  let f ← readFunction t
  return ⟨f, f.definition ++ replace (insideParens t) f.name t⟩

/-! ### All functions of a script -/

/-- A kind of functions: how their header is recognised and how they are converted. -/
structure FunctionKind where
  header : Pattern
  convert : Text → Naming ConvertedFunction

namespace FunctionKind

def standalone : FunctionKind where
  header := .all [.rest, .str "function", .rest, .str "\x7b"]
  convert := convertFunction

/-- Functions handed to a call that runs through a collection. -/
def callback : FunctionKind where
  header := .either
    (.all [.rest, .str "map(", .rest, .str "function", .rest, .str "\x7b"])
    (.all [.rest, .str "forEach(", .rest, .str "function", .rest, .str "\x7b"])
  convert := convertCallback

def convertLines (k : FunctionKind) (ls : List Text) : Naming Text := do
  return (← k.convert (unlines ls)).text

mutual

/-- First round on an item: a group without groups is converted, and a group with groups becomes the
list of its converted lines. -/
def convertInner (k : FunctionKind) : Nested → Naming (Text ⊕ List Text)
  | .line t => pure (.inl t)
  | .group items => do
    if items.all Nested.isLine then
      return .inl (← k.convertLines (Nested.flattenList items))
    else
      let first ← convertInners k items
      let ls ← first.mapM fun
        | .inl t => pure t
        | .inr ls => k.convertLines ls
      return .inr ls

def convertInners (k : FunctionKind) : List Nested → Naming (List (Text ⊕ List Text))
  | [] => pure []
  | item :: items => do
    let first ← convertInner k item
    let others ← convertInners k items
    return first :: others

end

/-- Converts every group of a list: the groups inside of others in a first round, then the others. -/
def convertNested (k : FunctionKind) (items : List Nested) : Naming (List Text) := do
  let first ← convertInners k items
  first.mapM fun
    | .inl t => pure t
    | .inr ls => k.convertLines ls

def convertAll (k : FunctionKind) (t : Text) : Naming Text := do
  let items ← groupFunctions k.header (lines t)
  let items ← regroup k.header items
  return unlines (← k.convertNested items)

end FunctionKind

end Geoscript.Script
