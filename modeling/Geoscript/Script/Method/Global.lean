import Geoscript.Script.Bracket
import Geoscript.Script.Method.Definition
import Geoscript.Script.Search

/-! Calls of functions that belong to no object: `parseInt`, `parseFloat`, `Number` and `String`. -/

namespace Geoscript.Script

open Text

/-- A call of a global function: no word character and no dot stands before it. -/
def globalCall (name : Text) : Pattern :=
  .all [.notBehind (.one ⟨[.word, .char '.'], false⟩), .lit (name ++ ['('])]

/-- The calls of a global function in a text. The name may be written as an expression, in which a
circumflex stands for the start of any line. -/
def globalMatches (name t : Text) : Except Fault (List Match) := do
  if isPlain name then return (globalCall name).occurrences t
  let q ← searchFor [.multiline] ("(?<![\\w\\.])" ++ name ++ "\\(")
  return q.occurrences t

def globalArguments (name t : Text) : Except Fault (List Text) := do
  (← globalMatches name t).mapM fun m => untilClosed 0 m.stop.after

/-- A global function with the definition that stands for it. -/
structure GlobalFunction where
  name : String
  definition : Text
  /-- Whether the definition is added to the script when the function is called. -/
  defined : Bool

namespace GlobalFunction

def standIn (f : GlobalFunction) : Text :=
  "__ee_extrafunc_" ++ f.name.toList

/-- Replaces the calls, and tells whether the definition is to be added. -/
def convert (f : GlobalFunction) (t : Text) : Except Fault (Text × Bool) := do
  let found ← globalArguments f.name.toList t
  match distinct found with
  | [] => return (t, false)
  | arguments =>
    let t := arguments.foldl
      (fun t a =>
        replace (f.name.toList ++ "(" ++ a ++ ")")
          (f.standIn ++ "(" ++ a ++ ")") t)
      t
    return (t, f.defined)

def parseInt : GlobalFunction := ⟨"parseInt", Definition.parseInt, true⟩

def parseFloat : GlobalFunction := ⟨"parseFloat", Definition.parseFloat, true⟩

def number : GlobalFunction := ⟨"Number", Definition.number, true⟩

def string : GlobalFunction := ⟨"String", Definition.string, false⟩

def all : List GlobalFunction := [parseInt, parseFloat, number, string]

end GlobalFunction

end Geoscript.Script
