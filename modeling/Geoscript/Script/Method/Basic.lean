import Geoscript.Script.Method.Call
import Geoscript.Script.Method.Global

/-! Calls of the methods of texts and arrays become calls of functions that are defined in front of the generated
script, in one pass for every method. -/

namespace Geoscript.Script

open Text

/-- What is handed to the function that stands for a method. -/
inductive Passing where
  | receiverAndArguments
  | receiver
  | arguments
  /-- The receiver of an attribute, which is not called. -/
  | attributeReceiver
  deriving Repr, DecidableEq

/-- A method and the function that stands for it. -/
structure Method where
  name : String
  function : String
  passing : Passing
  spaced : Bool := false
  /-- The argument given when the script has one call and that call has none. -/
  loneArgument : Option String := none
  definition : Text

namespace Method

def standIn (m : Method) : Text :=
  "__ee_extra_" ++ m.function.toList

/-- The argument texts of the calls, after the rule for a lone call. -/
def argumentsOf (m : Method) (calls : List Call) : List Text :=
  match calls.map Call.arguments, m.loneArgument with
  | [[]], some a => [a.toList]
  | as, _ => as

/-- What is passed on of a call with the given argument text. -/
def passed (m : Method) (c : Call) (a : Text) : Text :=
  match m.passing with
  | .receiverAndArguments => c.receiver ++ ", " ++ a
  | .receiver => c.receiver
  | .arguments => a
  | .attributeReceiver => c.receiver

def replacements (m : Method) (calls : List Call) : List (Text × Text) :=
  List.zipWith (fun c a => (c.text, m.standIn ++ "(" ++ m.passed c a ++ ")")) calls
    (m.argumentsOf calls)

def extra (m : Method) : Text :=
  if m.spaced then ['\\', 's'] else []

/-- The uses of the method: calls or, for an attribute, reads. -/
def uses (m : Method) (t : Text) : Except Fault (List Call) :=
  match m.passing with
  | .attributeReceiver => do
    let receivers ← attributeReceivers m.extra m.name.toList t
    return receivers.map fun r => ⟨r, m.name.toList⟩
  | _ => methodCalls m.extra m.name.toList t

/-- Replaces the uses of the method, and tells whether there were any. -/
def convert (m : Method) (t : Text) : Except Fault (Text × Bool) := do
  let uses ← m.uses t
  return (replaceEach (m.replacements uses) t, !uses.isEmpty)

/-! ### The methods -/

/-- A method whose function has its name and takes the receiver and the arguments. -/
def plain (name : String) (definition : Text) : Method :=
  { name, function := name, passing := .receiverAndArguments, definition }

/-- A method whose function has its name and takes the receiver. -/
def unary (name : String) (definition : Text) : Method :=
  { name, function := name, passing := .receiver, definition }

def length : Method where
  name := "length"
  function := "length"
  passing := .attributeReceiver
  definition := Definition.length

def all : List Method := [
  plain "charCodeAt" Definition.charCodeAt,
  { unary "trim" Definition.trim with spaced := true },
  plain "match" Definition.matchText,
  plain "slice" Definition.slice,
  plain "substr" Definition.substr,
  plain "search" Definition.search,
  plain "charAt" Definition.charAt,
  plain "concat" Definition.concat,
  length,
  unary "toString" Definition.toString,
  plain "indexOf" Definition.indexOf,
  plain "substring" Definition.substring,
  plain "lastIndexOf" Definition.lastIndexOf,
  unary "toUpperCase" Definition.toUpperCase,
  plain "localeCompare" Definition.localeCompare,
  unary "toLowerCase" Definition.toLowerCase,
  plain "every" Definition.every,
  plain "filter" Definition.filter,
  { plain "forEach" Definition.forEach with function := "foreach" },
  { plain "from" Definition.arrayFrom with function := "arrayfrom", passing := .arguments },
  { plain "isArray" Definition.isArray with passing := .arguments },
  { plain "join" Definition.join with loneArgument := some "\",\"" },
  plain "map" Definition.map,
  plain "push" Definition.push,
  plain "reduce" Definition.reduce,
  plain "reduceRight" Definition.reduceRight,
  unary "shift" Definition.shift,
  plain "some" Definition.some,
  plain "splice" Definition.splice,
  plain "unshift" Definition.unshift,
  plain "valueOf" Definition.valueOf]

/-- Methods for one locale, which have no pass of their own in a conversion. -/
def localeMethods : List Method := [
  { unary "toLocaleLowerCase" Definition.toLowerCase with function := "toLowerCase" },
  { unary "toLocaleUpperCase" Definition.toUpperCase with function := "toUpperCase" }]

def find? (name : String) : Option Method :=
  (all ++ localeMethods).find? (·.name == name)

end Method

/-- One pass: what it does to the script and the definition it may need. -/
structure Pass where
  run : Text → Except Fault (Text × Bool)
  definition : Text

/-- The passes for methods and global functions in their order. -/
def methodPasses : List Pass :=
  Method.all.map (fun m => ⟨m.convert, m.definition⟩) ++
    GlobalFunction.all.map fun f => ⟨f.convert, f.definition⟩

/-- Runs passes one after the other and collects the definitions that are needed. -/
def runPasses : List Pass → Text → Except Fault (Text × List Text)
  | [], t => .ok (t, [])
  | p :: ps, t => do
    let (t, used) ← p.run t
    let (t, definitions) ← runPasses ps t
    return (t, if used then p.definition :: definitions else definitions)

/-- Replaces the methods and global functions of a script, and gives the definitions that it then
needs. -/
def convertMethods (t : Text) : Except Fault (Text × Text) := do
  let (t, definitions) ← runPasses methodPasses t
  let definitions := if definitions.isEmpty then [] else definitions ++ [Definition.varName]
  return (t, join ['\n'] definitions)

end Geoscript.Script
