import Geoscript.Value.Basic

/-! The server objects that a computation asks for, as nodes of a graph. A node refers to earlier ones by their
places. -/

namespace Geoscript.Graph

/-- The class of a server object, as far as functions tell classes apart. -/
inductive Kind where
  | image
  | imageCollection
  | feature
  | featureCollection
  | geometry
  | date
  /-- The parameter of a function that the server applies. -/
  | parameter
  | other (name : String)
  deriving Repr, DecidableEq

namespace Kind

def ofName : String → Kind
  | "Image" => image
  | "ImageCollection" => imageCollection
  | "Feature" => feature
  | "FeatureCollection" => featureCollection
  | "Geometry" => geometry
  | "Date" => date
  | name => other name

def name : Kind → String
  | image => "Image"
  | imageCollection => "ImageCollection"
  | feature => "Feature"
  | featureCollection => "FeatureCollection"
  | geometry => "Geometry"
  | date => "Date"
  | parameter => ""
  | other name => name

/-- The class of what a method gives: that of its object, unless the method leads to a part of it. -/
def afterMethod (k : Kind) (method : String) : Kind :=
  if method = "geometry" then geometry
  else if method = "first" then
    match k with
    | imageCollection => image
    | featureCollection => feature
    | k => k
  else k

/-- The class of what a server function gives: the first part of its name. -/
def ofFunction (function : String) : Kind :=
  ofName (String.ofList (function.toList.takeWhile (· != '.')))

end Kind

inductive Node where
  | input (kind : Kind) (name : String)
  | call (function : String) (args : List Value) (named : Entries)
  | method (object : Nat) (name : String) (args : List Value) (named : Entries)
  /-- A function given to the server, inside of `depth` others. -/
  | function (depth arity : Nat) (body : Value)
  | parameter (depth index : Nat)
  deriving Repr, DecidableEq

namespace Node

/-- The nodes that a node refers to, in the order in which they are numbered. -/
def references : Node → List Nat
  | input _ _ => []
  | call _ args named => Value.referencesList args ++ Value.referencesEntries named
  | method object _ args named =>
    object :: Value.referencesList args ++ Value.referencesEntries named
  | function _ _ body => body.references
  | parameter _ _ => []

def renumber (f : Nat → Nat) : Node → Node
  | input kind name => input kind name
  | call fn args named =>
    call fn (Value.renumberList f args) (Value.renumberEntries f named)
  | method object name args named =>
    method (f object) name (Value.renumberList f args) (Value.renumberEntries f named)
  | function depth arity body => function depth arity (body.renumber f)
  | parameter depth index => parameter depth index

end Node

structure Item where
  node : Node
  kind : Kind
  deriving Repr, DecidableEq

end Geoscript.Graph
