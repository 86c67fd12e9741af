import Geoscript.Catalog.Basic
import Geoscript.Graph.Node

/-! A computation with server objects is recorded, not carried out: each object that it asks for becomes a node, and
asking for an equal one gives the same node. All of this stays when the computation fails. -/

namespace Geoscript.Graph

structure Surroundings where
  /-- What the server answers on being asked for a plain value, by the name of the method. -/
  info : Entries
  pages : List (String × String)
  catalog : Catalog

structure Recording where
  items : Array Item := #[]
  /-- How many functions for the server are being recorded. -/
  depth : Nat := 0
  started : List Value := []
  warnings : List String := []
  printed : List String := []

abbrev Build := ReaderT Surroundings (ExceptT Failure (StateM Recording))

abbrev Term := Build Value

def fail {α : Type} (f : Failure) : Build α :=
  throw f

def lift {α : Type} (outcome : Except Failure α) : Build α :=
  match outcome with
  | .ok a => pure a
  | .error f => fail f

/-- The node of the table that equals `item`, or a new one at its end. -/
def intern (item : Item) : Term := do
  let s ← get
  match s.items.findIdx? (· == item) with
  | some i => return .node i
  | none =>
    set { s with items := s.items.push item }
    return .node s.items.size

def kindOf? (v : Value) : Build (Option Kind) := do
  match v with
  | .node i => return ((← get).items[i]?).map (·.kind)
  | _ => return none

def isKind (v : Value) (k : Kind) : Build Bool := do
  return (← kindOf? v) == some k

def input (kind : Kind) (name : String) : Term :=
  intern ⟨.input kind name, kind⟩

def warn (message : String) : Build Unit :=
  modify fun s => { s with warnings := s.warnings ++ [message] }

def printLine (line : String) : Build Unit :=
  modify fun s => { s with printed := s.printed ++ [line] }

def evalAll : List Term → Build (List Value)
  | [] => pure []
  | t :: ts => do
    let v ← t
    return v :: (← evalAll ts)

def evalNamed : List (String × Term) → Build Entries
  | [] => pure []
  | (k, t) :: ts => do
    let v ← t
    return (k, v) :: (← evalNamed ts)

namespace Term

/-! ### Plain data -/

def ofValue (v : Value) : Term :=
  pure v

instance : Coe Value Term := ⟨ofValue⟩

instance : Coe String Term := ⟨fun s => ofValue (.str s)⟩

instance (n : Nat) : OfNat Term n := ⟨ofValue (.int n)⟩

instance : OfScientific Term where
  ofScientific m s e := ofValue (.float (OfScientific.ofScientific m s e))

def null : Term := ofValue .null

def int (i : Int) : Term := ofValue (.int i)

def bool (b : Bool) : Term := ofValue (.bool b)

def float (d : Double) : Term := ofValue (.float d)

def list (ts : List Term) : Term := do
  return .list (← evalAll ts)

def dict (ts : List (String × Term)) : Term := do
  return .dict (Value.merge [] (← evalNamed ts))

def texts (ts : List String) : Term :=
  ofValue (.list (ts.map Value.str))

def share (t : Term) : Build Term := do
  let v ← t
  return ofValue v

/-! ### Server objects -/

def callWith (object : Term) (name : String) (args : List Term) (named : List (String × Term)) :
    Term := do
  match ← object with
  | .node i =>
    let args ← evalAll args
    let named ← evalNamed named
    let kind := (((← get).items[i]?).map (·.kind)).getD .parameter
    intern ⟨.method i name (Value.canonicalList args) (Value.canonicalEntries named),
      kind.afterMethod name⟩
  | _ => fail .notAnObject

def call (object : Term) (name : String) (args : List Term) : Term :=
  object.callWith name args []

/-- A function given to the server: it is applied once, to parameters. -/
def function (arity : Nat) (f : List Term → Term) : Term := do
  let depth := (← get).depth
  modify fun s => { s with depth := depth + 1 }
  let parameters ← evalAll ((List.range arity).map fun k =>
    intern ⟨.parameter depth k, .parameter⟩)
  let body ← f (parameters.map ofValue)
  modify fun s => { s with depth := depth }
  intern ⟨.function depth arity body.canonical, .parameter⟩

def lambda (f : Term → Term) : Term :=
  function 1 fun ts =>
    match ts with
    | [t] => f t
    | _ => null

def lambda₂ (f : Term → Term → Term) : Term :=
  function 2 fun ts =>
    match ts with
    | [s, t] => f s t
    | _ => null

def map (object : Term) (f : Term → Term) : Term :=
  object.call "map" [lambda f]

end Term

/-- What a function of images gives for an image, or for each image of a collection. -/
def eachImage (x : Term) (f : Term → Term) (otherwise : Term) : Term := do
  match ← kindOf? (← x) with
  | some .image => f x
  | some .imageCollection => x.map f
  | _ => otherwise

/-- A call of a function of the server with arguments by place and by name. -/
def serverWith (function : String) (args : List Term) (named : List (String × Term)) : Term := do
  let args ← evalAll args
  let named ← evalNamed named
  intern ⟨.call ("ee." ++ function) (Value.canonicalList args) (Value.canonicalEntries named),
    Kind.ofFunction function⟩

def server (function : String) (args : List Term) : Term :=
  serverWith function args []

def reducer (name : String) : Term :=
  server ("Reducer." ++ name) []

/-- What the server answers about a node, if it answers: a property by its name, and otherwise what is
known of the method. -/
def answer? (info : Entries) : Node → Option Value
  | .method _ name args _ =>
    if name = "get" then
      match args, info.lookup "get" with
      | .str key :: _, some (.dict properties) => some ((properties.lookup key).getD .null)
      | _, _ => some .null
    else info.lookup name
  | _ => none

/-- The plain value of a server object, if the server gives one; otherwise the request is recorded. -/
def Term.info (object : Term) : Term := do
  match ← object with
  | .node i =>
    let known := (← read).info
    match ((← get).items[i]?).bind fun item => answer? known item.node with
    | some v => return v
    | none => Term.call (Term.ofValue (.node i)) "getInfo" []
  | _ => fail .notAnObject

def start (task : Term) : Build Unit := do
  let started ← task.call "start" []
  modify fun s => { s with started := s.started ++ [started] }

def fetch (address : String) : Build String := do
  match (← read).pages.lookup address with
  | some page => return page
  | none => fail .unreachable

end Geoscript.Graph
