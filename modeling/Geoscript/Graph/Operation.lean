import Geoscript.Graph.Recording

/-! A function together with its parameters. Parameters that are not given take their defaults, and all that does not
fit is refused before the function starts. -/

namespace Geoscript.Graph

/-- A parameter, with its default if it has one. -/
structure Parameter where
  name : String
  default? : Option Value := none

namespace Parameter

def required (name : String) : Parameter :=
  { name := name }

def optional (name : String) (v : Value) : Parameter :=
  { name := name, default? := some v }

end Parameter

/-- The values of parameters from the named arguments and the defaults. -/
def bindRest (named : Entries) : List Parameter → Option (List Value)
  | [] => some []
  | p :: ps =>
    match named.lookup p.name, p.default? with
    | some v, _ => (bindRest named ps).map (v :: ·)
    | none, some v => (bindRest named ps).map (v :: ·)
    | none, none => none

/-- The values of all parameters. An argument by place takes the first parameter that is left, and its name
must not be given too. -/
def bindAll : List Parameter → List Value → Entries → Option (List Value)
  | ps, [], named => bindRest named ps
  | [], _ :: _, _ => none
  | p :: ps, v :: vs, named =>
    if (named.lookup p.name).isSome then none else (bindAll ps vs named).map (v :: ·)

structure Operation where
  parameters : List Parameter
  open? : Bool := false
  run : List Value → Entries → Term

def Operation.further (o : Operation) (named : Entries) : Entries :=
  named.filter fun (k, _) => !o.parameters.any (·.name == k)

def Operation.apply (o : Operation) (args : List Value) (named : Entries) : Term := do
  match bindAll o.parameters args named with
  | some vs =>
    let further := o.further named
    if o.open? || further.isEmpty then o.run vs further else fail .badArguments
  | none => fail .badArguments

class Curried (α : Type) where
  apply : α → List Value → Term

instance : Curried Term := ⟨fun t _ => t⟩

instance {α : Type} [Curried α] : Curried (Term → α) where
  apply f vs :=
    match vs with
    | v :: vs => Curried.apply (f (pure v)) vs
    | [] => fail .badArguments

def operation {α : Type} [Curried α] (names : List String) (f : α) : Operation where
  parameters := names.map Parameter.required
  run vs _ := Curried.apply f vs

/-- The operation of a function with defaults for its last parameters. -/
def operationWith {α : Type} [Curried α] (names : List String) (defaults : List (String × Value))
    (f : α) : Operation where
  parameters := names.map Parameter.required ++ defaults.map fun (k, v) => Parameter.optional k v
  run vs _ := Curried.apply f vs

end Geoscript.Graph
