import Geoscript.Graph.Recording

/-! Which dataset of the catalogue an image or a collection belongs to. The name of an image is that of its collection
and one part more; the last dataset that fits counts. -/

namespace Geoscript.Imagery

open Geoscript.Graph

structure Platform where
  name : String
  /-- Whether the name says that the images hold surface reflectance. -/
  surface : Bool
  deriving Repr, DecidableEq

def parentName (id : String) : String :=
  String.ofList (Text.join ['/'] (Text.fields '/' id.toList).dropLast)

def surfaceMark : String := "_SR"

def isSurface (name : Value) : Except Failure Bool :=
  match name with
  | .str s => .ok (Text.has surfaceMark.toList s.toList)
  | .list items => .ok (items.contains (.str surfaceMark))
  | .dict entries => .ok (entries.lookup surfaceMark).isSome
  | _ => .error .wrongType

/-- How far a search through the catalogue has come. -/
structure Search where
  candidate : Option Value := none
  found : Option String := none
  surface : Bool := false

/-- The name to compare a dataset with. For a collection of images a dataset that is one image leaves it
as it is. -/
def nextCandidate (kind : Option Kind) (id : Value) (s : Search) (d : DatasetKind) :
    Except Failure (Option Value) :=
  match d, kind with
  | .collection, some .image =>
    match id with
    | .str id => .ok (some (.str (parentName id)))
    | _ => .error .notAnObject
  | .image, some .imageCollection => .ok s.candidate
  | _, _ => .ok (some id)

def Search.step (kind : Option Kind) (id : Value) (s : Search) (d : Dataset) :
    Except Failure Search := do
  match ← nextCandidate kind id s d.kind with
  | none => .error .noCase
  | some name =>
    return { candidate := some name
             found := if name = .str d.id then some d.id else s.found
             surface := ← isSurface name }

def findPlatform (datasets : List Dataset) (kind : Option Kind) (id : Value) :
    Except Failure Platform := do
  let s ← datasets.foldlM (Search.step kind id) {}
  match s.found with
  | some name => .ok ⟨name, s.surface⟩
  | none => .error .unsupportedPlatform

def platform (x : Term) : Build Platform := do
  let id ← (x.call "get" ["system:id"]).info
  lift (findPlatform (← read).catalog.datasets (← kindOf? (← x)) id)

def Platform.view (p : Platform) : Value :=
  .dict [("platform", .str p.name), ("sr", .bool p.surface)]

/-! ### What the catalogue says of a platform -/

def dataset (x : Term) : Build Dataset := do
  match (← read).catalog.dataset? (← platform x).name with
  | some d => return d
  | none => fail .missingKey

end Geoscript.Imagery
