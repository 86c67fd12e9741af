import Geoscript.Imagery.BandMap

/-! Kernels of two bands in formulas: expressions in `a` and `b`, in `sigma`, and in the letters of the image. -/

namespace Geoscript.Imagery

open Geoscript.Graph

def kernelFormulas : Entries := [
  ("linear", .str "a * b"),
  ("RBF", .str "exp((-1.0 * (a - b) ** 2.0)/(2.0 * sigma ** 2.0))"),
  ("poly", .str "((a * b) + c) ** p")]

def entryAt? (entries : Entries) (key : Value) : Option Value :=
  key.text?.bind fun name => entries.lookup name

/-- The kernel of two letters, or nothing if a letter is missing. A `sigma` that is a text is an expression
in the two bands. -/
def kernelImage (img : Term) (letters : Entries) (kernel sigma a b : Value) : Term := do
  match entryAt? letters a, entryAt? letters b with
  | some va, some vb =>
    let pair : Entries := [("a", va), ("b", vb)]
    let sigma : Term :=
      match sigma with
      | .str formula => img.call "expression" [formula, Value.dict pair]
      | v => v
    let letters := Value.merge (Value.merge letters pair) [("sigma", ← sigma)]
    let formula ← lift (Value.part (.dict kernelFormulas) kernel)
    img.call "expression" [formula, Value.dict letters]
  | _, _ => return .null

def kernelPairs : List (String × String × String) := [
  ("kNN", "N", "N"), ("kNR", "N", "R"), ("kNB", "N", "B"), ("kNL", "N", "L"), ("kGG", "G", "G"),
  ("kGR", "G", "R"), ("kGB", "G", "B"), ("kBB", "B", "B"), ("kBR", "B", "R"), ("kBL", "B", "L"),
  ("kRR", "R", "R"), ("kRB", "R", "B"), ("kRL", "R", "L"), ("kLL", "L", "L")]

def kernelLetters (img : Term) (letters : Entries) (kernel sigma : Value) : Build Entries :=
  evalNamed (kernelPairs.map fun (name, a, b) =>
    (name, kernelImage img letters kernel sigma (.str a) (.str b)))

end Geoscript.Imagery
