import Geoscript.Graph.Operation
import Geoscript.Text.Similar
import Geoscript.Value.Render

/-! Compares an image with a modified one, band by band or as a whole, after bringing it to the pixels of the second
one. -/

namespace Geoscript.Imagery

open Geoscript.Graph

inductive Metric where
  | mse
  | rmse
  | rase
  | ergas
  | div
  | bias
  | cc
  | cml
  | cmc
  | uiqi
  deriving Repr, DecidableEq

namespace Metric

def all : List Metric := [mse, rmse, rase, ergas, div, bias, cc, cml, cmc, uiqi]

def name : Metric → String
  | mse => "MSE"
  | rmse => "RMSE"
  | rase => "RASE"
  | ergas => "ERGAS"
  | div => "DIV"
  | bias => "bias"
  | cc => "CC"
  | cml => "CML"
  | cmc => "CMC"
  | uiqi => "UIQI"

end Metric

/-! ### Choosing by name -/

def hintCutoff : Number := .double 0.6

/-- What is added to a refusal of a name: the known names that are close to it. -/
def closeHint (name : String) (known : List String) : String :=
  match Text.closeMatches name.toList (known.map String.toList) 3 hintCutoff with
  | [] => ""
  | close => " Close matches: " ++ Value.renderTexts (close.map String.ofList) ++ "."

/-- The member of a list that has the given name; `refuse` words the refusal of others. -/
def chooseNamed {α : Type} (all : List α) (nameOf : α → String)
    (refuse : String → String → String → Failure) (name : Value) : Except Failure α :=
  match name with
  | .str s =>
    match all.find? fun a => nameOf a == s with
    | some a => .ok a
    | none =>
      let known := all.map nameOf
      .error (refuse s (Value.renderTexts known) (closeHint s known))
  | .list _ => .error .wrongType
  | .dict _ => .error .wrongType
  | _ => .error .notAnObject

def Metric.choose (name : Value) : Except Failure Metric :=
  chooseNamed Metric.all Metric.name .unknownMetric name

def Metric.chooseAll (names : Value) : Except Failure (List Metric) :=
  match names with
  | .list items => items.mapM Metric.choose
  | v => do return [← Metric.choose v]

/-! ### Measuring -/

def asTerms (named : Entries) : List (String × Term) :=
  named.map fun (k, v) => (k, Term.ofValue v)

/-- An image reduced over a region. The further arguments say which one. -/
def reduced (image : Term) (by_ : String) (region : Entries) : Term :=
  image.callWith "reduceRegion" [reducer by_] (asTerms region)

def reducedArray (image : Term) (by_ : String) (region : Entries) : Term :=
  server "Array" [(reduced image by_ region).call "values" []]

def perBand (image array : Term) : Term :=
  server "Dictionary.fromLists" [image.call "bandNames" [], array.call "toList" []]

def onPixelsOf (reference modified : Term) : Term :=
  reference.call "resample" ["bilinear"] |>.call "reproject" [modified.call "projection" []]

/-- Measures by a rule, on the pixels of the modified image if that is asked for. -/
def measureWith (rule : Term → Term → Entries → Term) (reference modified : Term) (reproject : Value)
    (region : Entries) : Term := do
  if reproject.isTrue then
    let reference ← (onPixelsOf reference modified).share
    rule reference modified region
  else rule reference modified region

/-- Measures a part of another metric: always on the pixels of the modified image. -/
def measurePart (rule : Term → Term → Entries → Term) (reference modified : Term)
    (region : Entries) : Term :=
  measureWith rule reference modified (.bool true) region

def meanSquaredError (reference modified : Term) (region : Entries) : Term := do
  let squares ← (reference.call "subtract" [modified] |>.call "pow" [2]).share
  if (region.lookup "reducer").isSome then fail .badArguments
  squares.callWith "reduceRegion" [] (("reducer", reducer "mean") :: asTerms region)

def rootMeanSquaredError (reference modified : Term) (region : Entries) : Term := do
  let mse ← (measurePart meanSquaredError reference modified region).share
  let roots := (server "Array" [mse.call "values" []]).call "sqrt" [] |>.call "toList" []
  server "Dictionary.fromLists" [mse.call "keys" [], roots]

def relativeAverageError (reference modified : Term) (region : Entries) : Term := do
  let mse ← (measurePart meanSquaredError reference modified region).share
  let error ← (server "Number" [mse.call "values" [] |>.call "reduce" [reducer "mean"]]).share
  let mean ← (reduced reference "mean" region |>.call "values" []
    |>.call "reduce" [reducer "mean"]).share
  error.call "sqrt" [] |>.call "multiply" [(server "Number" [100]).call "divide" [mean]]

/-- The dimensionless global relative error of synthesis, from the pixel sizes `h` and `l` of the two
images. -/
def globalRelativeError (h l reference modified : Term) (region : Entries) : Term := do
  let mse ← (measurePart meanSquaredError reference modified region).share
  let errors ← (server "Array" [mse.call "values" []]).share
  let means ← (reducedArray reference "mean" region).share
  let error ← ((server "Number" [errors.call "divide" [means] |>.call "toList" []
    |>.call "reduce" [reducer "mean"]]).call "sqrt" []).share
  error.call "multiply" [h.call "divide" [l] |>.call "multiply" [100]]

def relativeDifference (by_ : String) (reference modified : Term) (region : Entries) : Term := do
  let first ← (reducedArray reference by_ region).share
  let second ← (reducedArray modified by_ region).share
  let difference :=
    second.call "divide" [first] |>.call "multiply" [.int (-1)] |>.call "add" [1]
  perBand reference (← difference.share)

def correlation (reference modified : Term) (region : Entries) : Term := do
  let means (image : Term) : Term :=
    server "Image.constant" [(reduced image "mean" region).call "values" []]
  let xbar ← (means reference).share
  let ybar ← (means modified).share
  let a ← (reference.call "subtract" [xbar]).share
  let b ← (modified.call "subtract" [ybar]).share
  let total (image : Term) : Term := reducedArray image "sum" region
  let x1 ← (total (a.call "multiply" [b])).share
  let x2 ← (total (a.call "pow" [2])).share
  let x3 ← (total (b.call "pow" [2])).share
  perBand reference (← (x1.call "divide" [x2.call "multiply" [x3] |>.call "sqrt" []]).share)

def luminanceChange (reference modified : Term) (region : Entries) : Term := do
  let xbar ← (reducedArray reference "mean" region).share
  let ybar ← (reducedArray modified "mean" region).share
  let change :=
    xbar.call "multiply" [ybar] |>.call "multiply" [2]
      |>.call "divide" [xbar.call "pow" [2] |>.call "add" [ybar.call "pow" [2]]]
  perBand reference (← change.share)

def contrastChange (reference modified : Term) (region : Entries) : Term := do
  let xvar ← (reducedArray reference "variance" region).share
  let yvar ← (reducedArray modified "variance" region).share
  let xsd ← (reducedArray reference "stdDev" region).share
  let ysd ← (reducedArray modified "stdDev" region).share
  let change :=
    xsd.call "multiply" [ysd] |>.call "multiply" [2] |>.call "divide" [xvar.call "add" [yvar]]
  perBand reference (← change.share)

/-- The universal image quality index of each band: correlation, luminance and contrast together. -/
def qualityIndex (reference modified : Term) (region : Entries) : Term := do
  let cc ← (measurePart correlation reference modified region).share
  let cmc ← (measurePart contrastChange reference modified region).share
  let cml ← (measurePart luminanceChange reference modified region).share
  let array (values : Term) : Term := server "Array" [values.call "values" []]
  perBand reference
    (← (array cc |>.call "multiply" [array cml] |>.call "multiply" [array cmc]).share)

def pixelSize (image : Term) : Term :=
  image.call "projection" [] |>.call "nominalScale" []

/-- The global relative error with the pixel sizes of the two images as they are given. -/
def measureGlobalRelativeError (reference modified : Term) (reproject : Value) (region : Entries) :
    Term := do
  let l ← (pixelSize reference).share
  let h ← (pixelSize modified).share
  let rule (reference modified : Term) (region : Entries) : Term :=
    if (region.lookup "h").isSome || (region.lookup "l").isSome then fail .badArguments
    else globalRelativeError h l reference modified region
  measureWith rule reference modified reproject region

def Metric.measure (m : Metric) (reference modified : Term) (reproject : Value) (region : Entries) :
    Term :=
  match m with
  | mse => measureWith meanSquaredError reference modified reproject region
  | rmse => measureWith rootMeanSquaredError reference modified reproject region
  | rase => measureWith relativeAverageError reference modified reproject region
  | ergas => measureGlobalRelativeError reference modified reproject region
  | div => measureWith (relativeDifference "variance") reference modified reproject region
  | bias => measureWith (relativeDifference "mean") reference modified reproject region
  | cc => measureWith correlation reference modified reproject region
  | cml => measureWith luminanceChange reference modified reproject region
  | cmc => measureWith contrastChange reference modified reproject region
  | uiqi => measureWith qualityIndex reference modified reproject region

/-- Measuring with a metric. All further named arguments say where to measure. -/
def Metric.operation (m : Metric) : Operation where
  parameters := [.required "original", .required "modified", .optional "reproject" (.bool true)]
  open? := true
  run vs region :=
    match vs with
    | [reference, modified, reproject] =>
      if (region.lookup "cls").isSome then fail .badArguments
      else m.measure reference modified reproject region
    | _ => fail .badArguments

end Geoscript.Imagery
