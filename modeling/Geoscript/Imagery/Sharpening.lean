import Geoscript.Imagery.Histogram
import Geoscript.Imagery.Metric
import Geoscript.Imagery.Scaling

/-! Brings the colour bands of an image to the finer pixels of its panchromatic band, and measures how well that went.
-/

namespace Geoscript.Imagery

open Geoscript.Graph

/-- The bands that can be sharpened, and the panchromatic one. -/
structure SharpBands where
  sharpenable : List String
  pan : String

namespace SharpBands

def landsat7 : SharpBands := ⟨["B1", "B2", "B3", "B4", "B5", "B7"], "B8"⟩

def landsat8 : SharpBands := ⟨["B2", "B3", "B4", "B5", "B6", "B7"], "B8"⟩

def all : List (String × SharpBands) := [
  ("LANDSAT/LC09/C02/T1_TOA", landsat8), ("LANDSAT/LC09/C02/T1_RT", landsat8),
  ("LANDSAT/LC09/C02/T1", landsat8), ("LANDSAT/LC09/C02/T1_RT_TOA", landsat8),
  ("LANDSAT/LC08/C01/T1_TOA", landsat8), ("LANDSAT/LC08/C01/T1_RT_TOA", landsat8),
  ("LANDSAT/LC08/C01/T2_TOA", landsat8), ("LANDSAT/LC08/C01/T1_RT", landsat8),
  ("LANDSAT/LO08/C01/T1", landsat8), ("LANDSAT/LC08/C01/T1", landsat8),
  ("LANDSAT/LO08/C01/T2", landsat8), ("LANDSAT/LC08/C01/T2", landsat8),
  ("LANDSAT/LE07/C01/T1_TOA", landsat7), ("LANDSAT/LE07/C01/T1_RT_TOA", landsat7),
  ("LANDSAT/LE07/C01/T2_TOA", landsat7), ("LANDSAT/LE07/C01/T1_RT", landsat7),
  ("LANDSAT/LE07/C01/T1", landsat7), ("LANDSAT/LE07/C01/T2", landsat7)]

def find (platform : String) : Except Failure SharpBands :=
  match all.lookup platform with
  | some bands => .ok bands
  | none => .error (.unsupportedForSharpening platform (Value.renderTexts (all.map (·.1))))

end SharpBands

inductive Sharpener where
  | sfim
  | hpfa
  | pcs
  | sm
  deriving Repr, DecidableEq

namespace Sharpener

def all : List Sharpener := [sfim, hpfa, pcs, sm]

def name : Sharpener → String
  | sfim => "SFIM"
  | hpfa => "HPFA"
  | pcs => "PCS"
  | sm => "SM"

def choose (v : Value) : Except Failure Sharpener :=
  chooseNamed all name .unknownSharpener v

/-- How many pixels of the panchromatic band one pixel of the image spans. -/
def pixelQuotient (img pan : Term) : Term :=
  (pixelSize img).call "divide" [pixelSize pan]

def onPan (sharp pan : Term) : Term :=
  sharp.call "reproject" [pan.call "projection" []]

def bicubic (img : Term) : Term :=
  img.call "resample" ["bicubic"]

def modulate (img pan : Term) : Term := do
  let width ← (pixelQuotient img pan).share
  let kernel ← (serverWith "Kernel.square" [] [("radius", width.call "divide" [2])]).share
  let smooth ← (pan.callWith "reduceNeighborhood" []
    [("reducer", reducer "mean"), ("kernel", kernel)]).share
  onPan ((bicubic img).call "multiply" [pan] |>.call "divide" [smooth]) pan

def addDetails (img pan : Term) : Term := do
  let width ← ((pixelQuotient img pan).call "multiply" [2] |>.call "add" [1]).share
  let img ← (bicubic img).share
  let centerValue := width.call "pow" [2] |>.call "subtract" [1]
  let center ← (width.call "divide" [2] |>.call "int" []).share
  let row := server "List.repeat" [.int (-1), width]
  let rows ← (server "List.repeat" [row, width]).share
  let weights := rows.call "set" [center,
    (server "List" [rows.call "get" [center]]).call "set" [center, centerValue]]
  let kernel := serverWith "Kernel.fixed" [] [("weights", weights), ("normalize", .bool true)]
  onPan (img.call "add" [pan.call "convolve" [kernel]]) pan

def asBands (arrays names : Term) : Term :=
  arrays.call "arrayProject" [.list [0]] |>.call "arrayFlatten" [.list [names]]

/-- The image with its first principal component replaced by the panchromatic band. -/
def substitute (img pan : Term) (region : Entries) : Term := do
  let img ← (onPan (bicubic img) pan).share
  let names ← (img.call "bandNames" []).share
  let means ← ((reduced img "mean" region).call "toImage" [names]).share
  let arrays ← (img.call "subtract" [means] |>.call "toArray" []).share
  let covariance ← (reduced arrays "centeredCovariance" region).share
  let eigenvectors ← ((server "Array" [covariance.call "get" ["array"]]).call "eigen" []
    |>.call "slice" [1, 1]).share
  let components ← (asBands ((server "Image" [eigenvectors]).call "matrixMultiply"
    [arrays.call "toArray" [1]]) names).share
  let first ← (components.call "bandNames" [] |>.call "get" [0]).share
  let component ← (components.call "select" [.list [first]] |>.call "rename" [.list ["PC1"]]).share
  let pan ← (pan.call "rename" [.list ["pan"]]).share
  let fitted := matchHistogram pan component (.dict [("pan", .str "PC1")])
    ((region.lookup "geometry").getD .null) 256
  let components ← (components.callWith "addBands" [fitted.call "rename" [.list [first]]]
    [("overwrite", .bool true)]).share
  let centered := asBands ((server "Image" [eigenvectors]).call "matrixSolve"
    [components.call "toArray" [] |>.call "toArray" [1]]) names
  centered.call "add" [means]

def average (img pan : Term) : Term :=
  onPan ((bicubic img).call "add" [pan] |>.call "multiply" [0.5]) pan

def sharpen (s : Sharpener) (img pan : Term) (region : Entries) : Term :=
  match s with
  | sfim => modulate img pan
  | hpfa => addDetails img pan
  | pcs => substitute img pan region
  | sm => average img pan

end Sharpener

structure SharpenRequest where
  sharpener : Sharpener
  bands : SharpBands
  metrics : Value
  label : Value
  region : Entries

def names? (named : Entries) (names : List String) : Bool :=
  names.any fun name => (named.lookup name).isSome

def setMetrics (r : SharpenRequest) (reference modified : Term) : Term := do
  let metrics ← lift (Metric.chooseAll r.metrics)
  let reference ← (reference.call "select" [modified.call "bandNames" []]).share
  let result ← metrics.foldlM (fun (modified : Term) (m : Metric) => do
    if names? r.region ["cls", "original", "modified", "reproject"] then fail .badArguments
    let values ← (m.measure reference modified (.bool true) r.region).share
    (modified.call "set" [r.label.render ++ ":" ++ m.name, values]).share) modified
  result

def sharpenImage (r : SharpenRequest) (img : Term) : Term := do
  let source ← (keepBands img (Term.texts r.bands.sharpenable)).share
  let pan ← (img.call "select" [r.bands.pan]).share
  if names? r.region ["cls", "pan"] then fail .badArguments
  let sharpened ← (r.sharpener.sharpen source pan r.region).share
  let sharpened ← (server "Image" [server "Element.copyProperties"
    [sharpened, source, pan.call "propertyNames" []]]).share
  let sharpened ← (sharpened.call "updateMask" [source.call "mask" []]).share
  if r.metrics = .null then sharpened else setMetrics r source sharpened

def panSharpen (x : Term) (method metrics label : Value) (region : Entries) : Term := do
  let sharpener ← lift (Sharpener.choose method)
  let bands ← lift (SharpBands.find (← platform x).name)
  eachImage x (sharpenImage ⟨sharpener, bands, metrics, label, region⟩) (fail .noCase)

end Geoscript.Imagery
