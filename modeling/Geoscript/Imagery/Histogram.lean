import Geoscript.Graph.Recording

/-! Gives an image the histogram of another one: each value goes to the value that has the same share of pixels below
it. -/

namespace Geoscript.Imagery

open Geoscript.Graph

def histogramColumn (histogram : Term) (i : Int) : Term :=
  histogram.call "slice" [1, .int i, .int (i + 1)] |>.call "project" [.list [0]]

/-- The shares of a histogram: its running counts divided by the last one. -/
def histogramShares (histogram : Term) : Term := do
  let counts ← (histogramColumn histogram 1).share
  counts.call "divide" [counts.call "get" [.list [.int (-1)]]]

/-- The values of one histogram and, for each, the value of the other at the same share. -/
def histogramLookup (source target : Term) : Build (Term × Term) := do
  let sourceValues ← (histogramColumn source 0).share
  let sourceShares ← (histogramShares source).share
  let targetValues ← (histogramColumn target 0).share
  let targetShares ← (histogramShares target).share
  let matched ← ((sourceShares.call "toList" []).map fun share =>
    targetValues.call "get" [targetShares.call "gte" [share] |>.call "argmax" []]).share
  let values ← (sourceValues.call "toList" []).share
  return (values, matched)

def cumulativeHistogram (image geometry maxBuckets : Term) : Term :=
  image.callWith "reduceRegion" [] [
    ("reducer", serverWith "Reducer.autoHistogram" []
      [("maxBuckets", maxBuckets), ("cumulative", .bool true)]),
    ("geometry", geometry), ("scale", 30), ("maxPixels", 1e13), ("bestEffort", .bool true)]

/-- The bands of the two images that are matched with each other: those given, or all of the first
image. -/
def bandPairs (source : Term) (bands : Value) : Build (Term × Term) := do
  match bands with
  | .null =>
    let names ← (source.call "bandNames" []).share
    return (names, names)
  | bands =>
    let entries ← lift bands.entries
    return (Term.texts (entries.map (·.1)), Value.list (entries.map (·.2)))

def matchHistogram (source target : Term) (bands geometry : Value) (maxBuckets : Term) : Term := do
  let geometry : Term ←
    match geometry with
    | .null => (server "Element.geometry" [source]).share
    | v => pure v
  let (sourceBands, targetBands) ← bandPairs source bands
  let bands ← (server "Dictionary.fromLists" [sourceBands, targetBands]).share
  let source ← (source.call "select" [sourceBands]).share
  let target ← (target.call "select" [targetBands]).share
  let sourceHistogram ← (cumulativeHistogram source geometry maxBuckets).share
  let targetHistogram ← (cumulativeHistogram
    (target.call "updateMask" [source.call "mask" []]) geometry maxBuckets).share
  let matchBands (sourceBand targetBand : Term) : Term := do
    let (x, y) ← histogramLookup (sourceHistogram.call "getArray" [sourceBand])
      (targetHistogram.call "getArray" [targetBand])
    source.call "select" [.list [sourceBand]] |>.call "interpolate" [x, y]
  let matched ←
    (server "ImageCollection" [bands.call "map" [.lambda₂ matchBands] |>.call "values" []]
      |>.call "toBands" [] |>.call "rename" [bands.call "keys" []]).share
  let matched :=
    server "Image" [matched.call "copyProperties" [source, source.call "propertyNames" []]]
      |>.call "cast" [source.call "bandTypes" [], source.call "bandNames" []]
  let matched ← (matched.call "set" ["ee_extra:HISTOGRAM_TARGET", target]).share
  let bounds := source.call "geometry" []
  server "Image" [server "Algorithms.If" [bounds.call "isUnbounded" [], matched,
    matched.call "clip" [bounds.call "bounds" []]]]

end Geoscript.Imagery
