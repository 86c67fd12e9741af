import Geoscript.Imagery.Platform
import Geoscript.Value.Render

/-! Reduces the images of a collection over regions, and gives a feature for each image and reducer, with its date. -/

namespace Geoscript.Imagery

open Geoscript.Graph

structure SeriesRequest where
  images : Term
  reducers : Value
  bands : Value
  scale : Term
  crs : Term
  crsTransform : Term
  tileScale : Term
  dateColumn : Value
  dateFormat : Value
  naValue : Term

namespace SeriesRequest

def asList (v : Value) : List Value :=
  match v with
  | .list items => items
  | v => [v]

/-- The images with the bands that are kept, and the names of these bands. -/
def selected (r : SeriesRequest) : Build (Term × Value) := do
  match r.bands with
  | .null =>
    let bands ← (r.images.call "first" [] |>.call "bandNames" []).info
    return (r.images, bands)
  | bands =>
    let bands := Value.list (asList bands)
    return (← (r.images.call "select" [bands]).share, bands)

def date (r : SeriesRequest) (img : Term) : Term :=
  let date := server "Date" [img.call "get" ["system:time_start"]]
  match r.dateFormat with
  | .str "ms" => date.call "millis" []
  | .str "ISO" => date.call "format" []
  | format => date.call "format" [format]

def labels (r : SeriesRequest) (date reducerName : Term) : Term := do
  match r.dateColumn with
  | .list _ => fail .wrongType
  | .dict _ => fail .wrongType
  | column => Term.dict [(column.render, date), ("reducer", reducerName)]

/-- A feature in which bands without a value have the value for that. `complete` is the number of
properties of a feature without values. -/
def fillMissing (r : SeriesRequest) (bands : Value) (complete : Term) (feature : Term) : Term := do
  let condition ←
    (feature.call "propertyNames" [] |>.call "size" [] |>.call "eq" [complete]).share
  let count ← lift bands.size
  let filled := feature.call "set" [server "Dictionary.fromLists"
    [bands, .list (List.replicate count r.naValue)]]
  server "Feature" [serverWith "Algorithms.If" []
    [("condition", condition), ("trueCase", filled), ("falseCase", feature)]]

end SeriesRequest

def outputName (reducer : Term) : Term :=
  reducer.call "getOutputs" [] |>.call "get" [0]

def flattened (collections : List Term) : Term :=
  (server "FeatureCollection" [.list collections]).call "flatten" []

def seriesByRegion (r : SeriesRequest) (geometry : Value) (bestEffort maxPixels : Term) : Term := do
  let (images, bands) ← r.selected
  let geometry : Term ←
    if ← isKind geometry .geometry then pure (Term.ofValue geometry)
    else (Term.call geometry "geometry" []).share
  let collections ← (SeriesRequest.asList r.reducers).mapM fun (reducer : Value) => do
    let name ← (outputName reducer).share
    (server "FeatureCollection" [images.map fun img => do
      let values ← (img.call "reduceRegion" [reducer, geometry, r.scale, r.crs, r.crsTransform,
        bestEffort, maxPixels, r.tileScale]).share
      (server "Feature" [.null, values]).call "set" [r.labels (r.date img) name]]).share
  (flattened collections).map (r.fillMissing bands 3)

/-- The time series of the regions of a collection. An image with one band gets a second one, so that the
values are named after the bands. -/
def seriesByRegions (r : SeriesRequest) (collection : Value) : Term := do
  let (images, bands) ← r.selected
  unless ← isKind collection .featureCollection do fail .notAFeatureCollection
  let properties ← (Term.call collection "first" [] |>.call "propertyNames" []).share
  let collections ← (SeriesRequest.asList r.reducers).mapM fun (reducer : Value) => do
    let name ← (outputName reducer).share
    let reduce (img : Term) : Term := do
      let img ← (server "Image" [img]).share
      let img ←
        if (← lift bands.size) = 1 then
          (img.call "addBands" [(server "Image" [r.naValue]).call "rename" ["eemontTemporal"]]).share
        else pure img
      let features ← (img.call "reduceRegions" [collection, reducer, r.scale, r.crs,
        r.crsTransform, r.tileScale]).share
      let date ← (r.date img).share
      features.map fun feature => feature.call "set" [r.labels date name]
    (images.map reduce |>.call "flatten" []).share
  let complete := properties.call "size" [] |>.call "add" [2]
  (flattened collections).map (r.fillMissing bands complete)
    |>.call "select" [properties.call "cat" [.list ["reducer", r.dateColumn]] |>.call "cat" [bands]]

/-! ### The images nearest to a date -/

/-- The images of the day nearest to a date, among those within a tolerance before and after it. -/
def closestImages (images : Term) (date tolerance : Value) (unit : Term) : Term := do
  let date : Term ←
    if ← isKind date .date then pure (Term.ofValue date) else (server "Date" [date]).share
  let before := Value.ofNumber (← lift tolerance.number).neg
  let start ← (date.call "advance" [before, unit]).share
  let stop ← (date.call "advance" [tolerance, unit]).share
  let images ← (images.call "filterDate" [start, stop]).share
  if (← (images.call "size" []).info).isInt 0 then fail .noImages
  let dateOf (time : Term) (part : String) : Term := (server "Date" [time]).call "get" [part]
  let describe (img : Term) : Term := do
    let distance := (server "Number" [img.call "get" ["system:time_start"]]).call "subtract"
      [date.call "millis" []] |>.call "abs" []
    let img ← (img.call "set" ["dateDist", distance]).share
    ["day", "month", "year"].foldlM (fun (img : Term) (part : String) =>
      (img.call "set" [part, dateOf (img.call "get" ["system:time_start"]) part]).share) img
      >>= id
  let images ← (images.map describe |>.call "sort" ["dateDist"]).share
  let time ← (images.call "limit" [1] |>.call "first" [] |>.call "get" ["system:time_start"]).share
  let sameDay := ["day", "month", "year"].map fun (part : String) =>
    server "Filter.eq" [part, dateOf time part]
  images.call "filter" [server "Filter.And" sameDay]

/-! ### The least and the greatest value -/

/-- What a reducer gives for a whole image, at a scale or at the scale of its own pixels. -/
def wholeImage (reducerName : String) (x : Term) (scale : Value) : Term := do
  let scale : Term ←
    match scale with
    | .null =>
      (x.call "geometry" [] |>.call "projection" [] |>.call "nominalScale" []).share
    | v => pure v
  let geometry ← (x.call "geometry" []).info
  let coordinates ← lift (geometry.part (.str "coordinates"))
  let region ← (serverWith "Geometry.Polygon" [] [("coords", coordinates), ("proj", "EPSG:4326"),
    ("evenOdd", .bool true), ("maxError", 1.0), ("geodesic", .bool false)]).share
  (serverWith "Image.reduceRegion" [] [("image", x), ("reducer", reducer reducerName),
    ("scale", scale), ("geometry", region), ("bestEffort", .bool true)]).info

end Geoscript.Imagery
