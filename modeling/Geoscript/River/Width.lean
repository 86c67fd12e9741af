import Geoscript.River.Centerline
import Geoscript.River.Water
import Geoscript.Value.Render

/-! Measures a river across its centreline, on segments laid across the river at each pixel of the line. -/

namespace Geoscript.River

open Geoscript.Graph

/-- The ratio of a circle's circumference to its diameter, as a double. -/
def pi : Double := 3.141592653589793

structure Survey where
  angle : Term
  segmentInfo : Term
  endInfo : Term
  distance : Term
  crs : Term
  bound : Term
  scale : Term
  scene : Term
  note : Term

def numberOf (f : Term) (property : String) : Term :=
  server "Number" [f.call "get" [property]]

def Survey.ends (s : Survey) (f : Term) : Term := do
  let x ← (numberOf f "x").share
  let y ← (numberOf f "y").share
  let angle ← ((numberOf f "angle").call "divide" [180] |>.call "multiply" [.float pi]).share
  let width ← ((numberOf f "toBankDistance").call "multiply" [1.5]).share
  let dx ← (width.call "multiply" [angle.call "cos" []]).share
  let dy ← (width.call "multiply" [angle.call "sin" []]).share
  let point (move : String) : Term :=
    server "Geometry.Point" [.list [x.call move [dx], y.call move [dy]], s.crs]
  let p1 ← (point "add").share
  let p2 ← (point "subtract").share
  server "Feature" [(server "Geometry.MultiPoint" [.list [p1, p2]]).call "buffer" [30], .dict [
    ("xc", x), ("yc", y), ("longitude", f.call "get" ["lon"]), ("latitude", f.call "get" ["lat"]),
    ("orthogonalDirection", angle), ("MLength", width.call "multiply" [2]), ("p1", p1), ("p2", p2),
    ("crs", s.crs), ("image_id", s.scene), ("note", s.note)]]

def Survey.segment (s : Survey) (f : Term) : Term :=
  f.call "setGeometry" [serverWith "Geometry.LineString" [] [
      ("coords", .list [f.call "get" ["p1"], f.call "get" ["p2"]]), ("proj", s.crs),
      ("geodesic", .bool false)]]
    |>.call "set" ["p1", .null] |>.call "set" ["p2", .null]

def Survey.segments (s : Survey) : Term := do
  let points ← (s.angle.call "rename" [.list ["angle"]]
    |>.call "addBands" [server "Image.pixelCoordinates" [s.crs]]
    |>.call "addBands" [(server "Image.pixelLonLat" []).call "rename" [.list ["lon", "lat"]]]
    |>.call "addBands" [s.distance.call "rename" [.list ["toBankDistance"]]]
    |>.callWith "sample" [] [("region", s.bound), ("scale", s.scale), ("projection", .null),
      ("factor", 1), ("dropNulls", .bool true)]).share
  let ends ← (points.map s.ends).share
  let known ← (s.endInfo.callWith "reduceRegions" [] [("collection", ends),
    ("reducer", withCount "anyNonZero"), ("scale", s.scale), ("crs", s.crs)]).share
  let segments ← (known.map s.segment).share
  s.segmentInfo.callWith "reduceRegions" [] [("collection", segments), ("reducer", reducer "mean"),
    ("scale", s.scale), ("crs", s.crs)]

def crossSections (angle segmentInfo endInfo distance crs bound scale scene note : Term) : Term :=
  Survey.segments ⟨angle, segmentInfo, endInfo, distance, crs, bound, scale, scene, note⟩

def exportPoint (f : Term) : Term := do
  let f ← (f.call "set" [.dict [
    ("width", (numberOf f "MLength").call "multiply" [f.call "get" ["channelMask"]]),
    ("endsInWater", (numberOf f "any").call "eq" [1]),
    ("endsOverEdge", (numberOf f "count").call "lt" [2])]]).share
  (server "Feature" [server "Geometry.Point"
      [.list [f.call "get" ["longitude"], f.call "get" ["latitude"]]], .dict []]).call
    "copyProperties" [f, .null, .list ["any", "count", "MLength", "xc", "yc", "channelMask"]]

def widths (image : Term) : Term := do
  let crs ← (image.call "get" ["crs"]).share
  let scale ← (image.call "get" ["scale"]).share
  let scene ← (image.call "get" ["image_id"]).share
  let river ← (band image "riverMask").share
  let bound ← (river.call "geometry" []).share
  let angle ← (band image "orthDegree").share
  let terrain := (server "Image" ["users/eeProject/MERIT"]).call "rename" [.list ["flag_elevation"]]
  let info ← (image.call "select" ["channelMask"]
    |>.call "addBands" [image.call "select" ["^flag.*"]] |>.call "addBands" [terrain]).share
  let distance ← (band image "distanceMap").share
  (crossSections angle info river distance crs bound scale scene "").map exportPoint

/-! ### From images to exports -/

/-- The merged scenes of three satellites, with one set of band names. -/
def mergedScenes : Term := do
  let older : Term := Term.texts ["B1", "B1", "B2", "B3", "B5", "pixel_qa", "B4", "B7"]
  let newer : Term := Term.texts ["B1", "B2", "B3", "B4", "B6", "pixel_qa", "B5", "B7"]
  let names : Term :=
    Term.texts ["uBlue", "Blue", "Green", "Red", "Swir1", "BQA", "Nir", "Swir2"]
  let fifth ← ((server "ImageCollection" ["LANDSAT/LT05/C01/T1_SR"]).call "select"
    [older, names]).share
  let seventh ← ((server "ImageCollection" ["LANDSAT/LE07/C01/T1_SR"]).call "filterDate"
    ["1999-04-15", "2003-05-30"] |>.call "select" [older, names]).share
  let eighth ← ((server "ImageCollection" ["LANDSAT/LC08/C01/T1_SR"]).call "select"
    [newer, names]).share
  fifth.call "merge" [seventh] |>.call "merge" [eighth]

def sceneById (id : Term) : Term :=
  server "Image" [mergedScenes.call "filterMetadata" ["LANDSAT_ID", "equals", id]
    |>.call "first" []]

def sceneIdOf (image : Term) : Term :=
  (image.call "get" ["LANDSAT_ID"]).info

/-- The scene that a value names: an image, the identifier of a scene, or the name of an asset. -/
def sceneOf (v : Value) : Term := do
  match v with
  | .str name =>
    if name.length = 43 ∧ name.toList.contains '/' then
      sceneById (← (sceneIdOf (server "Image" [name])).share)
    else if name.length = 40 then sceneById name
    else fail .badImageName
  | v =>
    if ← isKind v .image then sceneById (← (sceneIdOf v).share)
    else fail .notAnImage

structure WidthRequest where
  /-- Where to look; nothing looks everywhere in the image. -/
  area : Value := .null
  waterMethod : Value := .str "Jones2019"
  maxDistance : Value := .int 4000
  islandSize : Value := .int 333

def WidthRequest.measure (r : WidthRequest) (image : Term) (area : Value) : Term := do
  let lines ← (server "FeatureCollection" ["users/eeProject/grwl"]).share
  let area ← (server "Algorithms.If" [area, area, image.call "geometry" []]).share
  let image ← (image.call "clip" [area]).share
  let image ← (waterWithFlags image r.waterMethod).share
  let image ← (addRiver image lines r.maxDistance r.islandSize).share
  let image ← (addCenterline image).share
  widths (← (addCrossAngle image).share)

/-- What an export is called and where it goes. -/
structure ExportRequest where
  description : Value
  folder : Value
  format : Value
  /-- Whether the features are given back and not exported. -/
  giveBack : Value

def exportWidths (r : WidthRequest) (e : ExportRequest) (image : Value) : Term := do
  let scene ← (sceneOf image).share
  let description ←
    match e.description, image with
    | .null, .str name => pure (Value.str name)
    | .null, _ => sceneIdOf scene
    | d, _ => pure d
  let features ← (r.measure scene r.area).share
  if e.giveBack.isTrue then features
  else
    start (serverWith "batch.Export.table.toDrive" [] [("collection", features),
      ("description", description), ("folder", e.folder), ("fileFormat", e.format)])
    printLine (" ".intercalate [description.render, "will be exported to", e.folder.render, "as",
      e.format.render, "file"])
    return .bool true

end Geoscript.River
