import Geoscript.Graph.Recording

/-! Which pixels of an image show water, which of them belong to the river, and what disturbs the view. -/

namespace Geoscript.River

open Geoscript.Graph

def band (image : Term) (name : String) : Term :=
  image.call "select" [.list [name]]

/-! ### Indices of water -/

def mndwi (image : Term) : Term :=
  image.call "normalizedDifference" [.list ["Green", "Swir1"]] |>.call "rename" ["mndwi"]

def mbsrv (image : Term) : Term :=
  (band image "Green").call "add" [band image "Red"] |>.call "rename" ["mbsrv"]

def mbsrn (image : Term) : Term :=
  (band image "Nir").call "add" [band image "Swir1"] |>.call "rename" ["mbsrn"]

def ndvi (image : Term) : Term :=
  image.call "normalizedDifference" [.list ["Nir", "Red"]] |>.call "rename" ["ndvi"]

def awesh (image : Term) : Term :=
  image.call "expression" ["Blue + 2.5 * Green + (-1.5) * mbsrn + (-0.25) * Swir2",
    .dict [("Blue", band image "Blue"), ("Green", band image "Green"),
      ("mbsrn", band (mbsrn image) "mbsrn"), ("Swir2", band image "Swir2")]]

def evi (image : Term) : Term :=
  image.call "expression" ["2.5 * (Nir - Red) / (1 + Nir + 6 * Red - 7.5 * Blue)",
    .dict [("Nir", band image "Nir"), ("Red", band image "Red"), ("Blue", band image "Blue")]]
    |>.call "rename" [.list ["evi"]]

def isOneOf (t : Term) (first : Nat) (rest : List Nat) : Term :=
  rest.foldl (fun found (n : Nat) => found.call "Or" [t.call "eq" [.int n]])
    (t.call "eq" [.int first])

def allOf (first : Term) (rest : List Term) : Term :=
  rest.foldl (fun found t => found.call "And" [t]) first

/-- The class of surface water: five tests give a number of five digits, and the classes are sets of such
numbers. -/
def surfaceWater (image : Term) : Term := do
  let mndwi ← (mndwi image).share
  let mbsrv ← (mbsrv image).share
  let mbsrn ← (mbsrn image).share
  let awesh ← (awesh image).share
  let swir1 ← (band image "Swir1").share
  let nir ← (band image "Nir").share
  let ndvi ← (ndvi image).share
  let blue ← (band image "Blue").share
  let swir2 ← (band image "Swir2").share
  let t1 := mndwi.call "gt" [0.124]
  let t2 := mbsrv.call "gt" [mbsrn]
  let t3 := awesh.call "gt" [0]
  let t4 := allOf (mndwi.call "gt" [.float (-0.44)])
    [swir1.call "lt" [900], nir.call "lt" [1500], ndvi.call "lt" [0.7]]
  let t5 := allOf (mndwi.call "gt" [.float (-0.5)])
    [blue.call "lt" [1000], swir1.call "lt" [3000], swir2.call "lt" [1000], nir.call "lt" [2500]]
  let t ← (t1.call "add" [t2.call "multiply" [10]] |>.call "add" [t3.call "multiply" [100]]
    |>.call "add" [t4.call "multiply" [1000]] |>.call "add" [t5.call "multiply" [10000]]).share
  let noWater := isOneOf t 0 [1, 10, 100, 1000]
  let high := isOneOf t 1111 [10111, 11011, 11101, 11110, 11111]
  let moderate := isOneOf t 111 [1011, 1101, 1110, 10011, 10101, 10110, 11001, 11010, 11100]
  let wetland := isOneOf t 11000 []
  let low := isOneOf t 11 [101, 110, 1001, 1010, 1100, 10000, 10001, 10010, 10100]
  noWater.call "multiply" [0] |>.call "add" [high.call "multiply" [1]]
    |>.call "add" [moderate.call "multiply" [2]] |>.call "add" [wetland.call "multiply" [3]]
    |>.call "add" [low.call "multiply" [4]] |>.call "rename" [.list ["dswe"]]

def waterByClass (image : Term) : Term := do
  let water ← (surfaceWater image).share
  water.call "eq" [1] |>.call "Or" [water.call "eq" [2]] |>.call "rename" [.list ["waterMask"]]

def waterByIndex (image : Term) : Term := do
  let mndwi ← (mndwi image).share
  let ndvi ← (ndvi image).share
  let evi ← (evi image).share
  mndwi.call "gt" [ndvi] |>.call "Or" [mndwi.call "gt" [evi]] |>.call "And" [evi.call "lt" [0.1]]
    |>.call "rename" [.list ["waterMask"]]

def classifyWater (image : Term) (method : Value) : Term :=
  match method with
  | .str "Jones2019" => waterByClass image
  | .str "Zou2018" => waterByIndex image
  | _ => .null

/-! ### Flags -/

def unpack (bits start width : Term) : Term :=
  (server "Image" [bits]).call "rightShift" [start]
    |>.call "bitwiseAnd" [(server "Number" [2]).call "pow" [server "Number" [width]]
      |>.call "subtract" [server "Number" [1]] |>.call "int" []]

def unpackAll (bits : Term) : Term :=
  server "Image.cat" [.list ([("Cloud", 5), ("CloudShadow", 3), ("SnowIce", 4), ("Water", 2)].map
    fun ((name, start) : String × Nat) =>
      (unpack bits (.int start) 1).call "rename" [.list [name]])]

/-- An image with a band that says what each pixel shows: water 1, cloud shadow 2, snow 3, cloud 4. -/
def addFlags (image : Term) : Term := do
  let flags ← (unpackAll (band image "BQA")).share
  let fmask :=
    (band flags "Water").call "rename" [.list ["fmask"]]
      |>.call "where" [band flags "SnowIce", server "Image" [3]]
      |>.call "where" [band flags "CloudShadow", server "Image" [2]]
      |>.call "where" [band flags "Cloud", server "Image" [4]]
      |>.call "mask" [(band flags "Cloud").call "gte" [0]]
  image.call "addBands" [fmask]

def hillShadow (image : Term) : Term := do
  let terrain ← ((server "Image" ["users/eeProject/MERIT"]).call "clip"
    [image.call "geometry" [] |>.call "buffer" [9000] |>.call "bounds" []]).share
  let azimuth ← (server "Number" [image.call "get" ["SOLAR_AZIMUTH_ANGLE"]]).share
  let zenith ← (server "Number" [image.call "get" ["SOLAR_ZENITH_ANGLE"]]).share
  server "Terrain.hillShadow" [terrain, azimuth, zenith, 100, .bool true]
    |>.call "reproject" ["EPSG:4326", .null, 90] |>.call "rename" [.list ["hillshadow"]]

/-- The water of an image with all flags, and what later steps need to know of the image. -/
def waterWithFlags (image : Term) (method : Value) : Term := do
  let fmask ← (band (addFlags image) "fmask").share
  let flag (n : Nat) (name : String) : Term :=
    fmask.call "eq" [.int n] |>.call "rename" [name]
  let flags ← ((flag 4 "flag_cloud").call "addBands" [flag 2 "flag_cldShadow"]
    |>.call "addBands" [flag 3 "flag_snowIce"] |>.call "addBands" [flag 1 "flag_water"]).share
  let water ← ((classifyWater image method).call "where"
    [fmask.call "gte" [2], server "Image.constant" [0]]).share
  let shadow ← (hillShadow image |>.call "Not" []
    |>.call "rename" [.list ["flag_hillshadow"]]).share
  server "Image" [water.call "addBands" [fmask] |>.call "addBands" [shadow]
    |>.call "addBands" [flags] |>.call "setMulti" [.dict [
      ("image_id", image.call "get" ["LANDSAT_ID"]),
      ("timestamp", image.call "get" ["system:time_start"]),
      ("scale", image.call "projection" [] |>.call "nominalScale" []),
      ("crs", image.call "projection" [] |>.call "crs" [])]]]

/-! ### The river -/

def centerlinesIn (centerlines bound : Term) : Term :=
  centerlines.call "filterBounds" [bound]

def channel (image centerline maxDistance : Term) : Term := do
  let source := server "Image" [] |>.call "toByte" [] |>.call "paint" [centerline, 1]
    |>.call "And" [image]
  let connected ← (image.call "Not" [] |>.callWith "cumulativeCost" [] [("source", source),
    ("maxDistance", maxDistance), ("geodeticDistance", .bool false)] |>.call "eq" [0]).share
  image.call "updateMask" [connected] |>.call "unmask" [0]
    |>.call "updateMask" [image.call "gte" [0]] |>.call "rename" [.list ["channelMask"]]

def fillIslands (channel size : Term) : Term :=
  let islands := channel.call "Not" [] |>.call "selfMask" [] |>.call "connectedPixelCount" [size]
    |>.call "lt" [size]
  channel.call "where" [islands, server "Image" [1]] |>.call "rename" [.list ["riverMask"]]

def addRiver (image centerlines maxDistance islandSize : Term) : Term := do
  let water ← (band image "waterMask").share
  let lines ← (centerlinesIn centerlines (water.call "geometry" [])).share
  let channel ← (channel water lines maxDistance).share
  let river ← (fillIslands channel islandSize).share
  image.call "addBands" [channel] |>.call "addBands" [river]

end Geoscript.River
