import Geoscript.River.Morphology

/-! The lines in the middle of rivers: where the distance to the banks has no slope. -/

namespace Geoscript.River

open Geoscript.Graph

def grown (img : Term) (times : Nat) : Term :=
  img.call "focal_max" [1.5, "circle", "pixels", .int times]

def distanceMap (img neighborhood scale : Term) : Term := do
  let wide ← (grown img 2).share
  let outline := wide.call "subtract" [grown img 1]
  let pixels ← (outline.call "fastDistanceTransform" [neighborhood] |>.call "sqrt" []).share
  let meters ← (pixels.call "multiply" [scale]).share
  meters.call "mask" [pixels.call "lte" [neighborhood] |>.call "And" [wide]]

def squareSum (dx dy : Term) : Term :=
  dx.call "multiply" [dx] |>.call "add" [dy.call "multiply" [dy]]

def fixedKernel (width height : Nat) (rows : List (List Double)) : Term :=
  server "Kernel.fixed" [.int width, .int height,
    Value.list (rows.map fun row => .list (row.map Value.float))]

def convolvedSlope (image scale dx dy : Term) : Term := do
  let dx ← (image.call "convolve" [dx]).share
  let dy ← (image.call "convolve" [dy]).share
  (squareSum dx dy).call "divide" [scale.call "multiply" [scale]]

def gradientMap (image : Term) (method : Value) (scale : Term) : Term := do
  if method.isInt 1 then
    let gradient ← (image.call "gradient" []).share
    let dx ← (gradient.call "select" [.list ["x"]]).share
    let dy ← (gradient.call "select" [.list ["y"]]).share
    (squareSum dx dy).call "sqrt" []
  else if method.isInt 2 then
    let dx := fixedKernel 3 3 [[0.125, 0.0, -0.125], [0.25, 0.0, -0.25], [0.125, 0.0, -0.125]]
    let dy := fixedKernel 3 3 [[-0.125, -0.25, -0.125], [0.0, 0.0, 0.0], [0.125, 0.25, 0.125]]
    (convolvedSlope image scale dx dy).call "sqrt" []
  else if method.isInt 3 then
    let dx := fixedKernel 3 1 [[-0.5, 0.0, 0.5]]
    let dy := fixedKernel 1 3 [[0.5], [0.0], [-0.5]]
    convolvedSlope image scale dx dy
  else fail .noCase

def thinCenterline (img gradient bound : Term) : Term := do
  let wide ← (grown img 2).share
  let line ← ((server "Image" [gradient]).call "mask" [wide] |>.call "lte" [bound]
    |>.call "And" [img]).share
  skeletonize line (.int 2) (.int 1)

/-- The centreline without branches up to a length and without its ends, and without corners if asked. -/
def cleanCenterline (line maxBranch : Term) (removeCorners : Value) : Term := do
  let masked ← (line.call "mask" [line]).share
  let nearby ← (masked.callWith "reduceNeighborhood" [] [("reducer", reducer "count"),
    ("kernel", server "Kernel.circle" [1.5]), ("skipMasked", .bool true)]).share
  let ends ← (nearby.call "lte" [2]).share
  let joints ← (nearby.call "gte" [4]).share
  let cost ← (masked.call "updateMask" [joints.call "Not" []] |>.callWith "cumulativeCost" [] [
    ("source", ends.call "mask" [ends]), ("maxDistance", maxBranch),
    ("geodeticDistance", .bool true)]).share
  let branches ← (cost.call "gte" [0] |>.call "unmask" [0]).share
  let without (line drop : Term) : Term := line.call "updateMask" [drop.call "Not" []]
  let line ← (without line branches).share
  let line ← (without line (endpoints line)).share
  if removeCorners.isTrue then without line (corners line) else line

/-- The directions, in degrees, from the middle of nine by nine pixels to the ones at the edge. -/
def directions : List (List Double) := [
  [135.0, 126.9, 116.6, 104.0, 90.0, 76.0, 63.4, 53.1, 45.0],
  [143.1, 0.0, 0.0, 0.0, 0.0, 0.0, 0.0, 0.0, 36.9],
  [153.4, 0.0, 0.0, 0.0, 0.0, 0.0, 0.0, 0.0, 26.6],
  [166.0, 0.0, 0.0, 0.0, 0.0, 0.0, 0.0, 0.0, 14.0],
  [180.0, 0.0, 0.0, 0.0, 0.0, 0.0, 0.0, 0.0, 1e-05],
  [194.0, 0.0, 0.0, 0.0, 0.0, 0.0, 0.0, 0.0, 346.0],
  [206.6, 0.0, 0.0, 0.0, 0.0, 0.0, 0.0, 0.0, 333.4],
  [216.9, 0.0, 0.0, 0.0, 0.0, 0.0, 0.0, 0.0, 323.1],
  [225.0, 233.1, 243.4, 256.0, 270.0, 284.0, 296.6, 306.9, 315.0]]

def withCount (reducerName : String) : Term :=
  (reducer reducerName).call "combine" [reducer "count", .null, .bool true]

def crossAngle (line : Term) : Term := do
  let angle ← (line.call "mask" [line] |>.call "rename" [.list ["clCleaned"]]
    |>.callWith "reduceNeighborhood" [] [("reducer", withCount "sum"),
      ("kernel", fixedKernel 9 9 directions), ("inputWeight", "kernel"),
      ("skipMasked", .bool true)]).share
  let count ← (angle.call "select" ["clCleaned_count"]).share
  let mean ← (angle.call "select" ["clCleaned_sum"] |>.call "divide" [count]
    |>.call "mask" [count.call "gt" [2] |>.call "Not" []]).share
  mean.call "where" [count.call "eq" [1], mean.call "add" [server "Image" [90]]]
    |>.call "rename" [.list ["orthDegree"]]

def addCenterline (img : Term) : Term := do
  let scale ← (server "Number" [img.call "get" ["scale"]]).share
  let river ← (img.call "select" [.list ["riverMask"]]).share
  let distance ← (distanceMap river 256 scale).share
  let gradient ← (gradientMap distance (.int 2) scale).share
  let raw ← (thinCenterline river gradient 0.9).share
  let cleaned ← (cleanCenterline raw 300 (.bool true)).share
  let line ← (cleanCenterline cleaned 300 (.bool false)).share
  img.call "addBands" [line.call "rename" [.list ["cleanedCL"]]]
    |>.call "addBands" [raw.call "rename" [.list ["rawCL"]]]
    |>.call "addBands" [gradient.call "rename" [.list ["gradientMap"]]]
    |>.call "addBands" [distance.call "rename" [.list ["distanceMap"]]]

def addCrossAngle (img : Term) : Term :=
  img.call "addBands" [crossAngle (img.call "select" [.list ["cleanedCL"]])]

end Geoscript.River
