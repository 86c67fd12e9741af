import Geoscript.Graph.Operation
import Geoscript.River.Width

/-! The functions on rivers, with their parameters and defaults. -/

namespace Geoscript.River

open Geoscript.Graph

/-! ### Morphology -/

def hitOrMissOperation : Operation := operation ["image", "se1", "se2"] hitOrMiss

def splitPatternOperation : Operation :=
  operation ["kernel", "value"] fun (matrix wanted : Term) =>
    (do lift (splitValue (← matrix) (← wanted)) : Term)

def skeletonizeOperation : Operation :=
  operation ["image", "iterations", "method"] fun (image iterations method : Term) =>
    (do skeletonize image (← iterations) (← method) : Term)

def endpointsOperation : Operation := operation ["CL1px"] endpoints

def cornersOperation : Operation := operation ["CL1px"] corners

/-! ### Centrelines -/

def distanceMapOperation : Operation :=
  operation ["img", "neighborhoodSize", "scale"] distanceMap

def gradientMapOperation : Operation :=
  operation ["image", "gradMethod", "scale"] fun (image method scale : Term) =>
    (do gradientMap image (← method) scale : Term)

def thinCenterlineOperation : Operation := operation ["img", "GM", "hGrad"] thinCenterline

def cleanCenterlineOperation : Operation :=
  operation ["cl1px", "maxBranchLengthToRemove", "rmCorners"] fun (line length corners : Term) =>
    (do cleanCenterline line length (← corners) : Term)

def crossAngleOperation : Operation := operation ["clCleaned"] crossAngle

def addCenterlineOperation : Operation := operation ["imgIn"] addCenterline

def addCrossAngleOperation : Operation := operation ["imgIn"] addCrossAngle

/-! ### Water -/

def defaultMethod : Value := .str "Jones2019"

def unpackOperation : Operation := operation ["bitBand", "startingBit", "bitWidth"] unpack

def unpackAllOperation : Operation := operation ["bitBand"] unpackAll

def addFlagsOperation : Operation := operation ["image"] addFlags

def hillShadowOperation : Operation := operation ["image"] hillShadow

def classifyWaterOperation : Operation :=
  operationWith ["imgIn"] [("method", defaultMethod)] fun (image method : Term) =>
    (do classifyWater image (← method) : Term)

def waterWithFlagsOperation : Operation :=
  operationWith ["imgIn"] [("waterMethod", defaultMethod)] fun (image method : Term) =>
    (do waterWithFlags image (← method) : Term)

def centerlinesInOperation : Operation := operation ["clDataset", "bound"] centerlinesIn

def channelOperation : Operation := operation ["image", "centerline", "maxDistance"] channel

def fillIslandsOperation : Operation := operation ["channel", "FILL_SIZE"] fillIslands

def addRiverOperation : Operation :=
  operation ["imgIn", "clData", "maxDist", "minIslandRemoval"] addRiver

def mndwiOperation : Operation := operation ["image"] mndwi

def mbsrvOperation : Operation := operation ["image"] mbsrv

def mbsrnOperation : Operation := operation ["image"] mbsrn

def ndviOperation : Operation := operation ["image"] ndvi

def aweshOperation : Operation := operation ["image"] awesh

def eviOperation : Operation := operation ["image"] evi

def surfaceWaterOperation : Operation := operation ["i"] surfaceWater

def waterByClassOperation : Operation := operation ["img"] waterByClass

def waterByIndexOperation : Operation := operation ["image"] waterByIndex

/-! ### Widths -/

def crossSectionsOperation : Operation :=
  operation ["clAngleNorm", "segmentInfo", "endInfo", "DM", "crs", "bound", "scale", "sceneID",
    "note"] crossSections

def exportPointOperation : Operation := operation ["f"] exportPoint

def widthsOperation : Operation := operation ["imgIn"] widths

def mergedScenesOperation : Operation := operation [] mergedScenes

def sceneByIdOperation : Operation := operation ["id"] sceneById

def sceneOperation : Operation :=
  operation ["id"] fun (v : Term) => (do sceneOf (← v) : Term)

def widthParameters : List Parameter := [.optional "aoi" .null,
  .optional "WATER_METHOD" defaultMethod, .optional "MAXDISTANCE" (.int 4000),
  .optional "FILL_SIZE" (.int 333), .optional "MAXDISTANCE_BRANCH_REMOVAL" (.int 500)]

/-- Measuring as a search for widths says, in an area of its own if one is given. -/
def WidthRequest.operation (r : WidthRequest) : Operation where
  parameters := [.required "image", .optional "aoi" r.area]
  run vs _ :=
    match vs with
    | [image, area] => r.measure image area
    | _ => fail .badArguments

/-- A search for widths. It gives a function, which is applied to `args` if there are any. -/
def widthSearchOperation (args : Option (List Value)) : Operation where
  parameters := widthParameters
  run vs _ :=
    match vs with
    | [area, waterMethod, maxDistance, islandSize, _] =>
      let r : WidthRequest := ⟨area, waterMethod, maxDistance, islandSize⟩
      match args with
      | some args => r.operation.apply args []
      | none => Term.lambda₂ fun image area => do r.measure image (← area)
    | _ => fail .badArguments

def exportWidthsOperation : Operation where
  parameters := [.required "image", .optional "description" .null, .optional "folder" (.str ""),
    .optional "file_format" (.str "shp"), .optional "aoi" .null,
    .optional "water_method" defaultMethod, .optional "max_dist" (.int 4000),
    .optional "fill_size" (.int 333), .optional "max_dist_branch_removal" (.int 500),
    .optional "return_fc" (.bool false)]
  run vs _ :=
    match vs with
    | [image, description, folder, format, area, waterMethod, maxDistance, islandSize, _, giveBack] =>
      exportWidths ⟨area, waterMethod, maxDistance, islandSize⟩
        ⟨description, folder, format, giveBack⟩ image
    | _ => fail .badArguments

end Geoscript.River
