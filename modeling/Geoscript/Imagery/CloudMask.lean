import Geoscript.Imagery.Platform
import Geoscript.Value.Render

/-! Hides clouds and, where asked, shadows and cirrus. Most platforms have a band whose bits say what a pixel shows;
for one family clouds come from other collections, and shadows are projected from them. -/

namespace Geoscript.Imagery

open Geoscript.Graph

structure MaskRequest where
  method : Value
  /-- The probability in percent from which on a pixel counts as cloud. -/
  prob : Value
  maskCirrus : Value
  maskShadows : Value
  scaledImage : Value
  dark : Value
  cloudDist : Value
  buffer : Value
  /-- The bound of the cloud displacement index, if it is used. -/
  cdi : Value

/-! ### Masks from bits -/

/-- The band with the bits, and the bits that say cloud, shadow and cirrus. -/
structure BitRule where
  band : String
  cloud : Nat
  shadow : Option Nat := none
  cirrus : Option Nat := none

def bitClear (qa : Term) (bit : Nat) : Term :=
  qa.call "bitwiseAnd" [.int (twoPow bit)] |>.call "eq" [0]

/-- A mask, and another one too if that is asked for and there is one. -/
def alsoClear (mask qa : Term) (asked : Value) (bit : Option Nat) : Term :=
  match bit with
  | some bit => if asked.isTrue then mask.call "And" [bitClear qa bit] else mask
  | none => mask

def BitRule.mask (rule : BitRule) (r : MaskRequest) (img : Term) : Term := do
  let qa ← (img.call "select" [rule.band]).share
  let clear := alsoClear (bitClear qa rule.cloud) qa r.maskShadows rule.shadow
  img.call "updateMask" [alsoClear clear qa r.maskCirrus rule.cirrus]

def sentinel3 : BitRule := ⟨"quality_flags", 27, none, none⟩

def landsat8 : BitRule := ⟨"pixel_qa", 5, some 3, none⟩

def landsat8Second : BitRule := ⟨"QA_PIXEL", 3, some 4, some 2⟩

def landsat457Second : BitRule := ⟨"QA_PIXEL", 3, some 4, none⟩

def modisDaily : BitRule := ⟨"state_1km", 0, some 2, some 8⟩

def modisLeaf : BitRule := ⟨"FparExtra_QC", 5, some 6, some 4⟩

def modisQuarter : BitRule := ⟨"State", 0, some 2, some 8⟩

def modisEightDays : BitRule := ⟨"StateQA", 0, some 2, some 8⟩

def modisProduction : BitRule := ⟨"Psn_QC", 3, none, none⟩

def modisEvaporation : BitRule := ⟨"ET_QC", 3, none, none⟩

def modisVegetation : BitRule := ⟨"SummaryQA", 0, none, none⟩

/-! ### Other masks -/

/-- Two bits together say cloud, a third one says shadow, and pixels that lack a band are hidden too. -/
def maskLandsat457 (r : MaskRequest) (img : Term) : Term := do
  let qa ← (img.call "select" ["pixel_qa"]).share
  let bit (n : Nat) : Term := qa.call "bitwiseAnd" [.int (twoPow n)]
  let cloud := (bit 5).call "And" [bit 7]
  let cloud := if r.maskShadows.isTrue then cloud.call "Or" [bit 3] else cloud
  img.call "updateMask" [cloud.call "Not" []]
    |>.call "updateMask" [img.call "mask" [] |>.call "reduce" [reducer "min"]]

def maskModisVegetationCoarse (img : Term) : Term :=
  img.call "updateMask" [img.call "select" ["SummaryQA"] |>.call "eq" [0]]

def maskViirsDaily (r : MaskRequest) (img : Term) : Term := do
  let first ← (img.call "select" ["QF1"]).share
  let second ← (img.call "select" ["QF2"]).share
  let clear := alsoClear (bitClear first 2) second r.maskShadows (some 3)
  let clear := alsoClear clear second r.maskCirrus (some 6)
  img.call "updateMask" [alsoClear clear second r.maskCirrus (some 7)]

def maskViirsVegetation (r : MaskRequest) (img : Term) : Term := do
  let qa ← (img.call "select" ["pixel_reliability"]).share
  let clear := qa.call "neq" [9]
  img.call "updateMask" [if r.maskShadows.isTrue then clear.call "And" [qa.call "neq" [7]] else clear]

/-! ### Masks from other collections -/

def timesNumber (v : Value) (n : Number) : Except Failure Value := do
  Value.ofNumber? ((← v.number).mul? n)

def overNat (v : Value) (n : Nat) : Except Failure Value := do
  Value.ofNumber? ((← v.number).divNat? n)

def oneMinus (v : Value) : Except Failure Value := do
  Value.ofNumber? ((Number.int 1).sub? (← v.number))

def cloudByProbability (r : MaskRequest) (img : Term) : Term :=
  let clouds := (server "Image" [img.call "get" ["cloud_mask"]]).call "select" ["probability"]
  img.call "addBands" [clouds.call "gte" [r.prob] |>.call "rename" ["CLOUD_MASK"]]

def cloudByScore (r : MaskRequest) (img : Term) : Term := do
  let clouds ← (img.call "select" ["cs_cdf"]).share
  let bound ← lift (do oneMinus (← overNat r.prob 100))
  img.call "addBands" [clouds.call "lte" [bound] |>.call "rename" ["CLOUD_MASK"]]

def cloudByBits (r : MaskRequest) (img : Term) : Term := do
  let qa ← (img.call "select" ["QA60"]).share
  let clear := alsoClear (bitClear qa 10) qa r.maskCirrus (some 11)
  img.call "addBands" [clear.call "Not" [] |>.call "rename" ["CLOUD_MASK"]]

def addDisplacement (r : MaskRequest) (img : Term) : Term :=
  let sameIndex := server "Filter.eq" ["system:index", img.call "get" ["system:index"]]
  let top := (server "ImageCollection" ["COPERNICUS/S2"]).call "filter" [sameIndex]
    |>.call "first" []
  let index := server "Algorithms.Sentinel2.CDI" [top]
  img.call "addBands" [index.call "lt" [r.cdi] |>.call "rename" ["CLOUD_MASK_CDI"]]

/-- Shadows: dark pixels that are not water and lie where the sun casts the shadow of a cloud. -/
def addShadows (r : MaskRequest) (img : Term) : Term := do
  let notWater ← (img.call "select" ["SCL"] |>.call "neq" [6]).share
  let bound ← if r.scaledImage.isTrue then pure r.dark else lift (timesNumber r.dark (.double 1e4))
  let dark ← (img.call "select" ["B8"] |>.call "lt" [bound] |>.call "multiply" [notWater]).share
  let azimuth ← ((server "Number" [90]).call "subtract"
    [server "Number" [img.call "get" ["MEAN_SOLAR_AZIMUTH_ANGLE"]]]).share
  let distance ← lift (overNat r.cloudDist 10)
  let projection :=
    img.call "select" ["CLOUD_MASK"]
      |>.call "directionalDistanceTransform" [azimuth, distance]
      |>.callWith "reproject" []
        [("crs", img.call "select" [0] |>.call "projection" []), ("scale", 10)]
      |>.call "select" ["distance"]
      |>.call "mask" []
  img.call "addBands" [projection.call "multiply" [dark] |>.call "rename" ["SHADOW_MASK"]]

/-- Joins clouds and shadows, drops small patches, and grows the others. -/
def addCloudShadows (r : MaskRequest) (img : Term) : Term := do
  let cloud := img.call "select" ["CLOUD_MASK"]
  let cloud :=
    if r.cdi = .null then cloud else cloud.call "And" [img.call "select" ["CLOUD_MASK_CDI"]]
  let cloud :=
    if r.maskShadows.isTrue then
      cloud.call "add" [img.call "select" ["SHADOW_MASK"]] |>.call "gt" [0]
    else cloud
  let shrunk ← (cloud.callWith "focal_min" [20] [("units", "meters")]).share
  let radius ← lift (do overNat (← timesNumber r.buffer (.int 2)) 10)
  let grown := shrunk.callWith "focal_max" [radius] [("units", "meters")]
  img.call "addBands" [grown.call "rename" ["CLOUD_SHADOW_MASK"]]

def applyCloudShadows (img : Term) : Term :=
  img.call "updateMask" [img.call "select" ["CLOUD_SHADOW_MASK"] |>.call "Not" []]

def withProbability (images : Term) : Term :=
  let sameIndex := serverWith "Filter.equals" []
    [("leftField", "system:index"), ("rightField", "system:index")]
  (server "Join.saveFirst" ["cloud_mask"]).call "apply"
    [images, server "ImageCollection" ["COPERNICUS/S2_CLOUD_PROBABILITY"], sameIndex]

def withScore (images : Term) : Term :=
  (server "ImageCollection" [images]).call "linkCollection"
    [(server "ImageCollection" ["GOOGLE/CLOUD_SCORE_PLUS/V1/S2_HARMONIZED"]).call "select" ["cs_cdf"],
      .list ["cs_cdf"]]

def cloudsOfImage (r : MaskRequest) (img : Term) : Term :=
  match r.method with
  | .str "cloud_prob" =>
    (server "ImageCollection" [withProbability (server "ImageCollection" [img])]).map
      (cloudByProbability r) |>.call "first" []
  | .str "cloud_score+" =>
    (server "ImageCollection" [withScore img]).map (cloudByScore r) |>.call "first" []
  | _ => cloudByBits r img

def cloudsOfCollection (r : MaskRequest) (images : Term) : Term :=
  match r.method with
  | .str "cloud_prob" =>
    (server "ImageCollection" [withProbability images]).map (cloudByProbability r)
  | .str "cloud_score+" => (server "ImageCollection" [withScore images]).map (cloudByScore r)
  | _ => images.map (cloudByBits r)

def maskSentinel2Image (r : MaskRequest) (img : Term) : Term := do
  let img ← (cloudsOfImage r img).share
  let img ← (if r.cdi = .null then img else addDisplacement r img).share
  let img ← (if r.maskShadows.isTrue then addShadows r img else img).share
  let img ← (addCloudShadows r img).share
  applyCloudShadows img

def maskSentinel2Collection (r : MaskRequest) (images : Term) : Term :=
  let images := cloudsOfCollection r images
  let images := if r.cdi = .null then images else images.map (addDisplacement r)
  let images := if r.maskShadows.isTrue then images.map (addShadows r) else images
  images.map (addCloudShadows r) |>.map applyCloudShadows

/-! ### By platform -/

inductive MaskRule where
  | bits (rule : BitRule)
  | landsat457
  | modisVegetationCoarse
  | viirsDaily
  | viirsVegetation
  | sentinel2

def maskRules : List (String × MaskRule) := [
  ("COPERNICUS/S3/OLCI", .bits sentinel3),
  ("COPERNICUS/S2_SR", .sentinel2),
  ("COPERNICUS/S2_SR_HARMONIZED", .sentinel2),
  ("LANDSAT/LC08/C01/T1_SR", .bits landsat8),
  ("LANDSAT/LC08/C01/T2_SR", .bits landsat8),
  ("LANDSAT/LC08/C02/T1_L2", .bits landsat8Second),
  ("LANDSAT/LC08/C02/T2_L2", .bits landsat8Second),
  ("LANDSAT/LC09/C02/T1_L2", .bits landsat8Second),
  ("LANDSAT/LC09/C02/T2_L2", .bits landsat8Second),
  ("LANDSAT/LE07/C01/T1_SR", .landsat457),
  ("LANDSAT/LE07/C01/T2_SR", .landsat457),
  ("LANDSAT/LE07/C02/T1_L2", .bits landsat457Second),
  ("LANDSAT/LE07/C02/T2_L2", .bits landsat457Second),
  ("LANDSAT/LT05/C01/T1_SR", .landsat457),
  ("LANDSAT/LT05/C01/T2_SR", .landsat457),
  ("LANDSAT/LT05/C02/T1_L2", .bits landsat457Second),
  ("LANDSAT/LT05/C02/T2_L2", .bits landsat457Second),
  ("LANDSAT/LT04/C01/T1_SR", .landsat457),
  ("LANDSAT/LT04/C01/T2_SR", .landsat457),
  ("LANDSAT/LT04/C02/T1_L2", .bits landsat457Second),
  ("LANDSAT/LT04/C02/T2_L2", .bits landsat457Second),
  ("MODIS/006/MOD09GA", .bits modisDaily),
  ("MODIS/006/MCD15A3H", .bits modisLeaf),
  ("MODIS/006/MOD09Q1", .bits modisQuarter),
  ("MODIS/006/MOD09A1", .bits modisEightDays),
  ("MODIS/006/MOD17A2H", .bits modisProduction),
  ("MODIS/006/MOD16A2", .bits modisEvaporation),
  ("MODIS/006/MOD13Q1", .bits modisVegetation),
  ("MODIS/006/MOD13A1", .bits modisVegetation),
  ("MODIS/006/MOD13A2", .modisVegetationCoarse),
  ("MODIS/006/MYD09GA", .bits modisDaily),
  ("MODIS/006/MYD09Q1", .bits modisQuarter),
  ("MODIS/006/MYD09A1", .bits modisEightDays),
  ("MODIS/006/MYD17A2H", .bits modisProduction),
  ("MODIS/006/MYD16A2", .bits modisEvaporation),
  ("MODIS/006/MYD13Q1", .bits modisVegetation),
  ("MODIS/006/MYD13A1", .bits modisVegetation),
  ("MODIS/006/MYD13A2", .modisVegetationCoarse),
  ("MODIS/061/MOD09GA", .bits modisDaily),
  ("MODIS/061/MCD15A3H", .bits modisLeaf),
  ("MODIS/061/MOD09Q1", .bits modisQuarter),
  ("MODIS/061/MOD09A1", .bits modisEightDays),
  ("MODIS/061/MOD17A2H", .bits modisProduction),
  ("MODIS/061/MOD16A2", .bits modisEvaporation),
  ("MODIS/061/MOD13Q1", .bits modisVegetation),
  ("MODIS/061/MOD13A1", .bits modisVegetation),
  ("MODIS/061/MOD13A2", .modisVegetationCoarse),
  ("MODIS/061/MYD09GA", .bits modisDaily),
  ("MODIS/061/MYD09Q1", .bits modisQuarter),
  ("MODIS/061/MYD09A1", .bits modisEightDays),
  ("MODIS/061/MYD17A2H", .bits modisProduction),
  ("MODIS/061/MYD16A2", .bits modisEvaporation),
  ("MODIS/061/MYD13Q1", .bits modisVegetation),
  ("MODIS/061/MYD13A1", .bits modisVegetation),
  ("MODIS/061/MYD13A2", .modisVegetationCoarse),
  ("NOAA/VIIRS/001/VNP09GA", .viirsDaily),
  ("NOAA/VIIRS/001/VNP13A1", .viirsVegetation)]

def MaskRule.maskImage (rule : MaskRule) (r : MaskRequest) (img : Term) : Term :=
  match rule with
  | bits rule => rule.mask r img
  | landsat457 => maskLandsat457 r img
  | modisVegetationCoarse => maskModisVegetationCoarse img
  | viirsDaily => maskViirsDaily r img
  | viirsVegetation => maskViirsVegetation r img
  | sentinel2 => maskSentinel2Image r img

def MaskRule.maskCollection (rule : MaskRule) (r : MaskRequest) (images : Term) : Term :=
  match rule with
  | sentinel2 => maskSentinel2Collection r images
  | rule => images.map (rule.maskImage r)

def maskMethods : List Value :=
  [.str "cloud_prob", .str "cloud_score+", .str "qa"]

def maskClouds (r : MaskRequest) (x : Term) : Term := do
  unless maskMethods.contains r.method do fail (.badMaskMethod r.method.render)
  match maskRules.lookup (← platform x).name with
  | none =>
    warn "This platform is not supported for cloud masking."
    x
  | some rule =>
    match ← kindOf? (← x) with
    | some .image => rule.maskImage r x
    | some .imageCollection => rule.maskCollection r x
    | _ => fail .noCase

end Geoscript.Imagery
