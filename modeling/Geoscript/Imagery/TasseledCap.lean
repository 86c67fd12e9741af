import Geoscript.Imagery.Platform
import Geoscript.Value.Render

/-! Brightness, greenness and wetness of images as weighted sums of bands. -/

namespace Geoscript.Imagery

open Geoscript.Graph

/-- The weights of a platform, one for each of the bands. -/
structure TasseledCap where
  bands : List String
  brightness : List Double
  greenness : List Double
  wetness : List Double

namespace TasseledCap

def sentinel2 : TasseledCap where
  bands := ["B1", "B2", "B3", "B4", "B5", "B6", "B7", "B8", "B8A", "B9", "B10", "B11", "B12"]
  brightness := [
    0.2381, 0.2569, 0.2934, 0.302, 0.3099, 0.374, 0.418, 0.358, 0.3834, 0.0103, 0.002, 0.0896,
    0.078]
  greenness := [
    -0.2266, -0.2818, -0.302, -0.4283, -0.2959, 0.1602, 0.3127, 0.3138, 0.4261, 0.1454, -0.0017,
    -0.1341, -0.2538]
  wetness := [
    0.1825, 0.1763, 0.1615, 0.0486, 0.017, 0.0223, 0.0219, -0.0755, -0.091, -0.1369, 0.0003,
    -0.7701, -0.5293]

def landsat8Surface : TasseledCap where
  bands := ["SR_B3", "SR_B4", "SR_B5", "SR_B6", "SR_B7"]
  brightness := [0.4596, 0.5046, 0.5458, 0.4114, 0.2589]
  greenness := [-0.3374, -0.4901, 0.7909, 0.0177, -0.1416]
  wetness := [0.2254, 0.3681, 0.225, -0.6053, -0.6298]

def landsat8Top : TasseledCap where
  bands := ["B3", "B4", "B5", "B6", "B7"]
  brightness := [0.4321, 0.4971, 0.5695, 0.4192, 0.2569]
  greenness := [-0.3318, -0.4844, 0.7856, -0.0331, -0.1923]
  wetness := [0.2633, 0.3945, 0.1801, -0.6121, -0.6066]

def landsat7Top : TasseledCap where
  bands := ["B1", "B2", "B3", "B4", "B5", "B7"]
  brightness := [0.3561, 0.3972, 0.3904, 0.6966, 0.2286, 0.1596]
  greenness := [-0.3344, -0.3544, -0.4556, 0.6966, -0.0242, -0.263]
  wetness := [0.2626, 0.2141, 0.0926, 0.0656, -0.7629, -0.5388]

def landsat4Raw : TasseledCap where
  bands := ["B1", "B2", "B3", "B4", "B5", "B7"]
  brightness := [0.3037, 0.2793, 0.4743, 0.5585, 0.5082, 0.1863]
  greenness := [-0.2848, -0.2435, -0.5435, 0.7243, 0.084, -0.18]
  wetness := [0.1509, 0.1973, 0.3279, 0.3406, -0.7112, -0.4572]

def landsat4Surface : TasseledCap where
  bands := ["SR_B1", "SR_B2", "SR_B3", "SR_B4", "SR_B5", "SR_B7"]
  brightness := [0.2043, 0.4158, 0.5524, 0.5741, 0.3124, 0.2303]
  greenness := [-0.1603, -0.2819, -0.4934, 0.794, -0.0002, -0.1446]
  wetness := [0.0315, 0.2021, 0.3102, 0.1594, -0.6806, -0.6109]

def landsat5Raw : TasseledCap where
  bands := ["B1", "B2", "B3", "B4", "B5", "B7"]
  brightness := [0.2909, 0.2493, 0.4806, 0.5568, 0.4438, 0.1706]
  greenness := [-0.2728, -0.2174, -0.5508, 0.7221, 0.0733, -0.1648]
  wetness := [0.1446, 0.1761, 0.3322, 0.3396, -0.621, -0.4186]

def modisNadir : TasseledCap where
  bands := [
    "Nadir_Reflectance_Band1", "Nadir_Reflectance_Band2", "Nadir_Reflectance_Band3",
    "Nadir_Reflectance_Band4", "Nadir_Reflectance_Band5", "Nadir_Reflectance_Band6",
    "Nadir_Reflectance_Band7"]
  brightness := [0.4395, 0.5945, 0.246, 0.3918, 0.3506, 0.2136, 0.2678]
  greenness := [-0.4064, 0.5129, -0.2744, -0.2893, 0.4882, -0.0036, -0.4169]
  wetness := [0.1147, 0.2489, 0.2408, 0.3132, -0.3122, -0.6416, -0.5087]

def all : List (String × TasseledCap) := [
  ("COPERNICUS/S2", sentinel2), ("MODIS/006/MCD43A4", modisNadir),
  ("LANDSAT/LC09/C02/T1_L2", landsat8Surface), ("LANDSAT/LC09/C02/T1_TOA", landsat8Top),
  ("LANDSAT/LC08/C02/T1_L2", landsat8Surface), ("LANDSAT/LC08/C02/T2_L2", landsat8Surface),
  ("LANDSAT/LC08/C01/T1_TOA", landsat8Top), ("LANDSAT/LC08/C01/T1_RT_TOA", landsat8Top),
  ("LANDSAT/LC08/C01/T2_TOA", landsat8Top), ("LANDSAT/LE07/C01/T1_TOA", landsat7Top),
  ("LANDSAT/LE07/C01/T1_RT_TOA", landsat7Top), ("LANDSAT/LE07/C01/T2_TOA", landsat7Top),
  ("LANDSAT/LT05/C01/T1", landsat5Raw), ("LANDSAT/LT05/C01/T2", landsat5Raw),
  ("LANDSAT/LT04/C02/T1_L2", landsat4Surface), ("LANDSAT/LT04/C02/T2_L2", landsat4Surface),
  ("LANDSAT/LT04/C01/T1", landsat4Raw), ("LANDSAT/LT04/C01/T2", landsat4Raw)]

def components (t : TasseledCap) : List (String × List Double) :=
  [("TCB", t.brightness), ("TCG", t.greenness), ("TCW", t.wetness)]

def weights (ds : List Double) : Value :=
  .list (ds.map Value.float)

def view (t : TasseledCap) : Value :=
  .dict (("bands", Catalog.ofTexts t.bands) :: t.components.map fun (name, ds) => (name, weights ds))

def find (platform : Value) : Except Failure TasseledCap :=
  match platform.text?.bind fun name => all.lookup name with
  | some t => .ok t
  | none => .error (.unsupportedForTasseledCap (Value.renderTexts (all.map (·.1))))

def addTo (t : TasseledCap) (img : Term) : Term := do
  let img ← (img.call "select" [Term.texts t.bands]).share
  img.call "addBands" [Term.list (t.components.map fun (name, ds) =>
    img.call "multiply" [weights ds] |>.call "reduce" [reducer "sum"] |>.call "rename" [name])]

end TasseledCap

def tasseledCap (x : Term) : Term := do
  let t ← lift (TasseledCap.find (.str (← platform x).name))
  eachImage x t.addTo x

end Geoscript.Imagery
