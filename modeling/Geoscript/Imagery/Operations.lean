import Geoscript.Imagery.CloudMask
import Geoscript.Imagery.Index
import Geoscript.Imagery.Series
import Geoscript.Imagery.Sharpening
import Geoscript.Imagery.TasseledCap
import Geoscript.Value.Similar

/-! The functions on images and tables, with their parameters and defaults. -/

namespace Geoscript.Imagery

open Geoscript.Graph

def operationOf (required : List String) (optional : List (String × Value))
    (run : List Value → Term) : Operation where
  parameters :=
    required.map Parameter.required ++ optional.map fun (k, v) => Parameter.optional k v
  run vs _ := run vs

/-! ### Tables -/

def indexTableOperation : Operation :=
  operationOf [] [("online", .bool false)] fun
    | [online] => indexTable online
    | _ => fail .badArguments

def indexNamesOperation : Operation :=
  operationOf [] [("online", .bool false)] fun
    | [online] => indexNames online
    | _ => fail .badArguments

def applicationTableOperation : Operation :=
  operationOf [] [("online", .bool false)] fun
    | [online] => applicationTable online
    | _ => fail .badArguments

def datasetNamesOperation : Operation :=
  operationOf [] [] fun _ => do
    return Catalog.ofTexts ((← read).catalog.datasets.map (·.id))

def tableOperation (find : String → Option Catalog.Table) (default : String) : Operation :=
  operationOf [] [("x", .str default)] fun
    | [.str name] => do
      match find name with
      | some table => return (← read).catalog.view table
      | none => fail .noSuchTable
    | _ => fail .wrongType

def closeMatchesOperation : Operation :=
  operationOf ["word", "possibilities"] [("n", .int 3), ("cutoff", .float 0.6)] fun
    | [word, possibilities, n, cutoff] => lift (Value.closeMatches word possibilities n cutoff)
    | _ => fail .badArguments

def withoutNullOperation : Operation :=
  operationOf ["dictionary"] [] fun
    | [v] => lift v.withoutNull
    | _ => fail .badArguments

def coefficientsOperation : Operation :=
  operationOf ["platform"] [] fun
    | [platform] => lift (do return (← TasseledCap.find platform).view)
    | _ => fail .badArguments

def namesView (names : List String) : Value :=
  .dict (names.map fun name => (name, .str name))

def metricsOperation : Operation :=
  operationOf [] [] fun _ => return namesView (Metric.all.map Metric.name)

def chooseMetricsOperation : Operation :=
  operationOf ["names"] [] fun
    | [names] => lift (do return Catalog.ofTexts ((← Metric.chooseAll names).map Metric.name))
    | _ => fail .badArguments

def sharpenersOperation : Operation :=
  operationOf [] [] fun _ => return namesView (Sharpener.all.map Sharpener.name)

def chooseSharpenerOperation : Operation :=
  operationOf ["name"] [] fun
    | [name] => lift (do return .str (← Sharpener.choose name).name)
    | _ => fail .badArguments

/-! ### Platforms and scaling -/

def platformOperation : Operation :=
  operation ["args"] fun (x : Term) => (do return (← platform x).view : Term)

def descriptionOperation : Operation := operation ["x"] description

def scalesOperation : Operation := operation ["x"] scales

def offsetsOperation : Operation := operation ["x"] offsets

def doiOperation : Operation := operation ["x"] doi

def citationOperation : Operation := operation ["x"] citation

def scaleAndOffsetOperation : Operation := operation ["x"] scaleAndOffset

def keepBandsOperation : Operation := operation ["img", "keep_bands"] keepBands

/-! ### Indices -/

def lettersOperation : Operation :=
  operationOf ["img", "platformDict"] [] fun
    | [img, platform] => do
      return .dict (← lettersFor img (← lift (platform.part (.str "platform"))))
    | _ => fail .badArguments

def kernelImageOperation : Operation :=
  operationOf ["img", "lookup", "kernel", "sigma", "a", "b"] [] fun
    | [img, letters, kernel, sigma, a, b] => do
      kernelImage img (← lift letters.entries) kernel sigma a b
    | _ => fail .badArguments

def kernelLettersOperation : Operation :=
  operationOf ["img", "lookup", "kernel", "sigma"] [] fun
    | [img, letters, kernel, sigma] => do
      return .dict (← kernelLetters img (← lift letters.entries) kernel sigma)
    | _ => fail .badArguments

def spectralIndicesOperation : Operation :=
  operationOf ["x"] [("index", .str "NDVI"), ("G", .float 2.5), ("C1", .float 6.0),
    ("C2", .float 7.5), ("L", .float 1.0), ("cexp", .float 1.16), ("nexp", .float 2.0),
    ("alpha", .float 0.1), ("slope", .float 1.0), ("intercept", .float 0.0), ("gamma", .float 1.0),
    ("omega", .float 2.0), ("beta", .float 0.05), ("k", .float 0.0), ("fdelta", .float 0.581),
    ("kernel", .str "RBF"), ("sigma", .str "0.5 * (a + b)"), ("p", .int 2), ("c", .float 1.0),
    ("lambdaN", .float 858.5), ("lambdaR", .float 645.0), ("lambdaG", .float 555.0),
    ("online", .bool false), ("drop", .bool false)] fun
    | [x, index, g, c1, c2, l, cexp, nexp, alpha, slope, intercept, gamma, omega, beta, k, fdelta,
        kernel, sigma, p, c, lambdaN, lambdaR, lambdaG, online, drop] =>
      let constants : Entries := [("g", g), ("C1", c1), ("C2", c2), ("L", l), ("cexp", cexp),
        ("nexp", nexp), ("alpha", alpha), ("sla", slope), ("slb", intercept), ("gamma", gamma),
        ("omega", omega), ("beta", beta), ("k", k), ("fdelta", fdelta), ("p", p), ("c", c),
        ("lambdaN", lambdaN), ("lambdaR", lambdaR), ("lambdaG", lambdaG)]
      spectralIndices
        { index := index, constants := constants, kernel := kernel, sigma := sigma, p := p, c := c,
          online := online, drop := drop } x
    | _ => fail .badArguments

def tasseledCapOperation : Operation := operation ["x"] tasseledCap

def matchHistogramOperation : Operation :=
  operationOf ["source", "target"]
    [("bands", .null), ("geometry", .null), ("maxBuckets", .int 256)] fun
    | [source, target, bands, geometry, maxBuckets] =>
      matchHistogram source target bands geometry maxBuckets
    | _ => fail .badArguments

/-! ### Clouds -/

def maskDefaults : Entries := [("method", .str "cloud_prob"), ("prob", .int 60),
  ("maskCirrus", .bool true), ("maskShadows", .bool true), ("scaledImage", .bool false),
  ("dark", .float 0.15), ("cloudDist", .int 1000), ("buffer", .int 250), ("cdi", .null)]

def maskCloudsOperation : Operation :=
  operationOf ["x"] maskDefaults fun
    | [x, method, prob, maskCirrus, maskShadows, scaledImage, dark, cloudDist, buffer, cdi] =>
      maskClouds ⟨method, prob, maskCirrus, maskShadows, scaledImage, dark, cloudDist, buffer, cdi⟩ x
    | _ => fail .badArguments

def preprocessOperation : Operation where
  parameters := [.required "x"]
  open? := true
  run vs named := do
    scaleAndOffset (← (maskCloudsOperation.apply vs named).share)

/-! ### Sharpening -/

def panSharpenOperation : Operation where
  parameters := [.required "img", .optional "method" (.str "SFIM"), .optional "qa" .null,
    .optional "prefix" (.str "ee_extra")]
  open? := true
  run vs region :=
    match vs with
    | [img, method, qa, label] => panSharpen img method qa label region
    | _ => fail .badArguments

/-! ### Series -/

def seriesByRegionOperation : Operation :=
  operationOf ["x", "reducer"] [("bands", .null), ("geometry", .null), ("scale", .null),
    ("crs", .null), ("crsTransform", .null), ("bestEffort", .bool false),
    ("maxPixels", .float 1e12), ("tileScale", .int 1), ("dateColumn", .str "date"),
    ("dateFormat", .str "ISO"), ("naValue", .int (-9999))] fun
    | [x, reducers, bands, geometry, scale, crs, crsTransform, bestEffort, maxPixels, tileScale,
        dateColumn, dateFormat, naValue] =>
      seriesByRegion ⟨x, reducers, bands, scale, crs, crsTransform, tileScale, dateColumn,
        dateFormat, naValue⟩ geometry bestEffort maxPixels
    | _ => fail .badArguments

def seriesByRegionsOperation : Operation :=
  operationOf ["x", "reducer", "collection"] [("bands", .null), ("scale", .null), ("crs", .null),
    ("crsTransform", .null), ("tileScale", .int 1), ("dateColumn", .str "date"),
    ("dateFormat", .str "ISO"), ("naValue", .int (-9999))] fun
    | [x, reducers, collection, bands, scale, crs, crsTransform, tileScale, dateColumn, dateFormat,
        naValue] =>
      seriesByRegions ⟨x, reducers, bands, scale, crs, crsTransform, tileScale, dateColumn,
        dateFormat, naValue⟩ collection
    | _ => fail .badArguments

def closestImagesOperation : Operation :=
  operationOf ["x", "date"] [("tolerance", .int 1), ("unit", .str "month")] fun
    | [x, date, tolerance, unit] => closestImages x date tolerance unit
    | _ => fail .badArguments

def wholeImageOperation (reducerName : String) : Operation :=
  operationOf ["x"] [("scale", .null)] fun
    | [x, scale] => wholeImage reducerName x scale
    | _ => fail .badArguments

end Geoscript.Imagery
