/-! Why a request about images, tables or text stops. -/

namespace Geoscript

inductive Failure where
  | notAnObject
  | wrongType
  | badArguments
  | badNumeral
  /-- A count is not positive, or a cutoff does not lie between zero and one. -/
  | badBound
  | badPairs
  | tooLarge
  | missingKey
  | outOfRange
  | noCase
  | noSuchTable
  | unreachable
  | badDocument
  | unsupportedPlatform
  | unsupportedForIndices (platform : String)
  | unsupportedForTasseledCap (supported : String)
  | unsupportedForSharpening (platform supported : String)
  | negativeSigma (sigma : String)
  | badKernelParameters (p c : String)
  | badMaskMethod (method : String)
  | unknownMetric (name known hint : String)
  | unknownSharpener (name known hint : String)
  | notAFeatureCollection
  | noImages
  | badImageName
  | notAnImage
  deriving Repr, DecidableEq

namespace Failure

def message? : Failure → Option String
  | unsupportedPlatform => some "Sorry, satellite platform not supported!"
  | unsupportedForIndices platform =>
    some ("Sorry, satellite platform " ++ platform ++
      " not supported for spectral index computation!")
  | unsupportedForTasseledCap supported =>
    some ("Sorry, satellite platform not supported for tasseled cap transformation! Use one of " ++
      supported)
  | unsupportedForSharpening platform supported =>
    some ("Sharpening is not supported for the " ++ platform ++
      " platform. Use one of the following platforms: " ++ supported)
  | negativeSigma sigma => some ("[sigma] must be positive! Value passed: sigma = " ++ sigma)
  | badKernelParameters p c =>
    some ("[p] and [c] must be positive! Values passed: p = " ++ p ++ ", c = " ++ c)
  | badMaskMethod method =>
    some ("'" ++ method ++
      "' is not a valid method. Please use one of ['cloud_prob', 'cloud_score+', 'qa'].")
  | unknownMetric name known hint =>
    some ("\"" ++ name ++ "\" is not a supported quality assessment metric. Choose from " ++ known ++
      "." ++ hint)
  | unknownSharpener name known hint =>
    some ("\"" ++ name ++ "\" is not a supported sharpening algorithm. Choose from " ++ known ++
      "." ++ hint)
  | notAFeatureCollection => some "Parameter collection must be an ee.FeatureCollection!"
  | noImages =>
    some "No images were retrieved using the established tolerance and units arguments."
  | badImageName =>
    some ("The image id is not recognized. It must be retrieved using either LANDSAT_ID, " ++
      "system:index")
  | notAnImage =>
    some ("The image id is not recognized. It must be either ee.Image or a string retrieved " ++
      "using either LANDSAT_ID, system:index, or system:id")
  | _ => none

end Failure

end Geoscript
