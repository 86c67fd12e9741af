import Geoscript.Imagery.Platform
import Geoscript.Value.Json

/-! The bands of most datasets hold whole numbers that stand for physical values by a scale and an offset. -/

namespace Geoscript.Imagery

open Geoscript.Graph

def bandsAmong (img names : Term) : Term :=
  (img.call "bandNames" []).call "filter" [server "Filter.inList" ["item", names]]

def keepBands (img names : Term) : Term :=
  img.call "select" [bandsAmong img names]

def scaling? (x : Term) (purpose : String) : Build (Option Scaling) := do
  match (← read).catalog.scaling? (← platform x).name with
  | some s => return some s
  | none =>
    warn ("This platform is not supported for " ++ purpose ++ ".")
    return none

def scales? (x : Term) : Build (Option Value) := do
  return (← scaling? x "getting scale parameters").map Catalog.scaleView

def offsets? (x : Term) : Build (Option Value) := do
  return (← scaling? x "getting offset parameters").map Catalog.offsetView

def scales (x : Term) : Term := do
  return (← scales? x).getD .null

def offsets (x : Term) : Term := do
  return (← offsets? x).getD .null

def scaledImage (scales offsets img : Term) : Term := do
  let bands ← (bandsAmong img (scales.call "bandNames" [])).share
  let scaled :=
    img.call "select" [bands]
      |>.call "multiply" [scales.call "select" [bands]]
      |>.call "add" [offsets.call "select" [bands]]
  server "Image" [scaled.call "copyProperties" [img, img.call "propertyNames" []]]

def scaleAndOffset (x : Term) : Term := do
  let scales ← scales? x
  let offsets ← offsets? x
  match scales, offsets with
  | some scales, some offsets =>
    let scales ← ((server "Dictionary" [scales]).call "toImage" []).share
    let offsets ← ((server "Dictionary" [offsets]).call "toImage" []).share
    eachImage x (scaledImage scales offsets) (fail .noCase)
  | _, _ =>
    warn "This platform is not supported for scaling and offsetting."
    x

/-! ### Descriptions -/

def fetchDocument (address : String) : Term := do
  match Value.Json.read? (← fetch address).toList with
  | some v => return v
  | none => fail .badDocument

def description (x : Term) : Term := do
  fetchDocument (← dataset x).address

def doi (x : Term) : Term := do
  return .str (← dataset x).doi

def citation (x : Term) : Term := do
  return .str (← dataset x).citation

end Geoscript.Imagery
