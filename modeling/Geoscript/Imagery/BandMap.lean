import Geoscript.Imagery.Platform
import Geoscript.Value.Render

/-! Which band each letter of spectral formulas stands for, by platform, and the wavelengths that formulas may use. -/

namespace Geoscript.Imagery

open Geoscript.Graph

structure BandMap where
  bands : List (String × String)
  wavelengths : List (String × Double)

namespace BandMap

def palsar : BandMap where
  bands := [
    ("HH", "HH"), ("HV", "HV")]
  wavelengths := []

def sentinel1 : BandMap where
  bands := [
    ("HH", "HH"), ("HV", "HV"), ("VV", "VV"), ("VH", "VH")]
  wavelengths := []

def sentinel2 : BandMap where
  bands := [
    ("A", "B1"), ("B", "B2"), ("G", "B3"), ("R", "B4"), ("RE1", "B5"), ("RE2", "B6"),
    ("RE3", "B7"), ("N", "B8"), ("N2", "B8A"), ("WV", "B9"), ("S1", "B11"), ("S2", "B12")]
  wavelengths := [("lambdaG", 559.8), ("lambdaR", 664.6), ("lambdaN", 832.8)]

def landsat8 : BandMap where
  bands := [
    ("A", "B1"), ("B", "B2"), ("G", "B3"), ("R", "B4"), ("N", "B5"), ("S1", "B6"), ("S2", "B7"),
    ("T1", "B10"), ("T2", "B11")]
  wavelengths := [("lambdaG", 560.0), ("lambdaR", 655.0), ("lambdaN", 865.0)]

def landsat8Second : BandMap where
  bands := [
    ("A", "SR_B1"), ("B", "SR_B2"), ("G", "SR_B3"), ("R", "SR_B4"), ("N", "SR_B5"),
    ("S1", "SR_B6"), ("S2", "SR_B7"), ("T1", "ST_B10")]
  wavelengths := [("lambdaG", 560.0), ("lambdaR", 655.0), ("lambdaN", 865.0)]

def landsat45 : BandMap where
  bands := [
    ("B", "B1"), ("G", "B2"), ("R", "B3"), ("N", "B4"), ("S1", "B5"), ("T1", "B6"), ("S2", "B7")]
  wavelengths := [("lambdaG", 560.0), ("lambdaR", 660.0), ("lambdaN", 830.0)]

def landsat45Second : BandMap where
  bands := [
    ("B", "SR_B1"), ("G", "SR_B2"), ("R", "SR_B3"), ("N", "SR_B4"), ("S1", "SR_B5"),
    ("T1", "ST_B6"), ("S2", "SR_B7")]
  wavelengths := [("lambdaG", 560.0), ("lambdaR", 660.0), ("lambdaN", 830.0)]

def landsat7 : BandMap where
  bands := [
    ("B", "B1"), ("G", "B2"), ("R", "B3"), ("N", "B4"), ("S1", "B5"), ("T1", "B6"), ("S2", "B7")]
  wavelengths := [("lambdaG", 560.0), ("lambdaR", 660.0), ("lambdaN", 835.0)]

def landsat7Second : BandMap where
  bands := [
    ("B", "SR_B1"), ("G", "SR_B2"), ("R", "SR_B3"), ("N", "SR_B4"), ("S1", "SR_B5"),
    ("T1", "ST_B6"), ("S2", "SR_B7")]
  wavelengths := [("lambdaG", 560.0), ("lambdaR", 660.0), ("lambdaN", 835.0)]

def modisTwoBands : BandMap where
  bands := [
    ("R", "sur_refl_b01"), ("N", "sur_refl_b02")]
  wavelengths := [("lambdaR", 645.0), ("lambdaN", 858.5)]

def modis : BandMap where
  bands := [
    ("B", "sur_refl_b03"), ("G", "sur_refl_b04"), ("R", "sur_refl_b01"), ("N", "sur_refl_b02"),
    ("S1", "sur_refl_b06"), ("S2", "sur_refl_b07")]
  wavelengths := [("lambdaG", 555.0), ("lambdaR", 645.0), ("lambdaN", 858.5)]

def modisNadir : BandMap where
  bands := [
    ("B", "Nadir_Reflectance_Band3"), ("G", "Nadir_Reflectance_Band4"),
    ("R", "Nadir_Reflectance_Band1"), ("N", "Nadir_Reflectance_Band2"),
    ("S1", "Nadir_Reflectance_Band6"), ("S2", "Nadir_Reflectance_Band7")]
  wavelengths := [("lambdaG", 555.0), ("lambdaR", 645.0), ("lambdaN", 858.5)]

def all : List (String × BandMap) := [
  ("JAXA/ALOS/PALSAR-2/Level2_2/ScanSAR", palsar), ("COPERNICUS/S1_GRD", sentinel1),
  ("COPERNICUS/S2", sentinel2), ("COPERNICUS/S2_HARMONIZED", sentinel2),
  ("COPERNICUS/S2_SR", sentinel2), ("COPERNICUS/S2_SR_HARMONIZED", sentinel2),
  ("LANDSAT/LC08/C01/T1_SR", landsat8), ("LANDSAT/LC08/C01/T2_SR", landsat8),
  ("LANDSAT/LC08/C02/T1_L2", landsat8Second), ("LANDSAT/LC08/C02/T2_L2", landsat8Second),
  ("LANDSAT/LC09/C02/T1_L2", landsat8Second), ("LANDSAT/LC09/C02/T2_L2", landsat8Second),
  ("LANDSAT/LE07/C01/T1_SR", landsat7), ("LANDSAT/LE07/C01/T2_SR", landsat7),
  ("LANDSAT/LE07/C02/T1_L2", landsat7Second), ("LANDSAT/LE07/C02/T2_L2", landsat7Second),
  ("LANDSAT/LT05/C01/T1_SR", landsat45), ("LANDSAT/LT05/C01/T2_SR", landsat45),
  ("LANDSAT/LT05/C02/T1_L2", landsat45Second), ("LANDSAT/LT05/C02/T2_L2", landsat45Second),
  ("LANDSAT/LT04/C01/T1_SR", landsat45), ("LANDSAT/LT04/C01/T2_SR", landsat45),
  ("LANDSAT/LT04/C02/T1_L2", landsat45Second), ("LANDSAT/LT04/C02/T2_L2", landsat45Second),
  ("MODIS/006/MOD09GQ", modisTwoBands), ("MODIS/006/MYD09GQ", modisTwoBands),
  ("MODIS/006/MOD09GA", modis), ("MODIS/006/MYD09GA", modis),
  ("MODIS/006/MOD09Q1", modisTwoBands), ("MODIS/006/MYD09Q1", modisTwoBands),
  ("MODIS/006/MOD09A1", modis), ("MODIS/006/MYD09A1", modis), ("MODIS/006/MCD43A4", modisNadir),
  ("MODIS/061/MOD09GQ", modisTwoBands), ("MODIS/061/MYD09GQ", modisTwoBands),
  ("MODIS/061/MOD09GA", modis), ("MODIS/061/MYD09GA", modis),
  ("MODIS/061/MOD09Q1", modisTwoBands), ("MODIS/061/MYD09Q1", modisTwoBands),
  ("MODIS/061/MOD09A1", modis), ("MODIS/061/MYD09A1", modis), ("MODIS/061/MCD43A4", modisNadir)]

end BandMap

def BandMap.lookup (m : BandMap) (img : Term) : Build Entries := do
  let bands ← evalNamed (m.bands.map fun (letter, band) => (letter, img.call "select" [band]))
  return bands ++ m.wavelengths.map fun (name, d) => (name, .float d)

def lettersFor (img : Term) (platform : Value) : Build Entries := do
  match platform.text?.bind fun name => BandMap.all.lookup name with
  | some m => m.lookup img
  | none => fail (.unsupportedForIndices platform.render)

end Geoscript.Imagery
