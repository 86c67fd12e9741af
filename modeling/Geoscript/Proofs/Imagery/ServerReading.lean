import Geoscript.Proofs.Imagery.MetricMeaning
import Mathlib.Data.List.Sort
import Mathlib.Data.String.Basic

/-! What the metrics by band ask a server for. The values of a dictionary are listed in ascending order of its keys,
the names of bands in the order of the image, and all else is left to the server (`Server`). -/

namespace Geoscript.Imagery
open List Graph Graph.Reading

/-! ### The order of keys -/

section KeyOrder
variable {α β γ : Type} {es : List (String × α)} {f : α → β}

/-- Entries with a function applied to their values. -/
def mapValues (f : α → β) (es : List (String × α)) : List (String × β) :=
  es.map fun e => (e.1, f e.2)

/-- The entries of a dictionary in ascending order of their keys. -/
def inKeyOrder (es : List (String × α)) : List (String × α) :=
  es.insertionSort fun e e' => e.1 ≤ e'.1

/-- The values of a dictionary in ascending order of its keys. -/
def orderedValues (es : List (String × α)) : List α :=
  (inKeyOrder es).map Prod.snd

/-- Each key with the value whose key has its place in ascending order. -/
def relabel (es : List (String × α)) : List (String × α) :=
  (es.zip (inKeyOrder es)).map fun (e, e') => (e.1, e'.2)

/-- Each value beside the one whose key has its place in ascending order. -/
def beside (es : List (String × α)) : List (String × α × α) :=
  (es.zip (inKeyOrder es)).map fun (e, e') => (e.1, e.2, e'.2)

theorem mapValues_mapValues (g : β → γ) : mapValues g (mapValues f es) = mapValues (g ∘ f) es := by
  simp [mapValues, Function.comp_def]

theorem keys_mapValues : (mapValues f es).map Prod.fst = es.map Prod.fst := by
  simp [mapValues, Function.comp_def]

theorem values_mapValues : (mapValues f es).map Prod.snd = (es.map Prod.snd).map f := by
  simp [mapValues, Function.comp_def]

theorem mapValues_injective (hf : Function.Injective f) : Function.Injective (mapValues f) :=
  map_injective_iff.mpr (Function.injective_id.prodMap hf)

theorem length_inKeyOrder : (inKeyOrder es).length = es.length :=
  length_insertionSort _ es

theorem perm_inKeyOrder : (inKeyOrder es).Perm es :=
  perm_insertionSort _ es

theorem inKeyOrder_mapValues : inKeyOrder (mapValues f es) = mapValues f (inKeyOrder es) :=
  (map_insertionSort (fun e e' : String × α => e.1 ≤ e'.1) (fun e e' : String × β => e.1 ≤ e'.1)
    (fun e => (e.1, f e.2)) es fun _ _ _ _ => .rfl).symm

theorem inKeyOrder_of_ascending (h : (es.map Prod.fst).Pairwise (· ≤ ·)) : inKeyOrder es = es :=
  Pairwise.insertionSort_eq (pairwise_map.mp h)

theorem relabel_mapValues : relabel (mapValues f es) = mapValues f (relabel es) := by
  rw [relabel, inKeyOrder_mapValues]
  simp [relabel, mapValues, zip_map, Function.comp_def]

theorem beside_mapValues : beside (mapValues f es) = mapValues (Prod.map f f) (beside es) := by
  rw [beside, inKeyOrder_mapValues]
  simp [beside, mapValues, zip_map, Function.comp_def]

theorem mapValues_fst_beside : mapValues Prod.fst (beside es) = es := by
  rw [mapValues, beside, map_map]
  exact map_fst_zip length_inKeyOrder.ge

theorem mapValues_snd_beside : mapValues Prod.snd (beside es) = relabel es := by
  simp [mapValues, beside, relabel, Function.comp_def]

theorem keys_beside : (beside es).map Prod.fst = es.map Prod.fst := by
  rw [← keys_mapValues (f := Prod.fst), mapValues_fst_beside]

theorem keys_relabel : (relabel es).map Prod.fst = es.map Prod.fst := by
  rw [← mapValues_snd_beside, keys_mapValues, keys_beside]

theorem orderedValues_mapValues : orderedValues (mapValues f es) = (orderedValues es).map f := by
  rw [orderedValues, inKeyOrder_mapValues]
  simp [mapValues, orderedValues, Function.comp_def]

theorem mapValues_fst_relabel_beside : mapValues Prod.fst (relabel (beside es)) = relabel es := by
  rw [← relabel_mapValues, mapValues_fst_beside]

theorem values_relabel : (relabel es).map Prod.snd = orderedValues es := by
  rw [relabel, map_map]
  calc (es.zip (inKeyOrder es)).map (fun x => x.2.2)
      = ((es.zip (inKeyOrder es)).map Prod.snd).map Prod.snd := by rw [map_map]; rfl
    _ = orderedValues es := by rw [map_snd_zip length_inKeyOrder.le, orderedValues]

theorem zip_inKeyOrder_of_ascending (h : (es.map Prod.fst).Pairwise (· ≤ ·)) :
    es.zip (inKeyOrder es) = es.map fun e => (e, e) := by
  rw [inKeyOrder_of_ascending h]
  simpa using zip_map' (f := id) (g := id) (l := es)

theorem relabel_of_ascending (h : (es.map Prod.fst).Pairwise (· ≤ ·)) : relabel es = es := by
  simp [relabel, zip_inKeyOrder_of_ascending h, Function.comp_def]

theorem beside_of_ascending (h : (es.map Prod.fst).Pairwise (· ≤ ·)) : beside es = mapValues (fun v => (v, v)) es := by
  simp [beside, zip_inKeyOrder_of_ascending h, mapValues, Function.comp_def]

theorem zip_orderedValues : (es.map Prod.fst).zip ((orderedValues es).map f) = mapValues f (relabel es) := by
  simp [orderedValues, relabel, mapValues, zip_map, Function.comp_def]

end KeyOrder

/-! ### Servers -/

/-- What a server computes with: bands of images and numbers. -/
structure Server where
  Band : Type
  Number : Type
  Grid : Type
  /-- The bands of the images that are given from outside, by name. -/
  images : String → List (String × Band)
  projection : List (String × Band) → Grid
  resample : String → Band → Band
  reproject : Grid → Band → Band
  /-- What a reducer gives for a band, with the named arguments that say where. -/
  reduce : String → Entries → Band → Number
  number : Int → Number
  /-- What the operation of that name gives for two numbers. -/
  combine : String → Number → Number → Number
  root : Number → Number
  /-- The band that is the number in every pixel. -/
  flat : Number → Band
  /-- What the operation of that name gives for two bands. -/
  overlay : String → Band → Band → Band

inductive Object (S : Server) where
  | image (bands : List (String × S.Band))
  | grid (grid : S.Grid)
  | reducer (function : String)
  | dictionary (entries : List (String × S.Number))
  | texts (texts : List String)
  | numbers (numbers : List S.Number)
  | array (numbers : List S.Number)
  | other

namespace Server
variable (S : Server)

/-- The answers of images. Bands of two images are taken together position by position. -/
def askImage (bands : List (String × S.Band)) (name : String) (args : List (Operand (Object S))) (named : Entries) :
    Object S :=
  match args with
  | [] =>
    match name with
    | "bandNames" => .texts (bands.map Prod.fst)
    | "projection" => .grid (S.projection bands)
    | _ => .other
  | [.plain (.str mode)] => if name = "resample" then .image (mapValues (S.resample mode) bands) else .other
  | [.object (.grid grid)] => if name = "reproject" then .image (mapValues (S.reproject grid) bands) else .other
  | [.object (.reducer function)] =>
    if name = "reduceRegion" then .dictionary (mapValues (S.reduce function named) bands) else .other
  | [.object (.image others)] =>
    .image (zipWith (fun e e' => (e.1, S.overlay name e.2 e'.2)) bands others)
  | [.plain (.int i)] => .image (mapValues (fun band => S.overlay name band (S.flat (S.number i))) bands)
  | _ => .other

def askDictionary (entries : List (String × S.Number)) (name : String) : Object S :=
  match name with
  | "keys" => .texts ((inKeyOrder entries).map Prod.fst)
  | "values" => .numbers (orderedValues entries)
  | _ => .other

def askArray (numbers : List S.Number) (name : String) (args : List (Operand (Object S))) : Object S :=
  match args with
  | [] =>
    match name with
    | "toList" => .numbers numbers
    | "sqrt" => .array (numbers.map S.root)
    | _ => .other
  | [.object (.array others)] => .array (zipWith (S.combine name) numbers others)
  | [.plain (.int i)] => .array (numbers.map fun x => S.combine name x (S.number i))
  | _ => .other

/-- The answers of functions. What has no arguments is a reducer. -/
def askFunction (function : String) (args : List (Operand (Object S))) : Object S :=
  match args with
  | [] => .reducer function
  | [.object (.numbers xs)] =>
    match function with
    | "ee.Array" => .array xs
    | "ee.Image.constant" => .image (xs.mapIdx fun i x => ("constant_" ++ toString i, S.flat x))
    | _ => .other
  | [.object (.texts keys), .object (.numbers xs)] =>
    match function with
    | "ee.Dictionary.fromLists" => .dictionary (keys.zip xs)
    | _ => .other
  | _ => .other

def reading : Reading (Object S) where
  unknown := .other
  of
    | .input .image name => .image (S.images name)
    | .call fn args _ => S.askFunction fn args
    | .method (.image bands) name args named => S.askImage bands name args named
    | .method (.dictionary entries) name _ _ => S.askDictionary entries name
    | .method (.array numbers) name args _ => S.askArray numbers name args
    | _ => .other

def regrid (grid : S.Grid) (b : S.Band) : S.Band :=
  S.reproject grid (S.resample "bilinear" b)

/-! ### Metrics of one band -/

section Bands
variable (area : Entries)

def relativeDifference (by_ : String) (b c : S.Band) : S.Number :=
  let quotient := S.combine "divide" (S.reduce by_ area c) (S.reduce by_ area b)
  S.combine "add" (S.combine "multiply" quotient (S.number (-1))) (S.number 1)

def mean (b : S.Band) : S.Number :=
  S.reduce "ee.Reducer.mean" area b

/-- The correlation of two bands, less numbers in place of their means. -/
def correlation (b c : S.Band) (x y : S.Number) : S.Number :=
  let centred (b : S.Band) (x : S.Number) : S.Band := S.overlay "subtract" b (S.flat x)
  let total (b : S.Band) : S.Number := S.reduce "ee.Reducer.sum" area b
  let squares (b : S.Band) : S.Number := total (S.overlay "pow" b (S.flat (S.number 2)))
  S.combine "divide" (total (S.overlay "multiply" (centred b x) (centred c y)))
    (S.root (S.combine "multiply" (squares (centred b x)) (squares (centred c y))))

def twice (x : S.Number) : S.Number :=
  S.combine "multiply" x (S.number 2)

def luminanceChange (b c : S.Band) : S.Number :=
  let square (x : S.Number) : S.Number := S.combine "pow" x (S.number 2)
  S.combine "divide" (S.twice (S.combine "multiply" (S.mean area b) (S.mean area c)))
    (S.combine "add" (square (S.mean area b)) (square (S.mean area c)))

def contrastChange (b c : S.Band) : S.Number :=
  let deviation (b : S.Band) : S.Number := S.reduce "ee.Reducer.stdDev" area b
  let variance (b : S.Band) : S.Number := S.reduce "ee.Reducer.variance" area b
  S.combine "divide" (S.twice (S.combine "multiply" (deviation b) (deviation c)))
    (S.combine "add" (variance b) (variance c))

/-- The value of a metric for a band of the reference and the same band of the modified image. What is taken off
them before they are correlated are the means of the second pair. -/
def value (m : BandMetric) (p q : S.Band × S.Band) : S.Number :=
  let cc := S.correlation area p.1 p.2 (S.mean area q.1) (S.mean area q.2)
  match m with
  | .div => S.relativeDifference area "ee.Reducer.variance" p.1 p.2
  | .bias => S.relativeDifference area "ee.Reducer.mean" p.1 p.2
  | .cc => cc
  | .cml => S.luminanceChange area p.1 p.2
  | .cmc => S.contrastChange area p.1 p.2
  | .uiqi =>
    S.combine "multiply" (S.combine "multiply" cc (S.luminanceChange area p.1 p.2)) (S.contrastChange area p.1 p.2)

end Bands

/-! ### Steps on a server -/

section Steps
variable {S} {α : Type} {es : List (String × α)} {f f' : α → S.Band} {g g' : α → S.Number} {region : Entries}

theorem reduced_image (by_ : String) : Steps.reduced S.reading region (.image (mapValues f es)) by_ = .dictionary
      (mapValues (fun v => S.reduce ("ee." ++ ("Reducer." ++ by_)) (Value.canonicalEntries region) (f v)) es) := by
  show Object.dictionary _ = _
  rw [mapValues_mapValues]
  rfl

theorem array_dictionary : Steps.array S.reading (.dictionary (mapValues g es)) = .array ((orderedValues es).map g) :=
  congrArg Object.array orderedValues_mapValues

theorem perBand_image {bands : List (String × S.Band)} (hkeys : bands.map Prod.fst = es.map Prod.fst) :
    Steps.perBand S.reading (.image bands) (.array ((orderedValues es).map g)) =
      .dictionary (mapValues g (relabel es)) := by
  show Object.dictionary ((bands.map Prod.fst).zip ((orderedValues es).map g)) = _
  rw [hkeys, zip_orderedValues]

theorem reducedArray_image (by_ : String) : Steps.reducedArray S.reading region (.image (mapValues f es)) by_ =
    .array ((orderedValues es).map fun v =>
      S.reduce ("ee." ++ ("Reducer." ++ by_)) (Value.canonicalEntries region) (f v)) := by
  rw [Steps.reducedArray, reduced_image, array_dictionary]

theorem ask_arrays {l : List α} {u v : α → S.Number} (op : String) :
    Steps.ask S.reading (.array (l.map u)) op [.object (.array (l.map v))] =
      .array (l.map fun e => S.combine op (u e) (v e)) := by
  show Object.array (zipWith (S.combine op) (l.map u) (l.map v)) = _
  simp

theorem ask_array_number {l : List α} {u : α → S.Number} (op : String) (i : Int) :
    Steps.ask S.reading (.array (l.map u)) op [Steps.number i] =
      .array (l.map fun e => S.combine op (u e) (S.number i)) := by
  show Object.array ((l.map u).map fun x => S.combine op x (S.number i)) = _
  rw [map_map]
  rfl

theorem ask_array_sqrt {l : List α} {u : α → S.Number} :
    Steps.ask S.reading (.array (l.map u)) "sqrt" [] = .array (l.map fun e => S.root (u e)) := by
  show Object.array ((l.map u).map S.root) = _
  rw [map_map]
  rfl

theorem ask_images (op : String) :
    Steps.ask S.reading (.image (mapValues f es)) op [.object (.image (mapValues f' es))] =
      .image (mapValues (fun v => S.overlay op (f v) (f' v)) es) := by
  show Object.image (zipWith _ (mapValues f es) (mapValues f' es)) = _
  simp [mapValues]

theorem ask_image_number (op : String) (i : Int) : Steps.ask S.reading (.image (mapValues f es)) op [Steps.number i] =
      .image (mapValues (fun v => S.overlay op (f v) (S.flat (S.number i))) es) := by
  show Object.image (mapValues _ (mapValues f es)) = _
  rw [mapValues_mapValues]
  rfl

theorem relativeDifference_image (by_ : String) :
    Steps.relativeDifference S.reading region by_ (.image (mapValues f es)) (.image (mapValues f' es)) =
      .dictionary (mapValues (fun v => S.relativeDifference (Value.canonicalEntries region)
        ("ee." ++ ("Reducer." ++ by_)) (f v) (f' v)) (relabel es)) := by
  simp only [Steps.relativeDifference, Steps.oneLess, reducedArray_image, ask_arrays, ask_array_number]
  exact perBand_image keys_mapValues

theorem luminanceChange_image :
    Steps.luminanceChange S.reading region (.image (mapValues f es)) (.image (mapValues f' es)) = .dictionary
        (mapValues (fun v => S.luminanceChange (Value.canonicalEntries region) (f v) (f' v)) (relabel es)) := by
  simp only [Steps.luminanceChange, Steps.twice, reducedArray_image, ask_arrays, ask_array_number]
  exact perBand_image keys_mapValues

theorem contrastChange_image :
    Steps.contrastChange S.reading region (.image (mapValues f es)) (.image (mapValues f' es)) = .dictionary
        (mapValues (fun v => S.contrastChange (Value.canonicalEntries region) (f v) (f' v)) (relabel es)) := by
  simp only [Steps.contrastChange, Steps.twice, reducedArray_image, ask_arrays, ask_array_number]
  exact perBand_image keys_mapValues

/-- The means come from the values in the order of the keys and are taken off the bands in their own order. -/
theorem centred_image : Steps.centred S.reading region (.image (mapValues f es)) =
    .image (mapValues (fun v => S.overlay "subtract" (f v.1)
      (S.flat (S.mean (Value.canonicalEntries region) (f v.2)))) (beside es)) := by
  have hmeans : Steps.means S.reading region (.image (mapValues f es)) = .image
      (((orderedValues es).map fun v => S.mean (Value.canonicalEntries region) (f v)).mapIdx
        fun i x => ("constant_" ++ toString i, S.flat x)) := by
    rw [Steps.means, reduced_image]
    show Object.image ((orderedValues (mapValues _ es)).mapIdx _) = _
    rw [orderedValues_mapValues]
    rfl
  rw [Steps.centred, hmeans]
  show Object.image (zipWith _ (mapValues f es) _) = _
  congr 1
  refine ext_getElem ?_ fun i hi hi' => ?_
  · simp [mapValues, beside, orderedValues]
  · simp [mapValues, beside, orderedValues]

theorem correlation_image : Steps.correlation S.reading region (.image (mapValues f es)) (.image (mapValues f' es)) =
      .dictionary (mapValues (fun v => S.correlation (Value.canonicalEntries region) (f v.1) (f' v.1)
        (S.mean (Value.canonicalEntries region) (f v.2)) (S.mean (Value.canonicalEntries region) (f' v.2)))
        (relabel (beside es))) := by
  simp only [Steps.correlation, centred_image, ask_images, ask_image_number, reducedArray_image, ask_arrays,
    ask_array_sqrt]
  exact perBand_image (keys_mapValues.trans keys_beside.symm)

theorem onPixelsOf_image : Steps.onPixelsOf S.reading (.image (mapValues f es)) (.image (mapValues f' es)) =
    .image (mapValues (fun v => S.regrid (S.projection (mapValues f' es)) (f v)) es) := by
  show Object.image (mapValues _ (mapValues _ (mapValues f es))) = _
  rw [mapValues_mapValues, mapValues_mapValues]
  rfl

theorem qualityIndex_image : Steps.qualityIndex S.reading region (.image (mapValues f es)) (.image (mapValues f' es)) =
      .dictionary (mapValues (fun v => S.value (Value.canonicalEntries region) .uiqi
        (S.regrid (S.projection (mapValues f' es)) (f v.1), f' v.1)
        (S.regrid (S.projection (mapValues f' es)) (f v.2), f' v.2)) (relabel (relabel (beside es)))) := by
  have hfirst : relabel es = mapValues Prod.fst (relabel (beside es)) := mapValues_fst_relabel_beside.symm
  simp only [Steps.qualityIndex, onPixelsOf_image, correlation_image, luminanceChange_image, contrastChange_image,
    hfirst, mapValues_mapValues, array_dictionary, ask_arrays]
  exact perBand_image (keys_mapValues.trans (keys_relabel.trans keys_beside).symm)

/-- The reference that a metric starts from, on the pixels of the modified image if that is asked for. -/
def start (S : Server) (r : Value) (grid : S.Grid) (b : S.Band) : S.Band :=
  if r.isTrue then S.regrid grid b else b

/-- The bands that a metric compares; the parts of the quality index bring the reference to the pixels of the
modified image once more. -/
def compared (S : Server) (m : BandMetric) (r : Value) (grid : S.Grid) (p : S.Band × S.Band) : S.Band × S.Band :=
  match m with
  | .uiqi => (S.regrid grid (S.start r grid p.1), p.2)
  | _ => (S.start r grid p.1, p.2)

theorem start_image {r : Value} : Steps.start S.reading r (.image (mapValues f es)) (.image (mapValues f' es)) =
      .image (mapValues (fun v => S.start r (S.projection (mapValues f' es)) (f v)) es) := by
  cases hr : r.isTrue with
  | true => simp [Steps.start, start, hr, onPixelsOf_image]
  | false => simp [Steps.start, start, hr]

end Steps

/-- In which order the bands and their means come under the names. -/
def shuffled {α : Type} (m : BandMetric) (es : List (String × α)) : List (String × α × α) :=
  match m with
  | .uiqi => relabel (relabel (beside es))
  | _ => relabel (beside es)

/-- What a metric gives for two images: each name with the value for the bands, less the means of the bands, that
come under it. -/
theorem rule_image {S : Server} (m : BandMetric) {region : Entries} {r : Value}
    {bands : List (String × S.Band × S.Band)} :
    Steps.rule S.reading region m
        (Steps.start S.reading r (.image (mapValues Prod.fst bands)) (.image (mapValues Prod.snd bands)))
        (.image (mapValues Prod.snd bands)) =
      .dictionary (mapValues (fun v =>
        S.value (Value.canonicalEntries region) m (S.compared m r (S.projection (mapValues Prod.snd bands)) v.1)
          (S.compared m r (S.projection (mapValues Prod.snd bands)) v.2)) (shuffled m bands)) := by
  have hfirst : relabel bands = mapValues Prod.fst (relabel (beside bands)) := mapValues_fst_relabel_beside.symm
  rw [start_image]
  cases m with
  | div =>
    simp only [Steps.rule, relativeDifference_image, hfirst, mapValues_mapValues]
    rfl
  | bias =>
    simp only [Steps.rule, relativeDifference_image, hfirst, mapValues_mapValues]
    rfl
  | cc => exact correlation_image
  | cml =>
    simp only [Steps.rule, luminanceChange_image, hfirst, mapValues_mapValues]
    rfl
  | cmc =>
    simp only [Steps.rule, contrastChange_image, hfirst, mapValues_mapValues]
    rfl
  | uiqi => exact qualityIndex_image

end Server

end Geoscript.Imagery
