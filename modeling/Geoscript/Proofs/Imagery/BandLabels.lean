import Geoscript.Proofs.Imagery.ServerReading
import Mathlib.Analysis.SpecialFunctions.Pow.Real

/-! Which band a value belongs to. The names of the bands come in the order of the image and the values in ascending
order of the names, so each band has its own value if the names ascend, and not for all images otherwise. -/

namespace Geoscript.Imagery
open List Graph Graph.Reading Server

/-! ### Comparisons -/

/-- Two images on a server that have been recorded, and the arguments with which they are compared. The bands are
those of both images, under their names. -/
structure Comparison (S : Server) where
  env : Surroundings
  recording : Recording
  reference : Nat
  modified : Nat
  named : Entries
  bands : List (String × S.Band × S.Band)
  distinct : (bands.map Prod.fst).Nodup
  ordered : recording.Ordered
  reference_recorded : reference < recording.items.size
  modified_recorded : modified < recording.items.size
  named_recorded : Recorded recording named
  named_free : ∀ k ∈ ["original", "modified", "cls"], named.lookup k = none
  reference_means : S.reading.meaning recording.items reference = .image (mapValues Prod.fst bands)
  modified_means : S.reading.meaning recording.items modified = .image (mapValues Prod.snd bands)

namespace Comparison
variable {S : Server} (c : Comparison S) (m : BandMetric)

def names : List String := c.bands.map Prod.fst

/-- A call of the metric gives the dictionary. -/
def Gives (entries : List (String × S.Number)) : Prop :=
  ∃ v s,
    (m.metric.operation.apply [.node c.reference, .node c.modified] c.named).outcome c.env c.recording = (.ok v, s) ∧
    Operand.of (S.reading.meaning s.items) v = .object (.dictionary entries)

/-- The value for two bands, with the means of two bands taken off them before they are correlated. -/
def value (p q : S.Band × S.Band) : S.Number :=
  let reproject := (c.named.lookup "reproject").getD (.bool true)
  let compared := S.compared m reproject (S.projection (mapValues Prod.snd c.bands))
  S.value (Value.canonicalEntries (m.metric.operation.further c.named)) m (compared p) (compared q)

/-- Each name with the value of its own band. -/
def own : List (String × S.Number) :=
  mapValues (fun p => c.value m p p) c.bands

/-- Each name with the value that comes under it. -/
def labelled : List (String × S.Number) :=
  mapValues (fun v => c.value m v.1 v.2) (shuffled m c.bands)

theorem gives_labelled : c.Gives m (c.labelled m) := by
  have hx := gives_value (R := S.reading) (stands_node c.reference_recorded)
  have hy := gives_value (R := S.reading) (stands_node c.modified_recorded)
  rw [c.reference_means] at hx
  rw [c.modified_means] at hy
  have hnamed : Recorded c.recording (m.metric.operation.further c.named) := c.named_recorded.filter
  have hmeasure : S.reading.Gives c.recording
      (m.metric.measure _ _ ((c.named.lookup "reproject").getD (.bool true)) _) _ :=
    gives_measure m hx hy hnamed
  beta_reduce at hmeasure
  rw [rule_image] at hmeasure
  obtain ⟨v, s, hv, -, hstands⟩ := hmeasure c.env (.refl c.ordered)
  refine ⟨v, s, ?_, hstands.means⟩
  rw [apply_eq, c.named_free _ (by decide), c.named_free _ (by decide), c.named_free _ (by decide), if_neg (by decide)]
  exact hv

end Comparison

/-! ### Shuffling -/

section Shuffling
variable {α β : Type} {m : BandMetric} {es : List (String × α)} {f : α → β}

theorem shuffled_mapValues : shuffled m (mapValues f es) = mapValues (Prod.map f f) (shuffled m es) := by
  cases m <;> simp only [shuffled, beside_mapValues, relabel_mapValues]

theorem keys_shuffled : (shuffled m es).map Prod.fst = es.map Prod.fst := by
  cases m with
  | uiqi => exact keys_relabel.trans (keys_relabel.trans keys_beside)
  | _ => exact keys_relabel.trans keys_beside

theorem shuffled_of_ascending (h : (es.map Prod.fst).Pairwise (· ≤ ·)) :
    shuffled m es = mapValues (fun v => (v, v)) es := by
  have hkeys : ((beside es).map Prod.fst).Pairwise (· ≤ ·) := by rwa [keys_beside]
  have honce : relabel (beside es) = beside es := relabel_of_ascending hkeys
  cases m <;> simp only [shuffled, honce] <;> exact beside_of_ascending h

theorem values_shuffled : ((shuffled m es).map Prod.snd).Perm ((beside es).map Prod.snd) := by
  have hvalues {γ : Type} (es : List (String × γ)) : ((relabel es).map Prod.snd).Perm (es.map Prod.snd) := by
    rw [values_relabel]
    exact perm_inKeyOrder.map Prod.snd
  cases m with
  | uiqi => exact (hvalues _).trans (hvalues _)
  | _ => exact hvalues _

theorem ascending_of_relabel (h : relabel es = es) (hvalues : (es.map Prod.snd).Nodup) :
    (es.map Prod.fst).Pairwise (· ≤ ·) := by
  have hsnd : (inKeyOrder es).map Prod.snd = es.map Prod.snd := by
    have hrelabel : (relabel es).map Prod.snd = orderedValues es := values_relabel
    rw [h] at hrelabel
    exact hrelabel.symm
  have hsame : inKeyOrder es = es := by
    refine ext_getElem length_inKeyOrder fun i hi hi' => ?_
    have hmem : (inKeyOrder es)[i] ∈ es := perm_inKeyOrder.mem_iff.mp (getElem_mem hi)
    refine inj_on_of_nodup_map hvalues hmem (getElem_mem hi') ?_
    have hi₂ := getElem_of_eq hsnd (i := i) (by simpa using hi)
    rwa [getElem_map, getElem_map] at hi₂
  have hsorted : (inKeyOrder es).Pairwise fun e e' => e.1 ≤ e'.1 := pairwise_insertionSort _ es
  rw [hsame] at hsorted
  exact pairwise_map.mpr hsorted

end Shuffling

/-! ### Images of two pixels -/

noncomputable def arithmetic (op : String) (x y : ℝ) : ℝ :=
  match op with
  | "add" => x + y
  | "subtract" => x - y
  | "multiply" => x * y
  | "divide" => x / y
  | _ => x ^ y

/-- Plain arithmetic on images of two pixels, which stay as they are on any grid. -/
noncomputable abbrev twoPixels (images : String → List (String × ℝ × ℝ)) : Server where
  Band := ℝ × ℝ
  Number := ℝ
  Grid := Unit
  images := images
  projection _ := ()
  resample _ b := b
  reproject _ b := b
  reduce function _ b :=
    match function with
    | "ee.Reducer.mean" => (b.1 + b.2) / 2
    | "ee.Reducer.variance" => ((b.1 - b.2) / 2) ^ 2
    | "ee.Reducer.stdDev" => |(b.1 - b.2) / 2|
    | _ => b.1 + b.2
  number i := i
  combine := arithmetic
  root := Real.sqrt
  flat x := (x, x)
  overlay op b c := (arithmetic op b.1 c.1, arithmetic op b.2 c.2)

/-- Bands that tell places apart: that of the reference is the same in each place, that of the modified image grows. -/
noncomputable def growing (n : Nat) : (ℝ × ℝ) × (ℝ × ℝ) :=
  ((0, 2), (0, 2 * (n + 1)))

noncomputable def growingImages (names : List String) (name : String) : List (String × ℝ × ℝ) :=
  mapValues (fun n => if name = "a" then (growing n).1 else (growing n).2) names.zipIdx

noncomputable def growingComparison {names : List String} (h : names.Nodup) :
    Comparison (twoPixels (growingImages names)) where
  env := ⟨[], [], ⟨[], [], [], []⟩⟩
  recording := twoImages
  reference := 0
  modified := 1
  named := []
  bands := mapValues growing names.zipIdx
  distinct := by
    show ((mapValues growing names.zipIdx).map Prod.fst).Nodup
    rw [keys_mapValues, zipIdx_map_fst]
    exact h
  ordered := ordered_twoImages
  reference_recorded := by decide
  modified_recorded := by decide
  named_recorded := by decide
  named_free := by decide
  reference_means := by
    have hitem : twoImages.items[0]? = some ⟨.input .image "a", .image⟩ := rfl
    have hbands : growingImages names "a" = mapValues Prod.fst (mapValues growing names.zipIdx) := by
      rw [mapValues_mapValues]
      rfl
    rw [meaning_eq ordered_twoImages hitem]
    exact congrArg (Object.image (S := twoPixels (growingImages names))) hbands
  modified_means := by
    have hitem : twoImages.items[1]? = some ⟨.input .image "b", .image⟩ := rfl
    have hbands : growingImages names "b" = mapValues Prod.snd (mapValues growing names.zipIdx) := by
      rw [mapValues_mapValues]
      rfl
    rw [meaning_eq ordered_twoImages hitem]
    exact congrArg (Object.image (S := twoPixels (growingImages names))) hbands

section Growing
variable {images : String → List (String × ℝ × ℝ)} {area : Entries} {m : BandMetric}

noncomputable def correlationOf (i j : Nat) : ℝ :=
  2 * (i + 1) / √(4 * (i + 1) ^ 2 + 4 * ((i : ℝ) - j) ^ 2)

noncomputable def changeOf (i : Nat) : ℝ :=
  2 * (i + 1) / (1 + (i + 1) ^ 2)

theorem mean_reference (n : Nat) : (twoPixels images).mean area (growing n).1 = (1 : ℝ) := by
  show ((0 : ℝ) + 2) / 2 = 1
  norm_num

theorem mean_modified (n : Nat) : (twoPixels images).mean area (growing n).2 = (n + 1 : ℝ) := by
  show ((0 : ℝ) + 2 * (n + 1)) / 2 = n + 1
  ring

theorem correlation_growing (i j : Nat) :
    (twoPixels images).correlation area (growing i).1 (growing i).2 ((twoPixels images).mean area (growing j).1)
      ((twoPixels images).mean area (growing j).2) = correlationOf i j := by
  rw [mean_reference, mean_modified]
  have hcast : (((2 : Int) : ℝ)) = 2 := by norm_num
  show ((0 - 1) * (0 - (j + 1 : ℝ)) + (2 - 1) * (2 * (i + 1 : ℝ) - (j + 1))) /
    √(((0 - 1 : ℝ) ^ (((2 : Int) : ℝ)) + (2 - 1 : ℝ) ^ (((2 : Int) : ℝ))) *
      ((0 - (j + 1 : ℝ)) ^ (((2 : Int) : ℝ)) + (2 * (i + 1 : ℝ) - (j + 1)) ^ (((2 : Int) : ℝ)))) = correlationOf i j
  rw [correlationOf, hcast]
  simp only [Real.rpow_two]
  congr 2
  · ring
  · ring

theorem luminanceChange_growing (n : Nat) :
    (twoPixels images).luminanceChange area (growing n).1 (growing n).2 = changeOf n := by
  have hcast : (((2 : Int) : ℝ)) = 2 := by norm_num
  show ((0 : ℝ) + 2) / 2 * (((0 : ℝ) + 2 * (n + 1)) / 2) * ((2 : Int) : ℝ) /
    ((((0 : ℝ) + 2) / 2) ^ ((2 : Int) : ℝ) + (((0 : ℝ) + 2 * (n + 1)) / 2) ^ ((2 : Int) : ℝ)) = changeOf n
  rw [changeOf, hcast]
  simp only [Real.rpow_two]
  ring

theorem contrastChange_growing (n : Nat) :
    (twoPixels images).contrastChange area (growing n).1 (growing n).2 = changeOf n := by
  have hcast : (((2 : Int) : ℝ)) = 2 := by norm_num
  have hdeviation : |((0 : ℝ) - 2) / 2| = 1 := by norm_num
  have hdeviation' : |((0 : ℝ) - 2 * (n + 1)) / 2| = n + 1 := by
    rw [show ((0 : ℝ) - 2 * (n + 1)) / 2 = -(n + 1) by ring, abs_neg, abs_of_pos (by positivity)]
  show |((0 : ℝ) - 2) / 2| * |((0 : ℝ) - 2 * (n + 1)) / 2| * ((2 : Int) : ℝ) /
    ((((0 : ℝ) - 2) / 2) ^ 2 + (((0 : ℝ) - 2 * (n + 1)) / 2) ^ 2) = changeOf n
  rw [changeOf, hcast, hdeviation, hdeviation']
  ring

noncomputable def valueOf (m : BandMetric) (i j : Nat) : ℝ :=
  match m with
  | .div => 1 - (i + 1) ^ 2
  | .bias => 1 - (i + 1)
  | .cc => correlationOf i j
  | .cml => changeOf i
  | .cmc => changeOf i
  | .uiqi => correlationOf i j * changeOf i * changeOf i

theorem value_growing (i j : Nat) : (twoPixels images).value area m (growing i) (growing j) = valueOf m i j := by
  cases m with
  | div =>
    show (((0 : ℝ) - 2 * (i + 1)) / 2) ^ 2 / (((0 : ℝ) - 2) / 2) ^ 2 * ((-1 : Int) : ℝ) + ((1 : Int) : ℝ) = _
    rw [valueOf]
    push_cast
    ring
  | bias =>
    show (((0 : ℝ) + 2 * (i + 1)) / 2) / (((0 : ℝ) + 2) / 2) * ((-1 : Int) : ℝ) + ((1 : Int) : ℝ) = _
    rw [valueOf]
    push_cast
    ring
  | cc => exact correlation_growing i j
  | cml => exact luminanceChange_growing i
  | cmc => exact contrastChange_growing i
  | uiqi =>
    exact congrArg₂ (fun x y : ℝ => x * y)
      (congrArg₂ (fun x y : ℝ => x * y) (correlation_growing i j) (luminanceChange_growing i))
      (contrastChange_growing i)

theorem correlationOf_self (n : Nat) : correlationOf n n = 1 := by
  have hpos : (0 : ℝ) < 2 * (n + 1) := by positivity
  rw [correlationOf, show (4 * (n + 1 : ℝ) ^ 2 + 4 * ((n : ℝ) - n) ^ 2) = (2 * (n + 1)) ^ 2 by ring,
    Real.sqrt_sq hpos.le, div_self hpos.ne']

theorem correlationOf_lt {i j : Nat} (h : i ≠ j) : correlationOf i j < 1 := by
  have hne : (i : ℝ) - j ≠ 0 := sub_ne_zero.mpr (Nat.cast_injective.ne h)
  have hsquare : 0 < 4 * ((i : ℝ) - j) ^ 2 := by positivity
  have hroot : 2 * ((i : ℝ) + 1) < √(4 * (i + 1) ^ 2 + 4 * ((i : ℝ) - j) ^ 2) := by
    refine Real.lt_sqrt_of_sq_lt ?_
    linarith [show (2 * ((i : ℝ) + 1)) ^ 2 = 4 * (i + 1) ^ 2 by ring]
  rw [correlationOf, div_lt_one (by positivity)]
  exact hroot

theorem correlationOf_le (i j : Nat) : correlationOf i j ≤ 1 := by
  by_cases h : i = j
  · rw [h, correlationOf_self]
  · exact (correlationOf_lt h).le

theorem changeOf_pos (n : Nat) : 0 < changeOf n := by
  unfold changeOf
  positivity

theorem changeOf_injective : Function.Injective changeOf := by
  intro i j h
  unfold changeOf at h
  rw [div_eq_div_iff (by positivity) (by positivity)] at h
  -- The cross product is a multiple of `i - j`, and the other factor is zero only for the first place.
  have hfactor : ((i : ℝ) - j) * (((i : ℝ) + 1) * (j + 1) - 1) = 0 := by linarith
  rcases mul_eq_zero.mp hfactor with hij | hone
  · exact_mod_cast sub_eq_zero.mp hij
  · have hi : (i : ℝ) = 0 := by nlinarith [Nat.cast_nonneg (α := ℝ) i, Nat.cast_nonneg (α := ℝ) j]
    have hj : (j : ℝ) = 0 := by nlinarith [Nat.cast_nonneg (α := ℝ) i, Nat.cast_nonneg (α := ℝ) j]
    exact_mod_cast hi.trans hj.symm

theorem valueOf_correlated (hm : m = .cc ∨ m = .uiqi) :
    ∃ weight : Nat → ℝ, (∀ n, 0 < weight n) ∧ ∀ i j, valueOf m i j = correlationOf i j * weight i := by
  rcases hm with rfl | rfl
  · exact ⟨fun _ => 1, fun _ => one_pos, fun i j => (mul_one _).symm⟩
  · exact ⟨fun n => changeOf n * changeOf n, fun n => mul_pos (changeOf_pos n) (changeOf_pos n),
      fun i j => mul_assoc _ _ _⟩

theorem valueOf_injective (hm : ¬(m = .cc ∨ m = .uiqi)) :
    ∃ f : Nat → ℝ, Function.Injective f ∧ ∀ i j, valueOf m i j = f i := by
  cases m with
  | div =>
    refine ⟨fun n => 1 - (n + 1) ^ 2, fun i j h => ?_, fun i j => rfl⟩
    have hsquares : ((i : ℝ) + 1) ^ 2 = (j + 1) ^ 2 := by linarith [show (1 : ℝ) - (i + 1) ^ 2 = 1 - (j + 1) ^ 2 from h]
    have hsame := (sq_eq_sq₀ (by positivity) (by positivity)).mp hsquares
    exact_mod_cast add_right_cancel hsame
  | bias =>
    refine ⟨fun n => 1 - (n + 1), fun i j h => ?_, fun i j => rfl⟩
    have hsame : (i : ℝ) = j := by linarith [show (1 : ℝ) - (i + 1) = 1 - (j + 1) from h]
    exact_mod_cast hsame
  | cml => exact ⟨changeOf, changeOf_injective, fun i j => rfl⟩
  | cmc => exact ⟨changeOf, changeOf_injective, fun i j => rfl⟩
  | cc => exact absurd (.inl rfl) hm
  | uiqi => exact absurd (.inr rfl) hm

variable {es : List (String × Nat)}

theorem same_of_sum {vs : List (Nat × Nat)} {weight : Nat → ℝ} (hpos : ∀ n, 0 < weight n)
    (h : (vs.map fun v => correlationOf v.1 v.2 * weight v.1).sum = (vs.map fun v => weight v.1).sum) :
    ∀ v ∈ vs, v.1 = v.2 := by
  by_contra hmoved
  obtain ⟨v, hv, hne⟩ : ∃ v ∈ vs, v.1 ≠ v.2 := by simpa using hmoved
  refine absurd h (ne_of_lt (sum_lt_sum _ _ (fun v _ => ?_) ⟨v, hv, ?_⟩))
  · exact mul_le_of_le_one_left (hpos v.1).le (correlationOf_le v.1 v.2)
  · exact mul_lt_of_lt_one_left (hpos v.1) (correlationOf_lt hne)

theorem relabel_of_own
    (h : mapValues (fun v => valueOf m v.1 v.2) (shuffled m es) = mapValues (fun n => valueOf m n n) es) :
    relabel es = es := by
  have hbeside : mapValues Prod.fst (beside es) = es := mapValues_fst_beside
  by_cases hm : m = .cc ∨ m = .uiqi
  · obtain ⟨weight, hpos, hvalue⟩ := valueOf_correlated hm
    have hsum : (((beside es).map Prod.snd).map fun v => correlationOf v.1 v.2 * weight v.1).sum =
        (((beside es).map Prod.snd).map fun v => weight v.1).sum := by
      calc (((beside es).map Prod.snd).map fun v => correlationOf v.1 v.2 * weight v.1).sum
          = (((shuffled m es).map Prod.snd).map fun v => correlationOf v.1 v.2 * weight v.1).sum :=
            (values_shuffled.map _).sum_eq.symm
        _ = ((mapValues (fun n => valueOf m n n) es).map Prod.snd).sum := by
            rw [← h, values_mapValues]
            simp only [hvalue]
        _ = ((es.map Prod.snd).map weight).sum := by
            rw [values_mapValues]
            simp only [hvalue, correlationOf_self, one_mul]
        _ = (((beside es).map Prod.snd).map fun v => weight v.1).sum := by
            conv_lhs => rw [← hbeside, values_mapValues, map_map]
            rfl
    have hsame := same_of_sum hpos hsum
    calc relabel es = mapValues Prod.snd (beside es) := mapValues_snd_beside.symm
      _ = mapValues Prod.fst (beside es) :=
          map_congr_left fun e he => by rw [hsame e.2 (mem_map_of_mem he)]
      _ = es := hbeside
  · obtain ⟨f, hf, hvalue⟩ := valueOf_injective hm
    have hshuffled : shuffled m es = relabel (beside es) := by
      cases m with
      | uiqi => exact absurd (.inr rfl) hm
      | _ => rfl
    simp only [hvalue, hshuffled] at h
    refine mapValues_injective hf ?_
    rw [← mapValues_fst_relabel_beside, mapValues_mapValues]
    exact h

theorem compared_twoPixels {r : Value} {grid : (twoPixels images).Grid} (p : (ℝ × ℝ) × (ℝ × ℝ)) :
    (twoPixels images).compared m r grid p = p := by
  have hstart (b : ℝ × ℝ) : (twoPixels images).start r grid b = b := ite_self b
  cases m with
  | uiqi => exact congrArg (·, p.2) (hstart p.1)
  | _ => exact congrArg (·, p.2) (hstart p.1)

theorem value_growingComparison {names : List String} (h : names.Nodup) (i j : Nat) :
    (growingComparison h).value m (growing i) (growing j) = valueOf m i j := by
  show (twoPixels (growingImages names)).value _ m (Server.compared _ m _ _ (growing i))
    (Server.compared _ m _ _ (growing j)) = _
  rw [compared_twoPixels, compared_twoPixels, value_growing]

theorem own_growingComparison {names : List String} (h : names.Nodup) :
    (growingComparison h).own m = mapValues (fun n => valueOf m n n) names.zipIdx := by
  show mapValues _ (mapValues growing names.zipIdx) = _
  rw [mapValues_mapValues]
  exact map_congr_left fun e _ => by rw [Function.comp_apply, value_growingComparison]

theorem labelled_growingComparison {names : List String} (h : names.Nodup) :
    (growingComparison h).labelled m = mapValues (fun v => valueOf m v.1 v.2) (shuffled m names.zipIdx) := by
  show mapValues _ (shuffled m (mapValues growing names.zipIdx)) = _
  rw [shuffled_mapValues, mapValues_mapValues]
  exact map_congr_left fun e _ => by
    rw [Function.comp_apply, Prod.map_fst, Prod.map_snd, value_growingComparison]

end Growing

/-! ### Own values -/

/-- A metric by band gives each name a value. It is that of its own band if the names ascend, whatever the server
makes of bands and numbers; if they do not, even images of two pixels have a band whose value is not its own. -/
theorem own_values_iff_ascending (m : BandMetric) {names : List String} (hnames : names.Nodup) :
    (∀ (S : Server) (c : Comparison S), c.Gives m (c.labelled m) ∧ (c.labelled m).map Prod.fst = c.names) ∧
    (names.Pairwise (· ≤ ·) → ∀ (S : Server) (c : Comparison S), c.names = names → c.labelled m = c.own m) ∧
    (¬names.Pairwise (· ≤ ·) → ∃ images, ∃ c : Comparison (twoPixels images),
      c.names = names ∧ c.labelled m ≠ c.own m) := by
  refine ⟨fun S c => ⟨c.gives_labelled m, keys_mapValues.trans keys_shuffled⟩, fun hascending S c hc => ?_,
    fun hnot => ?_⟩
  · have hbands : c.names.Pairwise (· ≤ ·) := by rwa [hc]
    rw [Comparison.labelled, shuffled_of_ascending hbands, mapValues_mapValues]
    rfl
  · refine ⟨growingImages names, growingComparison hnames, ?_, fun hown => hnot ?_⟩
    · exact keys_mapValues.trans (zipIdx_map_fst 0 names)
    · rw [own_growingComparison, labelled_growingComparison] at hown
      have hvalues : (names.zipIdx.map Prod.snd).Nodup := by
        rw [zipIdx_map_snd]
        exact nodup_range'
      have hascending := ascending_of_relabel (relabel_of_own hown) hvalues
      rwa [zipIdx_map_fst] at hascending

/-- Bands in descending order are not given their own values. -/
theorem descending_bands_swapped : ["B2", "B1"].Nodup ∧ ∃ images, ∃ c : Comparison (twoPixels images),
    c.names = ["B2", "B1"] ∧ c.Gives .div (c.labelled .div) ∧ c.labelled .div ≠ c.own .div := by
  have hnames : ["B2", "B1"].Nodup := by decide
  obtain ⟨hgives, -, hnot⟩ := own_values_iff_ascending .div hnames
  obtain ⟨images, c, hc, hown⟩ := hnot (by decide)
  exact ⟨hnames, images, c, hc, (hgives _ c).1, hown⟩

end Geoscript.Imagery
