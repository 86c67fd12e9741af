import Geoscript.Proofs.Graph.Kept
import Geoscript.Proofs.Graph.Shown
import Geoscript.Proofs.Imagery.MetricMeaning

/-! Which metrics bring images to other pixels. A metric that is asked not to do so keeps to it unless it measures
with a part, since the parts always bring the reference to the pixels of the modified image. -/

namespace Geoscript
open List

namespace Graph
variable {s : Recording} {node : Node} {i : Nat}

/-- The methods and functions that bring an image to other pixels. -/
def regridNames : List String := ["resample", "reproject", "ee.Image.resample", "ee.Image.reproject"]

/-- Whether a node brings an image to other pixels. -/
def Node.regrids : Node → Bool
  | .call fn _ _ => regridNames.contains fn
  | .method _ name _ _ => regridNames.contains name
  | _ => false

theorem Node.regrids_renumber (node : Node) (f : Nat → Nat) : (node.renumber f).regrids = node.regrids := by
  cases node <;> rfl

/-! ### A mark on what was brought to other pixels -/

def Operand.marked : Operand Bool → Bool
  | .object b => b
  | .plain _ => false

/-- The reading that marks an object if it was brought to other pixels or made from one that was. -/
def regridding : Reading Bool where
  unknown := false
  of
    | .call fn args _ => regridNames.contains fn || args.any Operand.marked
    | .method object name args _ => regridNames.contains name || object || args.any Operand.marked
    | _ => false

theorem exists_regrids_of_marked (hs : s.Ordered) (h : regridding.meaning s.items i) :
    ∃ j item, Relation.ReflTransGen (Refers s.items) i j ∧ s.items[j]? = some item ∧ item.node.regrids := by
  induction i using Nat.strongRecOn with
  | ind i ih =>
    cases hitem : s.items[i]? with
    | none =>
      rw [Reading.meaning, hitem] at h
      cases h
    | some item =>
      rw [Reading.meaning_eq hs hitem] at h
      -- The mark of a node that this one refers to leads on.
      have hback : ∀ j ∈ item.node.references, regridding.meaning s.items j →
          ∃ j item, Relation.ReflTransGen (Refers s.items) i j ∧ s.items[j]? = some item ∧ item.node.regrids := by
        intro j hj hmark
        obtain ⟨k, item', hleads, hk⟩ := ih j (hs hitem j hj) hmark
        exact ⟨k, item', .head ⟨item, hitem, hj⟩ hleads, hk⟩
      have hargs : ∀ args : List Value, (args.map (Operand.of (regridding.meaning s.items))).any Operand.marked →
          ∃ j ∈ Value.referencesList args, regridding.meaning s.items j := by
        intro args hany
        obtain ⟨o, ho, hmark⟩ := any_eq_true.mp hany
        obtain ⟨v, hv, rfl⟩ := mem_map.mp ho
        cases v with
        | node j => exact ⟨j, mem_referencesList hv (by simp [Value.references]), hmark⟩
        | _ => cases hmark
      cases hnode : item.node with
      | call fn args named =>
        rw [hnode] at h hback
        rcases Bool.or_eq_true_iff.mp h with hown | hany
        · exact ⟨i, item, .refl, hitem, by rw [hnode]; exact hown⟩
        · obtain ⟨j, hj, hmark⟩ := hargs args hany
          exact hback j (mem_append_left _ hj) hmark
      | method object name args named =>
        rw [hnode] at h hback
        rcases Bool.or_eq_true_iff.mp h with h | hany
        · rcases Bool.or_eq_true_iff.mp h with hown | hobject
          · exact ⟨i, item, .refl, hitem, by rw [hnode]; exact hown⟩
          · exact hback object mem_cons_self hobject
        · obtain ⟨j, hj, hmark⟩ := hargs args hany
          exact hback j (mem_cons_of_mem _ (mem_append_left _ hj)) hmark
      | _ =>
        rw [hnode] at h
        cases h

theorem exists_regrids_shown (hs : s.Ordered) (hi : i < s.items.size) (h : regridding.meaning s.items i) :
    ∃ node ∈ (s.shown (.node i)).nodes, node.regrids := by
  obtain ⟨j, item, hleads, hj, hregrids⟩ := exists_regrids_of_marked hs h
  obtain ⟨number, hmem⟩ := mem_shown hs (v := .node i) (by simp [Value.references]) hi hleads hj
  exact ⟨_, hmem, by rw [Node.regrids_renumber, hregrids]⟩

theorem not_regrids_shown {v : Value} (h : ∀ item ∈ s.items, item.node.regrids = false) :
    ¬∃ node ∈ (s.shown v).nodes, node.regrids := by
  rintro ⟨node, hnode, hregrids⟩
  obtain ⟨item, hitem, number, rfl⟩ := exists_of_mem_shown hnode
  rw [Node.regrids_renumber, h item hitem] at hregrids
  cases hregrids

end Graph

namespace Imagery
open Graph Graph.Reading Graph.Recording

/-! ### Metrics without parts -/

abbrev Staying {α : Type} (b : Build α) : Prop :=
  Keeps (fun node => node.regrids = false) b

section Staying
variable {x y : Term} {region : Entries} {by_ : String}

theorem staying_none (name : String) (hx : Staying x) (hname : regridNames.contains name = false) :
    Staying (x.call name []) :=
  keeps_callWith (fun _ _ _ => hname) hx (by simp) (by simp)

theorem staying_one (name : String) (hx : Staying x) (hy : Staying y)
    (hname : regridNames.contains name = false) : Staying (x.call name [y]) :=
  keeps_callWith (fun _ _ _ => hname) hx (by simpa using hy) (by simp)

theorem staying_server (function : String) (hx : Staying x)
    (hname : regridNames.contains ("ee." ++ function) = false) : Staying (server function [x]) :=
  keeps_server (fun _ _ => hname) (by simpa using hx)

theorem staying_int (i : Int) : Staying (Term.int i) :=
  keeps_value _

def reducers : List String := ["mean", "variance", "stdDev", "sum"]

theorem staying_reducer (hby : reducers.contains by_) : Staying (reducer by_) := by
  have hnames : ∀ name ∈ reducers, regridNames.contains ("ee." ++ ("Reducer." ++ name)) = false := by decide
  exact keeps_server (fun _ _ => hnames by_ (contains_iff_mem.mp hby)) (by simp)

theorem staying_asTerms : ∀ e ∈ asTerms region, Staying e.2 := by
  intro e he
  obtain ⟨⟨k, v⟩, -, rfl⟩ := mem_map.mp he
  exact keeps_value v

theorem staying_reduceRegion {args : List Term} {named : List (String × Term)} (hx : Staying x)
    (hargs : ∀ a ∈ args, Staying a) (hnamed : ∀ e ∈ named, Staying e.2) :
    Staying (x.callWith "reduceRegion" args named) := by
  have hname : regridNames.contains "reduceRegion" = false := by decide
  exact keeps_callWith (fun _ _ _ => hname) hx hargs hnamed

theorem staying_reduced (hx : Staying x) (hby : reducers.contains by_) : Staying (reduced x by_ region) :=
  staying_reduceRegion hx (by simpa using staying_reducer hby) staying_asTerms

theorem staying_reducedArray (hx : Staying x) (hby : reducers.contains by_) : Staying (reducedArray x by_ region) :=
  staying_server "Array" (staying_none "values" (staying_reduced hx hby) rfl) rfl

theorem staying_square (hx : Staying x) : Staying (x.call "pow" [2]) :=
  staying_one "pow" hx (staying_int 2) rfl

variable (hx : Staying x) (hy : Staying y)
include hx hy

theorem staying_perBand : Staying (perBand x y) := by
  have hname : regridNames.contains ("ee." ++ "Dictionary.fromLists") = false := by decide
  have hnames := staying_none "bandNames" hx rfl
  have hvalues := staying_none "toList" hy rfl
  exact keeps_server (fun _ _ => hname) (by simp [hnames, hvalues])

theorem staying_meanSquaredError : Staying (meanSquaredError x y region) := by
  have hdifference := staying_one "subtract" hx hy rfl
  refine (staying_square hdifference).share fun squares hsquares => ?_
  have hmean : Staying (Term.callWith squares "reduceRegion" [] (("reducer", reducer "mean") :: asTerms region)) :=
    staying_reduceRegion hsquares (by simp) (forall_mem_cons.mpr ⟨staying_reducer rfl, staying_asTerms⟩)
  dsimp only
  split
  · exact (keeps_fail _).bind fun _ => hmean
  · exact hmean

theorem staying_relativeDifference (hby : reducers.contains by_) : Staying (relativeDifference by_ x y region) := by
  refine (staying_reducedArray hx hby).share fun first hfirst => ?_
  refine (staying_reducedArray hy hby).share fun second hsecond => ?_
  have hquotient := staying_one "divide" hsecond hfirst rfl
  have hnegative := staying_one "multiply" hquotient (staying_int (-1)) rfl
  refine (staying_one "add" hnegative (staying_int 1) rfl).share fun difference hdifference => ?_
  exact staying_perBand hx hdifference

theorem staying_correlation : Staying (correlation x y region) := by
  have hmeans : ∀ {z : Term}, Staying z →
      Staying (server "Image.constant" [(reduced z "mean" region).call "values" []]) := fun hz =>
    staying_server "Image.constant" (staying_none "values" (staying_reduced hz rfl) rfl) rfl
  refine (hmeans hx).share fun xbar hxbar => (hmeans hy).share fun ybar hybar => ?_
  refine (staying_one "subtract" hx hxbar rfl).share fun a ha => ?_
  refine (staying_one "subtract" hy hybar rfl).share fun b hb => ?_
  have hproduct := staying_one "multiply" ha hb rfl
  refine (staying_reducedArray hproduct rfl).share fun x1 hx1 => ?_
  refine (staying_reducedArray (staying_square ha) rfl).share fun x2 hx2 => ?_
  refine (staying_reducedArray (staying_square hb) rfl).share fun x3 hx3 => ?_
  have hroot := staying_none "sqrt" (staying_one "multiply" hx2 hx3 rfl) rfl
  refine (staying_one "divide" hx1 hroot rfl).share fun cc hcc => ?_
  exact staying_perBand hx hcc

theorem staying_luminanceChange : Staying (luminanceChange x y region) := by
  refine (staying_reducedArray hx rfl).share fun xbar hxbar => ?_
  refine (staying_reducedArray hy rfl).share fun ybar hybar => ?_
  have hproduct := staying_one "multiply" (staying_one "multiply" hxbar hybar rfl) (staying_int 2) rfl
  have hsum := staying_one "add" (staying_square hxbar) (staying_square hybar) rfl
  refine (staying_one "divide" hproduct hsum rfl).share fun change hchange => ?_
  exact staying_perBand hx hchange

theorem staying_contrastChange : Staying (contrastChange x y region) := by
  refine (staying_reducedArray hx rfl).share fun xvar hxvar => ?_
  refine (staying_reducedArray hy rfl).share fun yvar hyvar => ?_
  refine (staying_reducedArray hx rfl).share fun xsd hxsd => ?_
  refine (staying_reducedArray hy rfl).share fun ysd hysd => ?_
  have hproduct := staying_one "multiply" (staying_one "multiply" hxsd hysd rfl) (staying_int 2) rfl
  have hsum := staying_one "add" hxvar hyvar rfl
  refine (staying_one "divide" hproduct hsum rfl).share fun change hchange => ?_
  exact staying_perBand hx hchange

end Staying

/-! ### Metrics with parts -/

/-- A term gives an object with or without the mark. -/
abbrev Marks (s : Recording) (t : Term) (mark : Bool) : Prop :=
  regridding.Gives s t (.object mark)

section Marked
variable {s : Recording} {x y t : Term} {p q : Bool} {o : Operand Bool} {region : Entries}

theorem ask_marked (name : String) (os : List (Operand Bool)) : Steps.ask regridding true name os = true := by
  simp [Steps.ask, regridding]

theorem service_marked (function : String) {os : List (Operand Bool)} (h : .object true ∈ os) :
    Steps.service regridding function os = true := by
  simp only [Steps.service, regridding, Bool.or_eq_true, any_eq_true]
  exact .inr ⟨_, h, rfl⟩

theorem marked_none (name : String) (hx : Marks s x true) : Marks s (x.call name []) true :=
  ask_marked name [] ▸ gives_none name hx

theorem marked_one (name : String) (hx : Marks s x true) (ht : regridding.Gives s t o) :
    Marks s (x.call name [t]) true :=
  ask_marked name [o] ▸ gives_one name hx ht

theorem marked_server (function : String) (hx : Marks s x true) : Marks s (server function [x]) true :=
  service_marked function mem_cons_self ▸ gives_server function (.cons hx .nil)

variable (hfree : region.lookup "reducer" = none) (hx : Marks s x p) (hy : Marks s y q) (hr : Recorded s region)
include hx hy hr

/-- The correlation that the quality index is made of is brought to the pixels of the modified image. -/
theorem marked_qualityIndex : Marks s (qualityIndex x y region) true := by
  have hnames (p' : Bool) : Steps.perBand regridding true p' = true :=
    service_marked "Dictionary.fromLists" (by simp [ask_marked])
  have hvalues : Steps.perBand regridding p true = true :=
    service_marked "Dictionary.fromLists" (by simp [ask_marked])
  have harray : Steps.array regridding true = true :=
    service_marked "Array" (by simp [ask_marked])
  have hstart : Steps.onPixelsOf regridding p q = true := rfl
  have hmark : Steps.qualityIndex regridding region p q = true := by
    simp only [Steps.qualityIndex, Steps.correlation, hstart, hnames, harray, ask_marked, hvalues]
  exact hmark ▸ gives_qualityIndex hx hy hr

include hfree

theorem gives_meanSquaredError : Marks s (meanSquaredError x y region) (Steps.ask regridding (Steps.ask regridding
    (Steps.ask regridding p "subtract" [.object q]) "pow" [Steps.number 2]) "reduceRegion" []) := by
  refine (gives_one "pow" (gives_one "subtract" hx hy) (gives_int 2)).share fun squares s₁ hs₁ hsquares => ?_
  have hreducer : regridding.Gives s₁ (reducer "mean") _ := gives_reducer "mean"
  dsimp only
  rw [if_neg (by simp [hfree])]
  exact hsquares.callWith .nil (givesNamed_cons hreducer (givesNamed_values (hr.grows hs₁))) fun _ _ => rfl

/-- A mean squared error that is part of another metric is brought to the pixels of the modified image. -/
theorem marked_errorPart : Marks s (measurePart meanSquaredError x y region) true := by
  refine (gives_onPixelsOf hx hy).share fun x' s₁ hs₁ hx' => ?_
  exact gives_meanSquaredError hfree hx' (hy.grows hs₁) (hr.grows hs₁)

theorem marked_rootMeanSquaredError : Marks s (rootMeanSquaredError x y region) true := by
  refine (marked_errorPart hfree hx hy hr).share fun mse s₁ hs₁ hmse => ?_
  have hroots := marked_none "toList" (marked_none "sqrt" (marked_server "Array" (marked_none "values" hmse)))
  have hmark : Steps.service regridding "Dictionary.fromLists" [.object true, .object true] = true :=
    service_marked _ mem_cons_self
  exact hmark ▸ gives_server "Dictionary.fromLists" (.cons (marked_none "keys" hmse) (.cons hroots .nil))

theorem marked_relativeAverageError : Marks s (relativeAverageError x y region) true := by
  refine (marked_errorPart hfree hx hy hr).share fun mse s₁ hs₁ hmse => ?_
  have hmean := marked_one "reduce" (marked_none "values" hmse) (gives_reducer "mean")
  refine (marked_server "Number" hmean).share fun error s₂ hs₂ herror => ?_
  have hmeans : regridding.Gives s₂ (reduced x "mean" region) _ :=
    gives_reduced (hx.grows (hs₁.trans hs₂)) (hr.grows (hs₁.trans hs₂))
  refine (gives_one "reduce" (gives_none "values" hmeans) (gives_reducer "mean")).share fun mean s₃ hs₃ hmean => ?_
  have hshare := gives_one "divide" (gives_server "Number" (.cons (gives_int 100) .nil)) hmean
  exact marked_one "multiply" (marked_none "sqrt" (herror.grows hs₃)) hshare

theorem marked_globalRelativeError {h l : Term} {a b : Bool} (hh : Marks s h a) (hl : Marks s l b) :
    Marks s (globalRelativeError h l x y region) true := by
  refine (marked_errorPart hfree hx hy hr).share fun mse s₁ hs₁ hmse => ?_
  refine (marked_server "Array" (marked_none "values" hmse)).share fun errors s₂ hs₂ herrors => ?_
  have hs₁₂ := hs₁.trans hs₂
  refine (gives_reducedArray (hx.grows hs₁₂) (hr.grows hs₁₂)).share fun means s₃ hs₃ hmeans => ?_
  have hlist := marked_none "toList" (marked_one "divide" (herrors.grows hs₃) hmeans)
  have hmean := marked_server "Number" (marked_one "reduce" hlist (gives_reducer "mean"))
  refine (marked_none "sqrt" hmean).share fun error s₄ hs₄ herror => ?_
  have hs₁₄ := hs₁₂.trans (hs₃.trans hs₄)
  have hsizes := gives_one "multiply" (gives_one "divide" (hh.grows hs₁₄) (hl.grows hs₁₄)) (gives_int 100)
  exact marked_one "multiply" herror hsizes

end Marked

/-! ### Refusals -/

section Refused
variable {s : Recording} {x y : Term} {p q : Bool} {region : Entries}

theorem fails_meanSquaredError (hclash : (region.lookup "reducer").isSome)
    (hx : Marks s x p) (hy : Marks s y q) :
    Fails s (meanSquaredError x y region) .badArguments := by
  refine (gives_one "pow" (gives_one "subtract" hx hy) (gives_int 2)).share_fails fun squares s₁ hs₁ hsquares => ?_
  dsimp only
  rw [if_pos hclash]
  exact fun env s₂ _ => ⟨s₂, Build.outcome_bind_error (Build.outcome_fail _)⟩

theorem fails_errorPart (hclash : (region.lookup "reducer").isSome)
    (hx : Marks s x p) (hy : Marks s y q) :
    Fails s (measurePart meanSquaredError x y region) .badArguments := by
  refine (gives_onPixelsOf hx hy).share_fails fun x' s₁ hs₁ hx' => ?_
  exact fails_meanSquaredError hclash hx' (hy.grows hs₁)

end Refused

/-! ### Calls of metrics -/

namespace Metric

def composed : List Metric := [rmse, rase, ergas, uiqi]

/-- The named arguments that the steps of a metric give themselves. -/
def taken : Metric → List String
  | mse => ["reducer"]
  | rmse => ["reducer"]
  | rase => ["reducer"]
  | ergas => ["h", "l", "reducer"]
  | _ => []

end Metric

section Calls
variable {m : Metric} {s : Recording} {x y : Term} {p q : Bool} {r : Value} {region : Entries}

theorem measureWith_of_false (hr : r.isTrue = false) (rule : Term → Term → Entries → Term) :
    measureWith rule x y r region = rule x y region := by
  simp [measureWith, hr]

theorem of_rule (hr : r.isTrue = false) (P : Term → Prop) {rule : Term → Term → Entries → Term}
    (h : P (rule x y region)) : P (measureWith rule x y r region) :=
  (measureWith_of_false hr rule).symm ▸ h

theorem gives_pixelSize (hx : Marks s x p) : regridding.Gives s (pixelSize x)
      (.object (Steps.ask regridding (Steps.ask regridding p "projection" []) "nominalScale" [])) :=
  gives_none "nominalScale" (gives_none "projection" hx)

theorem marked_measure (hm : m ∈ Metric.composed) (hr : r.isTrue = false)
    (hfree : ∀ k ∈ m.taken, region.lookup k = none) (hx : Marks s x p)
    (hy : Marks s y q) (hregion : Recorded s region) :
    Marks s (m.measure x y r region) true := by
  cases m with
  | rmse => exact of_rule hr (Marks s · true) (marked_rootMeanSquaredError (hfree _ (by decide)) hx hy hregion)
  | rase => exact of_rule hr (Marks s · true) (marked_relativeAverageError (hfree _ (by decide)) hx hy hregion)
  | ergas =>
    refine (gives_pixelSize hx).share fun l s₁ hs₁ hl => ?_
    replace hx := hx.grows hs₁
    replace hy := hy.grows hs₁
    refine (gives_pixelSize hy).share fun h s₂ hs₂ hh => ?_
    have hsizes : ¬((region.lookup "h").isSome || (region.lookup "l").isSome) := by
      simp [hfree "h" (by decide), hfree "l" (by decide)]
    rw [measureWith_of_false hr, if_neg hsizes]
    exact marked_globalRelativeError (hfree _ (by decide)) (hx.grows hs₂) (hy.grows hs₂)
      (hregion.grows (hs₁.trans hs₂)) hh (hl.grows hs₂)
  | uiqi => exact of_rule hr (Marks s · true) (marked_qualityIndex hx hy hregion)
  | _ => exact absurd hm (by decide)

theorem staying_measure (hm : m ∉ Metric.composed) (hr : r.isTrue = false) (hx : Staying x) (hy : Staying y) :
    Staying (m.measure x y r region) := by
  cases m with
  | mse => exact of_rule hr Staying (staying_meanSquaredError hx hy)
  | div => exact of_rule hr Staying (staying_relativeDifference hx hy rfl)
  | bias => exact of_rule hr Staying (staying_relativeDifference hx hy rfl)
  | cc => exact of_rule hr Staying (staying_correlation hx hy)
  | cml => exact of_rule hr Staying (staying_luminanceChange hx hy)
  | cmc => exact of_rule hr Staying (staying_contrastChange hx hy)
  | _ => exact absurd (by decide) hm

theorem measure_gives (hr : r.isTrue = false) (hfree : ∀ k ∈ m.taken, region.lookup k = none)
    (hx : Marks s x p) (hy : Marks s y q) (hregion : Recorded s region) :
    ∃ mark, Marks s (m.measure x y r region) mark ∧ (m ∈ Metric.composed → mark) := by
  by_cases hm : m ∈ Metric.composed
  · exact ⟨true, marked_measure hm hr hfree hx hy hregion, fun _ => rfl⟩
  · cases m with
    | mse =>
      have hmse := gives_meanSquaredError (hfree _ (by decide)) hx hy hregion
      rw [← measureWith_of_false hr meanSquaredError] at hmse
      exact ⟨_, hmse, fun h => absurd h hm⟩
    | div => exact ⟨_, gives_measure .div hx hy hregion, fun h => absurd h hm⟩
    | bias => exact ⟨_, gives_measure .bias hx hy hregion, fun h => absurd h hm⟩
    | cc => exact ⟨_, gives_measure .cc hx hy hregion, fun h => absurd h hm⟩
    | cml => exact ⟨_, gives_measure .cml hx hy hregion, fun h => absurd h hm⟩
    | cmc => exact ⟨_, gives_measure .cmc hx hy hregion, fun h => absurd h hm⟩
    | _ => exact absurd (by decide) hm

theorem fails_measure {k : String} (hk : k ∈ m.taken) (hclash : (region.lookup k).isSome)
    (hr : r.isTrue = false) (hx : Marks s x p) (hy : Marks s y q) :
    Fails s (m.measure x y r region) .badArguments := by
  cases m with
  | mse =>
    obtain rfl : k = "reducer" := by simpa [Metric.taken] using hk
    exact of_rule hr (Fails s · .badArguments) (fails_meanSquaredError hclash hx hy)
  | rmse =>
    obtain rfl : k = "reducer" := by simpa [Metric.taken] using hk
    exact of_rule hr (Fails s · .badArguments) (fails_errorPart hclash hx hy).share
  | rase =>
    obtain rfl : k = "reducer" := by simpa [Metric.taken] using hk
    exact of_rule hr (Fails s · .badArguments) (fails_errorPart hclash hx hy).share
  | ergas =>
    refine (gives_pixelSize hx).share_fails fun l s₁ hs₁ hl => ?_
    replace hx := hx.grows hs₁
    replace hy := hy.grows hs₁
    refine (gives_pixelSize hy).share_fails fun h s₂ hs₂ hh => ?_
    rw [measureWith_of_false hr]
    split
    · exact fails_fail _
    · next hsizes =>
      obtain rfl | rfl | rfl : k = "h" ∨ k = "l" ∨ k = "reducer" := by simpa [Metric.taken] using hk
      · simp [hclash] at hsizes
      · simp [hclash] at hsizes
      · exact (fails_errorPart hclash (hx.grows hs₂) (hy.grows hs₂)).share
  | _ => cases hk

/-- The named arguments that no call of a metric on two images takes. -/
def Metric.reserved (m : Metric) : List String :=
  ["original", "modified", "cls"] ++ m.taken

theorem lookup_further_taken {named : Entries} {k : String} (hk : k ∈ m.taken) :
    (m.operation.further named).lookup k = named.lookup k := by
  have htaken : ∀ m : Metric, ∀ k ∈ m.taken, k ∉ ["original", "modified", "reproject"] := by
    intro m
    cases m <;> decide
  exact lookup_further (htaken m k hk)

/-- Whether a metric that is asked to leave the images on their pixels does so: the metrics that measure with
parts do not. -/
theorem regrids_iff_measures_parts (m : Metric) (env : Surroundings) {s : Recording} {i j : Nat} {named : Entries}
    {r : Value} (hs : s.Ordered) (hi : i < s.items.size) (hj : j < s.items.size) (hnamed : Recorded s named)
    (hnone : ∀ item ∈ s.items, item.node.regrids = false) (hr : named.lookup "reproject" = some r)
    (hfalse : r.isTrue = false) :
    ((∃ k ∈ m.reserved, (named.lookup k).isSome) →
      ∃ s', (m.operation.apply [.node i, .node j] named).outcome env s = (.error .badArguments, s')) ∧
    ((∀ k ∈ m.reserved, named.lookup k = none) →
      ∃ v s', (m.operation.apply [.node i, .node j] named).outcome env s = (.ok v, s') ∧
        ((∃ node ∈ (s'.shown v).nodes, node.regrids) ↔ m ∈ [.rmse, .rase, .ergas, .uiqi])) := by
  have hx := gives_value (R := regridding) (stands_node hi)
  have hy := gives_value (R := regridding) (stands_node hj)
  rw [apply_eq, hr, Option.getD_some]
  constructor
  · rintro ⟨k, hk, hclash⟩
    split
    · exact ⟨s, rfl⟩
    · next hfree =>
      have htaken : k ∈ m.taken := by
        rcases mem_append.mp hk with hk | hk
        · obtain rfl | rfl | rfl : k = "original" ∨ k = "modified" ∨ k = "cls" := by simpa using hk
          all_goals simp [hclash] at hfree
        · exact hk
      exact fails_measure htaken (by rwa [lookup_further_taken htaken]) hfalse hx hy env (.refl hs)
  · intro hfree
    have hown : ∀ k ∈ ["original", "modified", "cls"], named.lookup k = none := fun k hk =>
      hfree k (mem_append_left _ hk)
    have htaken : ∀ k ∈ m.taken, (m.operation.further named).lookup k = none := fun k hk =>
      (lookup_further_taken hk).trans (hfree k (mem_append_right _ hk))
    rw [hown _ (by decide), hown _ (by decide), hown _ (by decide), if_neg (by decide)]
    obtain ⟨mark, hgives, hmark⟩ := measure_gives hfalse htaken hx hy hnamed.filter
    obtain ⟨v, s', hv, hs', hstands⟩ := hgives env (.refl hs)
    refine ⟨v, s', hv, fun hregrids => ?_, fun hm => ?_⟩
    · -- A metric without parts adds no node that brings an image to other pixels.
      by_contra hm
      have hstay : Staying (m.measure (.ofValue (.node i)) (.ofValue (.node j)) r (m.operation.further named)) :=
        staying_measure hm hfalse (keeps_value _) (keeps_value _)
      have hrecorded := hstay env s hnone
      rw [hv] at hrecorded
      exact not_regrids_shown hrecorded hregrids
    · obtain ⟨n, rfl, hn, hmeaning⟩ := hstands.eq_node
      exact exists_regrids_shown hs'.ordered hn (hmeaning.trans (hmark hm))

/-- Both images stay on their pixels for the difference of the variances, for the root of the mean squared error
the reference does not, and a reducer of one's own is refused. -/
theorem stays_or_regrids_or_refused : let env : Surroundings := ⟨[], [], ⟨[], [], [], []⟩⟩
    let call (m : Metric) (named : Entries) := (m.operation.apply [.node 0, .node 1] named).outcome env twoImages
    let named : Entries := [("reproject", .bool false), ("scale", .int 30)]
    (∃ v s, call .div named = (.ok v, s) ∧ ¬∃ node ∈ (s.shown v).nodes, node.regrids) ∧
    (∃ v s, call .rmse named = (.ok v, s) ∧ ∃ node ∈ (s.shown v).nodes, node.regrids) ∧
    ∃ s, call .rmse (("reducer", .null) :: named) = (.error .badArguments, s) := by
  intro env call named
  have hall (m : Metric) (named : Entries) (hknown : Recorded twoImages named)
      (hfalse : named.lookup "reproject" = some (.bool false)) :=
    regrids_iff_measures_parts m env ordered_twoImages (i := 0) (j := 1) (by decide) (by decide) hknown
      (fun item hitem => by
        obtain ⟨kind, name, hnode⟩ := twoImages_input hitem
        rw [hnode]
        rfl) hfalse rfl
  refine ⟨?_, ?_, ?_⟩
  · obtain ⟨v, s, hv, hiff⟩ := (hall .div named (by decide) rfl).2 (by decide)
    exact ⟨v, s, hv, fun h => absurd (hiff.mp h) (by decide)⟩
  · obtain ⟨v, s, hv, hiff⟩ := (hall .rmse named (by decide) rfl).2 (by decide)
    exact ⟨v, s, hv, hiff.mpr (by decide)⟩
  · exact (hall .rmse (("reducer", .null) :: named) (by decide) rfl).1 ⟨"reducer", by decide, rfl⟩

end Calls

end Imagery

end Geoscript
