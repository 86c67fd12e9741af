import Geoscript.Imagery.Metric
import Geoscript.Proofs.Graph.Meaning

/-! What the metrics by band ask for: each rule of `Geoscript/Imagery/Metric.lean`, repeated on the objects of a
reading, without recording. -/

namespace Geoscript.Imagery
open List Graph Graph.Reading Graph.Recording
variable {M : Type}

/-- The metrics whose values are put under the names of the bands of the reference. -/
inductive BandMetric where
  | div
  | bias
  | cc
  | cml
  | cmc
  | uiqi

def BandMetric.metric : BandMetric → Metric
  | div => .div
  | bias => .bias
  | cc => .cc
  | cml => .cml
  | cmc => .cmc
  | uiqi => .uiqi

/-! ### Steps on meanings -/

namespace Steps
variable (R : Reading M) (region : Entries)

def ask (object : M) (name : String) (args : List (Operand M)) : M :=
  R.of (.method object name args [])

def service (function : String) (args : List (Operand M)) : M :=
  R.of (.call ("ee." ++ function) args [])

def number (i : Int) : Operand M := .plain (.int i)

def reduced (image : M) (by_ : String) : M :=
  R.of (.method image "reduceRegion" [.object (service R ("Reducer." ++ by_) [])] (Value.canonicalEntries region))

def array (dictionary : M) : M :=
  service R "Array" [.object (ask R dictionary "values" [])]

def reducedArray (image : M) (by_ : String) : M :=
  array R (reduced R region image by_)

def perBand (image array : M) : M :=
  service R "Dictionary.fromLists" [.object (ask R image "bandNames" []), .object (ask R array "toList" [])]

def onPixelsOf (reference modified : M) : M :=
  ask R (ask R reference "resample" [.plain (.str "bilinear")]) "reproject" [.object (ask R modified "projection" [])]

def oneLess (quotient : M) : M :=
  ask R (ask R quotient "multiply" [number (-1)]) "add" [number 1]

def relativeDifference (by_ : String) (x y : M) : M :=
  perBand R x (oneLess R
    (ask R (reducedArray R region y by_) "divide" [.object (reducedArray R region x by_)]))

def means (x : M) : M :=
  service R "Image.constant" [.object (ask R (reduced R region x "mean") "values" [])]

def centred (x : M) : M :=
  ask R x "subtract" [.object (means R region x)]

def correlation (x y : M) : M :=
  let a := centred R region x
  let b := centred R region y
  let squares (z : M) : M := reducedArray R region (ask R z "pow" [number 2]) "sum"
  perBand R x (ask R (reducedArray R region (ask R a "multiply" [.object b]) "sum") "divide"
    [.object (ask R (ask R (squares a) "multiply" [.object (squares b)]) "sqrt" [])])

def twice (product : M) : M :=
  ask R product "multiply" [number 2]

def luminanceChange (x y : M) : M :=
  let p := reducedArray R region x "mean"
  let q := reducedArray R region y "mean"
  perBand R x (ask R (twice R (ask R p "multiply" [.object q])) "divide"
    [.object (ask R (ask R p "pow" [number 2]) "add" [.object (ask R q "pow" [number 2])])])

def contrastChange (x y : M) : M :=
  let deviation (z : M) : M := reducedArray R region z "stdDev"
  let variance (z : M) : M := reducedArray R region z "variance"
  perBand R x (ask R (twice R (ask R (deviation x) "multiply" [.object (deviation y)])) "divide"
    [.object (ask R (variance x) "add" [.object (variance y)])])

def qualityIndex (x y : M) : M :=
  let x' := onPixelsOf R x y
  perBand R x (ask R (ask R (array R (correlation R region x' y)) "multiply"
    [.object (array R (luminanceChange R region x' y))]) "multiply" [.object (array R (contrastChange R region x' y))])

def rule : BandMetric → M → M → M
  | .div => relativeDifference R region "variance"
  | .bias => relativeDifference R region "mean"
  | .cc => correlation R region
  | .cml => luminanceChange R region
  | .cmc => contrastChange R region
  | .uiqi => qualityIndex R region

def start (reproject : Value) (x y : M) : M :=
  if reproject.isTrue then onPixelsOf R x y else x

end Steps

/-! ### What the rules give -/

variable {R : Reading M} {s : Recording} {x y : Term} {p q : M} {region : Entries} {by_ : String}

/-- The values of named arguments refer to recorded nodes. -/
def Recorded (s : Recording) (region : Entries) : Prop :=
  ∀ j ∈ Value.referencesEntries region, j < s.items.size

instance : Decidable (Recorded s region) :=
  inferInstanceAs (Decidable (∀ j ∈ Value.referencesEntries region, j < s.items.size))

theorem Recorded.grows {s' : Recording} (h : Recorded s region) (hs : s.Grows s') : Recorded s' region :=
  fun j hj => hs.lt (h j hj)

theorem gives_one (name : String) (hx : R.Gives s x (.object p)) {t : Term} {o : Operand M} (ht : R.Gives s t o) :
    R.Gives s (x.call name [t]) (.object (Steps.ask R p name [o])) :=
  hx.call (.cons ht .nil)

theorem gives_none (name : String) (hx : R.Gives s x (.object p)) :
    R.Gives s (x.call name []) (.object (Steps.ask R p name [])) :=
  hx.call .nil

theorem gives_reducer (by_ : String) : R.Gives s (reducer by_) (.object (Steps.service R ("Reducer." ++ by_) [])) :=
  gives_server ("Reducer." ++ by_) .nil

theorem gives_reduced (hx : R.Gives s x (.object p)) (hr : Recorded s region) :
    R.Gives s (reduced x by_ region) (.object (Steps.reduced R region p by_)) :=
  hx.callWith (.cons (gives_reducer by_) .nil) (givesNamed_values hr) (by rintro _ rfl; rfl)

theorem gives_array (hx : R.Gives s x (.object p)) :
    R.Gives s (server "Array" [x.call "values" []]) (.object (Steps.array R p)) :=
  gives_server "Array" (.cons (gives_none "values" hx) .nil)

theorem gives_reducedArray (hx : R.Gives s x (.object p)) (hr : Recorded s region) :
    R.Gives s (reducedArray x by_ region) (.object (Steps.reducedArray R region p by_)) :=
  gives_array (gives_reduced hx hr)

theorem gives_perBand (hx : R.Gives s x (.object p)) (hy : R.Gives s y (.object q)) :
    R.Gives s (perBand x y) (.object (Steps.perBand R p q)) :=
  gives_server "Dictionary.fromLists" (.cons (gives_none "bandNames" hx) (.cons (gives_none "toList" hy) .nil))

theorem gives_onPixelsOf (hx : R.Gives s x (.object p)) (hy : R.Gives s y (.object q)) :
    R.Gives s (onPixelsOf x y) (.object (Steps.onPixelsOf R p q)) :=
  gives_one "reproject" (gives_one "resample" hx (gives_str "bilinear")) (gives_none "projection" hy)

/-! ### Measuring -/

def RuleGives (R : Reading M) (region : Entries) (rule : Term → Term → Entries → Term) (f : M → M → M) : Prop :=
  ∀ {s : Recording} {x y : Term} {p q : M}, R.Gives s x (.object p) → R.Gives s y (.object q) →
    Recorded s region → R.Gives s (rule x y region) (.object (f p q))

theorem gives_relativeDifference :
    RuleGives R region (relativeDifference by_) (Steps.relativeDifference R region by_) := by
  intro s x y p q hx hy hr
  refine (gives_reducedArray hx hr).share fun first s₁ hs₁ hfirst => ?_
  refine (gives_reducedArray (hy.grows hs₁) (hr.grows hs₁)).share fun second s₂ hs₂ hsecond => ?_
  have hquotient := gives_one "divide" hsecond (hfirst.grows hs₂)
  have hdifference := gives_one "add" (gives_one "multiply" hquotient (gives_int (-1))) (gives_int 1)
  refine Gives.share hdifference fun difference s₃ hs₃ hdifference => ?_
  exact gives_perBand (((hx.grows hs₁).grows hs₂).grows hs₃) hdifference

theorem gives_means (hx : R.Gives s x (.object p)) (hr : Recorded s region) :
    R.Gives s (server "Image.constant" [(reduced x "mean" region).call "values" []])
      (.object (Steps.means R region p)) :=
  gives_server "Image.constant" (.cons (gives_none "values" (gives_reduced hx hr)) .nil)

theorem gives_correlation : RuleGives R region correlation (Steps.correlation R region) := by
  intro s x y p q hx hy hr
  refine (gives_means hx hr).share fun xbar s₁ hs₁ hxbar => ?_
  replace hx := hx.grows hs₁
  replace hy := hy.grows hs₁
  refine (gives_means hy (hr.grows hs₁)).share fun ybar s₂ hs₂ hybar => ?_
  replace hx := hx.grows hs₂
  refine (gives_one "subtract" hx (hxbar.grows hs₂)).share fun a s₃ hs₃ ha => ?_
  have hb := gives_one "subtract" (hy.grows (hs₂.trans hs₃)) (hybar.grows hs₃)
  refine hb.share fun b s₄ hs₄ hb => ?_
  replace ha := ha.grows hs₄
  have hr₄ := hr.grows (hs₁.trans (hs₂.trans (hs₃.trans hs₄)))
  refine (gives_reducedArray (gives_one "multiply" ha hb) hr₄).share fun x1 s₅ hs₅ hx1 => ?_
  have hr₅ := hr₄.grows hs₅
  refine (gives_reducedArray (gives_one "pow" (ha.grows hs₅) (gives_int 2)) hr₅).share fun x2 s₆ hs₆ hx2 => ?_
  have hsquares := gives_one "pow" (hb.grows (hs₅.trans hs₆)) (gives_int 2)
  refine (gives_reducedArray hsquares (hr₅.grows hs₆)).share fun x3 s₇ hs₇ hx3 => ?_
  have hroot := gives_none "sqrt" (gives_one "multiply" (hx2.grows hs₇) hx3)
  refine (gives_one "divide" (hx1.grows (hs₆.trans hs₇)) hroot).share fun cc s₈ hs₈ hcc => ?_
  exact gives_perBand (hx.grows (hs₃.trans (hs₄.trans (hs₅.trans (hs₆.trans (hs₇.trans hs₈)))))) hcc

theorem gives_luminanceChange : RuleGives R region luminanceChange (Steps.luminanceChange R region) := by
  intro s x y p q hx hy hr
  refine (gives_reducedArray hx hr).share fun xbar s₁ hs₁ hxbar => ?_
  refine (gives_reducedArray (hy.grows hs₁) (hr.grows hs₁)).share fun ybar s₂ hs₂ hybar => ?_
  replace hxbar := hxbar.grows hs₂
  have hproduct := gives_one "multiply" (gives_one "multiply" hxbar hybar) (gives_int 2)
  have hsquares := gives_one "add" (gives_one "pow" hxbar (gives_int 2)) (gives_one "pow" hybar (gives_int 2))
  refine (gives_one "divide" hproduct hsquares).share fun change s₃ hs₃ hchange => ?_
  exact gives_perBand (hx.grows (hs₁.trans (hs₂.trans hs₃))) hchange

theorem gives_contrastChange : RuleGives R region contrastChange (Steps.contrastChange R region) := by
  intro s x y p q hx hy hr
  refine (gives_reducedArray hx hr).share fun xvar s₁ hs₁ hxvar => ?_
  replace hx := hx.grows hs₁
  replace hy := hy.grows hs₁
  replace hr := hr.grows hs₁
  refine (gives_reducedArray hy hr).share fun yvar s₂ hs₂ hyvar => ?_
  replace hx := hx.grows hs₂
  replace hr := hr.grows hs₂
  refine (gives_reducedArray hx hr).share fun xsd s₃ hs₃ hxsd => ?_
  refine (gives_reducedArray (hy.grows (hs₂.trans hs₃)) (hr.grows hs₃)).share fun ysd s₄ hs₄ hysd => ?_
  have hproduct := gives_one "multiply" (gives_one "multiply" (hxsd.grows hs₄) hysd) (gives_int 2)
  have hsum := gives_one "add" (hxvar.grows (hs₂.trans (hs₃.trans hs₄))) (hyvar.grows (hs₃.trans hs₄))
  refine (gives_one "divide" hproduct hsum).share fun change s₅ hs₅ hchange => ?_
  exact gives_perBand (hx.grows (hs₃.trans (hs₄.trans hs₅))) hchange

variable {rule : Term → Term → Entries → Term} {f : M → M → M} {reproject : Value}

theorem gives_measureWith (hrule : RuleGives R region rule f) : RuleGives R region
    (measureWith rule · · reproject ·) fun p q => f (Steps.start R reproject p q) q := by
  intro s x y p q hx hy hr
  unfold measureWith Steps.start
  cases reproject.isTrue with
  | true =>
    refine (gives_onPixelsOf hx hy).share fun x' s₁ hs₁ hx' => ?_
    exact hrule hx' (hy.grows hs₁) (hr.grows hs₁)
  | false => exact hrule hx hy hr

theorem gives_measurePart (hrule : RuleGives R region rule f) :
    RuleGives R region (measurePart rule) fun p q => f (Steps.onPixelsOf R p q) q :=
  gives_measureWith hrule

theorem gives_qualityIndex : RuleGives R region qualityIndex (Steps.qualityIndex R region) := by
  intro s x y p q hx hy hr
  refine (gives_measurePart gives_correlation hx hy hr).share fun cc s₁ hs₁ hcc => ?_
  replace hx := hx.grows hs₁
  replace hy := hy.grows hs₁
  replace hr := hr.grows hs₁
  refine (gives_measurePart gives_contrastChange hx hy hr).share fun cmc s₂ hs₂ hcmc => ?_
  replace hx := hx.grows hs₂
  replace hcc := hcc.grows hs₂
  refine (gives_measurePart gives_luminanceChange hx (hy.grows hs₂) (hr.grows hs₂)).share fun cml s₃ hs₃ hcml => ?_
  have hproduct := gives_one "multiply" (gives_one "multiply" (gives_array (hcc.grows hs₃)) (gives_array hcml))
    (gives_array (hcmc.grows hs₃))
  refine hproduct.share fun product s₄ hs₄ hproduct => ?_
  exact gives_perBand (hx.grows (hs₃.trans hs₄)) hproduct

theorem gives_measure (m : BandMetric) : RuleGives R region (m.metric.measure · · reproject ·)
    fun p q => Steps.rule R region m (Steps.start R reproject p q) q := by
  cases m with
  | div => exact gives_measureWith gives_relativeDifference
  | bias => exact gives_measureWith gives_relativeDifference
  | cc => exact gives_measureWith gives_correlation
  | cml => exact gives_measureWith gives_luminanceChange
  | cmc => exact gives_measureWith gives_contrastChange
  | uiqi => exact gives_measureWith gives_qualityIndex

/-! ### Calls -/

theorem lookup_filter {α : Type} {keep : String × α → Bool} {k : String} (hk : ∀ v, keep (k, v))
    (es : List (String × α)) : (es.filter keep).lookup k = es.lookup k := by
  induction es with
  | nil => rfl
  | cons e es ih =>
    obtain ⟨l, v⟩ := e
    by_cases hl : k = l
    · rw [filter_cons_of_pos (hl ▸ hk v), hl, lookup_cons_self, lookup_cons_self]
    · have hne : (k == l) = false := by simpa using hl
      rw [filter_cons]
      split
      · rw [lookup_cons, lookup_cons, hne, ih]
      · rw [lookup_cons, hne, ih]

theorem Recorded.filter {keep : String × Value → Bool} (h : Recorded s region) : Recorded s (region.filter keep) := by
  induction region with
  | nil => exact h
  | cons e es ih =>
    obtain ⟨l, v⟩ := e
    have hes := ih fun j hj => h j (mem_append_right _ hj)
    rw [filter_cons]
    split
    · intro j hj
      exact (mem_append.mp hj).elim (fun hj => h j (mem_append_left _ hj)) (hes j)
    · exact hes

theorem lookup_further {m : Metric} {named : Entries} {k : String} (hk : k ∉ ["original", "modified", "reproject"]) :
    (m.operation.further named).lookup k = named.lookup k := by
  refine lookup_filter (fun v => ?_) named
  simp only [mem_cons, not_mem_nil, or_false, not_or] at hk
  simp [Metric.operation, Parameter.required, Parameter.optional, Ne.symm hk.1, Ne.symm hk.2.1, Ne.symm hk.2.2]

theorem apply_eq {m : Metric} {named : Entries} {a b : Value} : m.operation.apply [a, b] named =
      if (named.lookup "original").isSome || (named.lookup "modified").isSome || (named.lookup "cls").isSome then
        fail .badArguments
      else m.measure (.ofValue a) (.ofValue b) ((named.lookup "reproject").getD (.bool true))
        (m.operation.further named) := by
  have hcls : (m.operation.further named).lookup "cls" = named.lookup "cls" :=
    lookup_further (by decide)
  have hbind : bindAll m.operation.parameters [a, b] named =
      if (named.lookup "original").isSome || (named.lookup "modified").isSome then none
      else some [a, b, (named.lookup "reproject").getD (.bool true)] := by
    simp only [Metric.operation, Parameter.required, Parameter.optional, bindAll, bindRest]
    cases named.lookup "original" <;> cases named.lookup "modified" <;> cases named.lookup "reproject" <;> rfl
  rw [Operation.apply, hbind]
  cases named.lookup "original" <;> cases named.lookup "modified" <;> try rfl
  show (if ((m.operation.further named).lookup "cls").isSome then fail .badArguments else _) = _
  rw [hcls]
  rfl

def twoImages : Recording where
  items := #[⟨.input .image "a", .image⟩, ⟨.input .image "b", .image⟩]

theorem twoImages_input {item : Item} (h : item ∈ twoImages.items) : ∃ kind name, item.node = .input kind name := by
  simp only [twoImages, mem_toArray, mem_cons, not_mem_nil, or_false] at h
  rcases h with rfl | rfl
  · exact ⟨_, _, rfl⟩
  · exact ⟨_, _, rfl⟩

theorem ordered_twoImages : twoImages.Ordered := by
  intro i item hi j hj
  obtain ⟨kind, name, hnode⟩ := twoImages_input (Array.mem_of_getElem? hi)
  rw [hnode] at hj
  cases hj

end Geoscript.Imagery
