import Geoscript.Imagery.Platform
import Geoscript.Proofs.Graph.Ends
import Geoscript.Proofs.Text.Fields

/-! Which dataset a search ends with. For an image every dataset is compared anew, so the last one that fits is left
over; for a collection the name to compare with stays the same from the first dataset on, unless that one is an image
and there is none. -/

namespace Geoscript.Imagery
open List Geoscript.Graph Build

/-! ### Names of images -/

/-- The second name is the first without its last part, what stands before the last slash. -/
def WithoutLast (id p : String) : Prop :=
  (∃ last, '/' ∉ last ∧ id.toList = p.toList ++ '/' :: last) ∨ '/' ∉ id.toList ∧ p = ""

theorem parentName_eq_iff {id p : String} : parentName id = p ↔ WithoutLast id p := by
  have hcut {a b : Text} (hb : '/' ∉ b) (hid : id.toList = a ++ '/' :: b) : parentName id = String.ofList a := by
    rw [parentName, hid, Text.fields_append_sep, Text.fields_of_not_mem hb, dropLast_concat, Text.join_fields]
  have hwhole (hid : '/' ∉ id.toList) : parentName id = "" := by
    rw [parentName, Text.fields_of_not_mem hid]
    rfl
  constructor
  · rintro rfl
    by_cases hslash : '/' ∈ id.toList
    · obtain ⟨back, front, hid, hback⟩ := eq_append_cons_of_mem (mem_reverse.mpr hslash)
      have hid : id.toList = front.reverse ++ '/' :: back.reverse := by
        rw [← reverse_reverse id.toList, hid]
        simp
      have hlast : '/' ∉ back.reverse := fun h => hback (mem_reverse.mp h)
      exact .inl ⟨back.reverse, hlast, by rw [hcut hlast hid, String.toList_ofList, hid]⟩
    · exact .inr ⟨hslash, hwhole hslash⟩
  · rintro (⟨last, hlast, hid⟩ | ⟨hid, rfl⟩)
    · rw [hcut hlast hid, String.ofList_toList]
    · exact hwhole hid

instance (id p : String) : Decidable (WithoutLast id p) :=
  decidable_of_iff _ parentName_eq_iff

/-- A dataset fits an image if it is the collection that the image belongs to, or else the image itself. -/
def Fits (id : String) (d : Dataset) : Prop :=
  if d.kind = .collection then WithoutLast id d.id else d.id = id

instance (id : String) : DecidablePred (Fits id) := fun _ =>
  inferInstanceAs (Decidable (ite _ _ _))

/-! ### Steps and runs -/

section
variable {id : String} {kind : Option Kind} {s : Search} {d : Dataset}

theorem step_of_candidate (name : String) {v : Value} (h : nextCandidate kind v s d.kind = .ok (some (.str name))) :
    ∃ s', s.step kind v d = .ok s' ∧ s'.candidate = some (.str name) ∧
      s'.found = if d.id = name then some d.id else s.found := by
  refine ⟨_, by rw [Search.step, h]; rfl, rfl, ?_⟩
  simp only [Value.str.injEq, eq_comm]

theorem step_image (id : String) (s : Search) (d : Dataset) : ∃ s', s.step (some .image) (.str id) d = .ok s' ∧
    s'.found = if Fits id d then some d.id else s.found := by
  by_cases hkind : d.kind = .collection
  · have hfits : Fits id d ↔ d.id = parentName id := by rw [Fits, if_pos hkind, ← parentName_eq_iff, eq_comm]
    obtain ⟨s', hs', -, hfound⟩ : ∃ s', s.step (some .image) (.str id) d = .ok s' ∧ _ :=
      step_of_candidate (parentName id) (by rw [hkind]; rfl)
    exact ⟨s', hs', by simp only [hfound, hfits]⟩
  · have hfits : Fits id d ↔ d.id = id := by rw [Fits, if_neg hkind]
    obtain ⟨s', hs', -, hfound⟩ : ∃ s', s.step (some .image) (.str id) d = .ok s' ∧ _ :=
      step_of_candidate id (by
        cases hd : d.kind with
        | collection => exact absurd hd hkind
        | _ => rfl)
    exact ⟨s', hs', by simp only [hfound, hfits]⟩

theorem run_image (id : String) (ds : List Dataset) (s : Search) :
    ∃ s', ds.foldlM (Search.step (some .image) (.str id)) s = .ok s' ∧
      s'.found = ((ds.filter (Fits id)).getLast?.map (·.id)).or s.found := by
  induction ds generalizing s with
  | nil => exact ⟨s, rfl, rfl⟩
  | cons d ds ih =>
    obtain ⟨s₁, hs₁, hfound₁⟩ := step_image id s d
    obtain ⟨s', hs', hfound⟩ := ih s₁
    refine ⟨s', by rw [foldlM_cons, hs₁]; exact hs', ?_⟩
    rw [hfound, hfound₁]
    by_cases hfits : Fits id d
    · rw [filter_cons_of_pos (by simpa using hfits), getLast?_cons, if_pos hfits]
      cases (ds.filter (Fits id)).getLast? <;> rfl
    · rw [filter_cons_of_neg (by simpa using hfits), if_neg hfits]

/-- Whatever the dataset is, a collection is compared with it under the name used before. -/
theorem step_collection (hs : s.candidate = some (.str id)) (d : Dataset) :
    ∃ s', s.step (some .imageCollection) (.str id) d = .ok s' ∧ s'.candidate = some (.str id) ∧
      s'.found = if d.id = id then some d.id else s.found :=
  step_of_candidate id (by
    cases d.kind with
    | image => exact congrArg Except.ok hs
    | _ => rfl)

theorem run_collection (ds : List Dataset) (hs : s.candidate = some (.str id)) :
    ∃ s', ds.foldlM (Search.step (some .imageCollection) (.str id)) s = .ok s' ∧
      s'.found = if id ∈ ds.map (·.id) then some id else s.found := by
  induction ds generalizing s with
  | nil => exact ⟨s, rfl, rfl⟩
  | cons d ds ih =>
    obtain ⟨s₁, hs₁, hcandidate, hfound₁⟩ := step_collection hs d
    obtain ⟨s', hs', hfound⟩ := ih hcandidate
    refine ⟨s', by rw [foldlM_cons, hs₁]; exact hs', ?_⟩
    rw [hfound, hfound₁]
    by_cases hd : d.id = id
    · simp [hd]
    · simp [hd, Ne.symm hd]

theorem findPlatform_of_run {ds : List Dataset} {v : Value} (h : ds.foldlM (Search.step kind v) {} = .ok s) :
    (findPlatform ds kind v).map Platform.name = (s.found.map .ok).getD (.error .unsupportedPlatform) := by
  simp only [findPlatform, h, bind, Except.bind]
  cases s.found <;> rfl

theorem findPlatform_collection (ds : List Dataset) (h : ∀ d ∈ ds.head?, d.kind ≠ .image) :
    (findPlatform ds (some .imageCollection) (.str id)).map Platform.name =
      if id ∈ ds.map (·.id) then .ok id else .error .unsupportedPlatform := by
  obtain ⟨s, hs, hfound⟩ : ∃ s, ds.foldlM (Search.step (some .imageCollection) (.str id)) {} = .ok s ∧
      s.found = if id ∈ ds.map (·.id) then some id else none := by
    cases ds with
    | nil => exact ⟨{}, rfl, rfl⟩
    | cons d ds =>
      have hd := h d rfl
      -- The first dataset sets the name to compare with, unless it is an image.
      obtain ⟨s₁, hs₁, hcandidate, hfound₁⟩ : ∃ s₁, Search.step (some .imageCollection) (.str id) {} d = .ok s₁ ∧ _ :=
        step_of_candidate id (by
          cases hkind : d.kind with
          | image => exact absurd hkind hd
          | _ => rfl)
      obtain ⟨s, hs, hfound⟩ := run_collection ds hcandidate
      refine ⟨s, by rw [foldlM_cons, hs₁]; exact hs, ?_⟩
      rw [hfound, hfound₁]
      by_cases hid : d.id = id
      · simp [hid]
      · simp [hid, Ne.symm hid]
  rw [findPlatform_of_run hs, hfound]
  split <;> rfl

theorem findPlatform_image_first {ds : List Dataset} (h : d.kind = .image) (v : Value) :
    findPlatform (d :: ds) (some .imageCollection) v = .error .noCase := by
  have hstep : Search.step (some .imageCollection) v {} d = .error .noCase := by
    rw [Search.step, h]
    rfl
  rw [findPlatform, foldlM_cons, hstep]
  rfl

end

/-! ### The platform of a recorded object -/

section
variable {env : Surroundings} {s : Recording} {i : Nat} {item : Item} {properties : Entries} {id : String}

/-- The search is made for what the server answers about the name of the object. -/
theorem outcome_platform (hitem : s.items[i]? = some item) {v : Value}
    (hv : answer? env.info (.method i "get" [.str "system:id"] []) = some v) :
    ∃ s', s.Extends s' ∧ (platform (Term.ofValue (.node i))).outcome env s =
      (findPlatform env.catalog.datasets (some item.kind) v, s') := by
  obtain ⟨-, s', hcall, hs', j, rfl, hj⟩ := @ends_call_values env s i item "get" [.str "system:id"] hitem
  have hread : (read : Build Surroundings).outcome env s' = (.ok env, s') := rfl
  have hinfo : ((Term.ofValue (.node i)).call "get" ["system:id"]).info.outcome env s = (.ok v, s') := by
    rw [Term.info]
    refine (outcome_bind_ok hcall).trans ((outcome_bind_ok hread).trans ?_)
    have hanswer : (s'.items[j]?.bind fun item => answer? env.info item.node) = some v := by
      rw [hj]
      exact hv
    rw [outcome_get_bind, hanswer]
    rfl
  have hkind : (kindOf? (.node i)).outcome env s' = (.ok (some item.kind), s') := by
    rw [kindOf?, outcome_get_bind, hs' hitem]
    rfl
  have hobject : (Term.ofValue (.node i)).outcome env s' = (.ok (.node i), s') := rfl
  refine ⟨s', hs', ?_⟩
  rw [platform, outcome_bind_ok hinfo, outcome_bind_ok hread, outcome_bind_ok hobject, outcome_bind_ok hkind]
  cases findPlatform env.catalog.datasets (some item.kind) v <;> rfl

theorem answer_of_properties (hinfo : env.info.lookup "get" = some (.dict properties))
    (hid : properties.lookup "system:id" = some (.str id)) :
    answer? env.info (.method i "get" [.str "system:id"] []) = some (.str id) := by
  simp [answer?, hinfo, hid]

/-- The platform of an image is the last dataset that fits it. For a collection the search has no name to compare with
if the first dataset is an image, and otherwise looks for the collection itself. -/
theorem platform_is_last_fit (hitem : s.items[i]? = some item)
    (hinfo : env.info.lookup "get" = some (.dict properties))
    (hid : properties.lookup "system:id" = some (.str id)) :
    let datasets := env.catalog.datasets
    let answer := ((platform (Term.ofValue (.node i))).outcome env s).1.map Platform.name
    (item.kind = .image →
      (∀ p, answer = .ok p ↔ (datasets.filter (Fits id)).getLast?.map (·.id) = some p) ∧
        (answer = .error .unsupportedPlatform ↔ ∀ d ∈ datasets, ¬Fits id d)) ∧
    (item.kind = .imageCollection →
      (answer = .error .noCase ↔ ∃ d ∈ datasets.head?, d.kind = .image) ∧
        ((∀ d ∈ datasets.head?, d.kind ≠ .image) →
          answer = if id ∈ datasets.map (·.id) then .ok id else .error .unsupportedPlatform)) ∧
    Failure.unsupportedPlatform.message? = some "Sorry, satellite platform not supported!" := by
  intro datasets answer
  obtain ⟨s', -, hrun⟩ := outcome_platform hitem (answer_of_properties hinfo hid)
  have hanswer : answer = (findPlatform datasets (some item.kind) (.str id)).map Platform.name :=
    congrArg (fun run => run.1.map Platform.name) hrun
  refine ⟨fun hkind => ?_, fun hkind => ⟨?_, fun hfirst => ?_⟩, rfl⟩
  · obtain ⟨s', hs', hfound⟩ := run_image id datasets {}
    rw [hkind, findPlatform_of_run hs', hfound] at hanswer
    rw [hanswer]
    cases hlast : (datasets.filter (Fits id)).getLast? with
    | none =>
      refine ⟨fun p => by simp, iff_of_true rfl fun d hd hfits => ?_⟩
      have hmem : d ∈ datasets.filter (Fits id) := mem_filter.mpr ⟨hd, decide_eq_true hfits⟩
      rw [getLast?_eq_none_iff.mp hlast] at hmem
      cases hmem
    | some d =>
      have hd := mem_filter.mp (mem_of_getLast? hlast)
      refine ⟨fun p => by simp, iff_of_false (by simp) fun hnone => hnone d hd.1 (of_decide_eq_true hd.2)⟩
  · rw [hkind] at hanswer
    constructor
    · intro hcase
      by_contra hfirst
      rw [hanswer, findPlatform_collection datasets fun d hd hk => hfirst ⟨d, hd, hk⟩] at hcase
      split at hcase <;> cases hcase
    · rintro ⟨d, hd, hk⟩
      obtain ⟨ds, hds⟩ := head?_eq_some_iff.mp hd
      rw [hanswer, hds, findPlatform_image_first hk]
      rfl
  · rw [hanswer, hkind, findPlatform_collection datasets hfirst]

/-- An image that is listed itself and whose collection stands later in the catalogue. -/
theorem image_of_later_collection : let datasets : List Dataset :=
      [⟨"A/b", .image, "", "", ""⟩, ⟨"A", .collection, "", "", ""⟩, ⟨"B", .image, "", "", ""⟩]
    let env : Surroundings := ⟨[("get", .dict [("system:id", .str "A/b")])], [], ⟨datasets, [], [], []⟩⟩
    let s : Recording := { items := #[⟨.input .image "x", .image⟩] }
    ((platform (Term.ofValue (.node 0))).outcome env s).1.map Platform.name = .ok "A" := by
  intro datasets env s
  exact (((@platform_is_last_fit env s 0 ⟨.input .image "x", .image⟩ _ "A/b" rfl rfl rfl).1 rfl).1 "A").mpr (by decide)

end

end Geoscript.Imagery
