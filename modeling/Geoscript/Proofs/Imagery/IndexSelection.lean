import Geoscript.Imagery.Index
import Geoscript.Proofs.Imagery.PlatformSearch

/-! Which indices a request adds as bands, and which it selects. `Adds` says how an object was made from another by
adding bands. Every name of the request is passed on to the selection, also one that is not computed. -/

namespace Geoscript.Imagery
open List Graph Graph.Build
variable {env : Surroundings} {s s' : Recording} {r : IndexRequest} {m : BandMap} {table : Entries}
  {i x : Nat} {item : Item} {name : String} {kind : Kind} {bands : List String}

/-! ### Entries -/

section
variable {a b es : Entries} {k k' : String} {v : Value} {P : Value → Prop}

theorem lookup_isSome : (es.lookup k).isSome ↔ k ∈ es.map Prod.fst := by
  simp [lookup_isSome_iff]

theorem mem_keys_put : k' ∈ (Value.put es k v).map Prod.fst ↔ k' = k ∨ k' ∈ es.map Prod.fst := by
  induction es with
  | nil => simp [Value.put]
  | cons e es ih =>
    rw [Value.put]
    split
    · next heq => simp [heq]
    · simp only [map_cons, mem_cons, ih]
      exact or_left_comm

theorem put_of_not_mem (h : k ∉ es.map Prod.fst) : Value.put es k v = es ++ [(k, v)] := by
  induction es with
  | nil => rfl
  | cons e es ih =>
    rw [map_cons, mem_cons, not_or] at h
    rw [Value.put, if_neg fun heq => h.1 heq.symm, ih h.2, cons_append]

theorem forall_put (hes : ∀ e ∈ es, P e.2) (hv : P v) : ∀ e ∈ Value.put es k v, P e.2 := by
  induction es with
  | nil => simpa [Value.put] using hv
  | cons e es ih =>
    rw [forall_mem_cons] at hes
    rw [Value.put]
    split
    · exact forall_mem_cons.mpr ⟨hv, hes.2⟩
    · exact forall_mem_cons.mpr ⟨hes.1, ih hes.2⟩

theorem mem_keys_merge : k ∈ (Value.merge a b).map Prod.fst ↔ k ∈ a.map Prod.fst ∨ k ∈ b.map Prod.fst := by
  induction b generalizing a with
  | nil => simp [Value.merge]
  | cons e b ih =>
    have hcons : Value.merge a (e :: b) = Value.merge (Value.put a e.1 e.2) b := rfl
    rw [hcons, ih, mem_keys_put, map_cons, mem_cons]
    exact or_assoc.trans or_left_comm

theorem forall_merge (ha : ∀ e ∈ a, P e.2) (hb : ∀ e ∈ b, P e.2) : ∀ e ∈ Value.merge a b, P e.2 := by
  induction b generalizing a with
  | nil => exact ha
  | cons e b ih =>
    rw [forall_mem_cons] at hb
    exact ih (forall_put ha hb.1) hb.2

theorem merge_of_apart (hb : (b.map Prod.fst).Nodup) (h : ∀ k ∈ b.map Prod.fst, k ∉ a.map Prod.fst) :
    Value.merge a b = a ++ b := by
  induction b generalizing a with
  | nil => exact (append_nil a).symm
  | cons e b ih =>
    have hcons : Value.merge a (e :: b) = Value.merge (Value.put a e.1 e.2) b := rfl
    rw [map_cons, nodup_cons] at hb
    rw [map_cons, forall_mem_cons] at h
    rw [hcons, put_of_not_mem h.1, ih hb.2, append_assoc, singleton_append]
    intro k hk
    rw [map_append, mem_append, not_or]
    refine ⟨h.2 k hk, fun heq => hb.1 ?_⟩
    rwa [← mem_singleton.mp heq]

end

/-! ### Requests -/

namespace IndexRequest

/-- The letters that the platform or the request itself has for formulas. -/
def letterNames (r : IndexRequest) (m : BandMap) : List String :=
  m.bands.map Prod.fst ++ m.wavelengths.map Prod.fst ++ r.constants.map Prod.fst

/-- A letter, or the kernel of two letters. -/
def hasLetter (r : IndexRequest) (m : BandMap) (name : String) : Bool :=
  name ∈ r.letterNames m ∨ ∃ p ∈ kernelPairs, p.1 = name ∧ p.2.1 ∈ r.letterNames m ∧ p.2.2 ∈ r.letterNames m

/-- An index is computed if the table has it, and there is every letter that its formula needs. -/
def computes (r : IndexRequest) (m : BandMap) (table : Entries) (name : String) : Bool :=
  match table.lookup name with
  | none => false
  | some entry =>
    match entry.part (.str "bands") with
    | .ok (.list letters) => letters.all fun letter => letter.text?.any (r.hasLetter m)
    | _ => false

/-- The parameters are of the right types and pass the checks. -/
structure Admissible (r : IndexRequest) : Prop where
  checked : r.check = .ok ()
  constants : ∀ e ∈ r.constants, ∃ d, e.2.toDouble = .ok d
  names : ∀ p ∈ kernelPairs, p.1 ∉ r.constants.map Prod.fst
  kernel : ∃ k formula, r.kernel = .str k ∧ kernelFormulas.lookup k = some (.str formula)

end IndexRequest

/-- Every index of the table has a list of letters and a formula. -/
def IsIndexTable (table : Entries) : Prop :=
  ∀ name entry, table.lookup name = some entry → (∃ letters, entry.part (.str "bands") = .ok (.list letters)) ∧
    ∃ formula, entry.part (.str "formula") = .ok (.str formula)

theorem letters_of_admissible (h : ∀ e ∈ r.constants, ∃ d, e.2.toDouble = .ok d) :
    ∃ cs, r.letters = .ok cs ∧ cs.map Prod.fst = r.constants.map Prod.fst ∧ ∀ e ∈ cs, e.2 ≠ .null := by
  unfold IndexRequest.letters
  generalize r.constants = es at h ⊢
  induction es with
  | nil => exact ⟨[], rfl, rfl, fun e he => absurd he not_mem_nil⟩
  | cons e es ih =>
    rw [forall_mem_cons] at h
    obtain ⟨d, hd⟩ := h.1
    obtain ⟨cs, hcs, hkeys, hvalues⟩ := ih h.2
    refine ⟨(e.1, .float d) :: cs, ?_, by rw [map_cons, map_cons, hkeys], forall_mem_cons.mpr ⟨by simp, hvalues⟩⟩
    simp only [mapM_cons, hcs, hd]
    rfl

/-- What a request is carried out with: the letters of the platform, the constants and a table of indices. -/
structure Prepared (r : IndexRequest) (m : BandMap) (platform : String) (constants table : Entries) : Prop where
  admissible : r.Admissible
  keys : constants.map Prod.fst = r.constants.map Prod.fst
  values : ∀ e ∈ constants, e.2 ≠ .null
  bands : BandMap.all.lookup platform = some m
  table : IsIndexTable table

/-! ### Letters -/

theorem ends_object (request : String) (vs : List Value) (hitem : s.items[i]? = some item) :
    Ends env s ((Term.ofValue (.node i)).call request (vs.map Term.ofValue)) fun _ v => v ≠ .null := by
  refine (ends_call_values request vs hitem).imp fun s' v _ hv => ?_
  obtain ⟨j, rfl, -⟩ := hv
  simp

theorem ends_lettersFor (hitem : s.items[i]? = some item) (hm : BandMap.all.lookup name = some m) :
    Ends env s (lettersFor (Term.ofValue (.node i)) (.str name)) fun _ es =>
      es.map Prod.fst = m.bands.map Prod.fst ++ m.wavelengths.map Prod.fst ∧ ∀ e ∈ es, e.2 ≠ .null := by
  have hlookup : lettersFor (Term.ofValue (.node i)) (.str name) = m.lookup (Term.ofValue (.node i)) := by
    simp only [lettersFor, Value.text?, Option.bind_some, hm]
  rw [hlookup, BandMap.lookup]
  refine (ends_evalNamed (fun _ v => v ≠ .null) Prod.fst fun p _ s₁ hs₁ => ?_).bind fun s₁ es _ hes => ends_pure ?_
  · exact ends_object "select" [.str p.2] (hs₁ hitem)
  · refine ⟨by simp [hes.1], fun e he => ?_⟩
    rcases mem_append.mp he with he | he
    · obtain ⟨p, -, -, hletter⟩ := hes.2 e he
      exact hletter
    · obtain ⟨d, -, rfl⟩ := mem_map.mp he
      simp

/-- A kernel is asked for if both letters are there, and is nothing otherwise. -/
theorem ends_kernelImage {letters : Entries} (hr : r.Admissible) (hitem : s.items[i]? = some item) (a b : String) :
    Ends env s (kernelImage (Term.ofValue (.node i)) letters r.kernel r.sigma (.str a) (.str b)) fun _ v =>
      v ≠ .null ↔ a ∈ letters.map Prod.fst ∧ b ∈ letters.map Prod.fst := by
  simp only [← lookup_isSome]
  unfold kernelImage
  simp only [entryAt?, Value.text?, Option.bind_some]
  cases letters.lookup a with
  | none => exact ends_pure (by simp)
  | some va =>
    cases letters.lookup b with
    | none => exact ends_pure (by simp)
    | some vb =>
      obtain ⟨k, formula, hkernel, hformula⟩ := hr.kernel
      have hpart : Value.part (.dict kernelFormulas) r.kernel = .ok (.str formula) := by
        rw [hkernel, Value.part, hformula]
      refine Ends.bind (Q := fun _ _ => True) ?_ fun s₁ sigma hs₁ _ => ?_
      · cases r.sigma with
        | str formula => exact (ends_object "expression" [.str formula, .dict _] hitem).imp fun _ _ _ _ => trivial
        | _ => exact ends_pure trivial
      · refine Ends.bind (Q := fun _ _ => True) (ends_lift hpart trivial) fun s₂ formula hs₂ _ => ?_
        refine (ends_object "expression" [formula, .dict _] (hs₂ (hs₁ hitem))).imp fun _ v _ hv => ?_
        exact iff_of_true hv ⟨rfl, rfl⟩

theorem ends_kernelLetters {letters : Entries} (hr : r.Admissible) (hitem : s.items[i]? = some item) :
    Ends env s (kernelLetters (Term.ofValue (.node i)) letters r.kernel r.sigma) fun _ es =>
      es.map Prod.fst = kernelPairs.map Prod.fst ∧ ∀ e ∈ es, ∃ p ∈ kernelPairs, p.1 = e.1 ∧
        (e.2 ≠ .null ↔ p.2.1 ∈ letters.map Prod.fst ∧ p.2.2 ∈ letters.map Prod.fst) :=
  ends_evalNamed (fun (p : String × String × String) v => v ≠ .null ↔ p.2.1 ∈ letters.map Prod.fst ∧
    p.2.2 ∈ letters.map Prod.fst) Prod.fst fun p _ _ hs₁ => ends_kernelImage hr (hs₁ hitem) p.2.1 p.2.2

/-! ### The letters of a request -/

theorem kernelPairs_apart (hm : BandMap.all.lookup name = some m) :
    ∀ p ∈ kernelPairs, p.1 ∉ m.bands.map Prod.fst ++ m.wavelengths.map Prod.fst := by
  have hkernels : ∀ p ∈ kernelPairs, p.1.toList.head? = some 'k' := by
    decide
  have hletters : ∀ e ∈ BandMap.all, ∀ k ∈ e.2.bands.map Prod.fst ++ e.2.wavelengths.map Prod.fst,
      k.toList.head? ≠ some 'k' := by
    decide +kernel
  obtain ⟨l₁, l₂, hall, -⟩ := lookup_eq_some_iff.mp hm
  intro p hp hmem
  exact hletters (name, m) (by rw [hall]; simp) p.1 hmem (hkernels p hp)

theorem hasLetter_iff {base kernels : Entries} (hbase : ∀ k, k ∈ base.map Prod.fst ↔ k ∈ r.letterNames m)
    (hletters : ∀ e ∈ base, e.2 ≠ .null) (hapart : ∀ p ∈ kernelPairs, p.1 ∉ r.letterNames m)
    (hkeys : kernels.map Prod.fst = kernelPairs.map Prod.fst)
    (hkernels : ∀ e ∈ kernels, ∃ p ∈ kernelPairs, p.1 = e.1 ∧
      (e.2 ≠ .null ↔ p.2.1 ∈ base.map Prod.fst ∧ p.2.2 ∈ base.map Prod.fst)) (k : String) :
    k ∈ (dropNull (Value.merge base kernels)).map Prod.fst ↔ r.hasLetter m k := by
  have hone : ∀ p ∈ kernelPairs, ∀ q ∈ kernelPairs, p.1 = q.1 → p = q := by
    decide
  have hmerge : Value.merge base kernels = base ++ kernels := by
    refine merge_of_apart (hkeys ▸ by decide) fun k hk hmem => ?_
    rw [hkeys] at hk
    obtain ⟨p, hp, rfl⟩ := mem_map.mp hk
    exact hapart p hp ((hbase p.1).mp hmem)
  have hdrop : dropNull (Value.merge base kernels) = base ++ dropNull kernels := by
    rw [hmerge, dropNull, filter_append, filter_eq_self.mpr fun e he => by simpa using hletters e he]
    rfl
  simp only [hbase] at hkernels
  rw [hdrop, map_append, mem_append, hbase, IndexRequest.hasLetter, decide_eq_true_iff]
  -- Of the kernels those of two letters are left over.
  refine or_congr_right ⟨fun hk => ?_, ?_⟩
  · obtain ⟨e, he, rfl⟩ := mem_map.mp hk
    obtain ⟨he, hnull⟩ := mem_filter.mp he
    obtain ⟨p, hp, hname, hvalue⟩ := hkernels e he
    exact ⟨p, hp, hname, hvalue.mp (by simpa using hnull)⟩
  · rintro ⟨p, hp, rfl, hboth⟩
    have hmem : p.1 ∈ kernels.map Prod.fst := hkeys ▸ mem_map_of_mem hp
    obtain ⟨e, he, hname⟩ := mem_map.mp hmem
    obtain ⟨q, hq, hqname, hvalue⟩ := hkernels e he
    obtain rfl := hone q hq p hp (hqname.trans hname)
    exact mem_map.mpr ⟨e, mem_filter.mpr ⟨he, by simpa using hvalue.mpr hboth⟩, hname⟩

theorem hasLetters_eq {letters : Entries} {entry : Value} (htable : IsIndexTable table)
    (hentry : table.lookup name = some entry) (h : ∀ k, k ∈ letters.map Prod.fst ↔ r.hasLetter m k) :
    IndexRequest.hasLetters entry letters = .ok (r.computes m table name) := by
  obtain ⟨bands, hbands⟩ := (htable name entry hentry).1
  simp only [IndexRequest.hasLetters, IndexRequest.computes, hentry, hbands, Value.items, bind, Except.bind, pure,
    Except.pure, Except.ok.injEq]
  refine congrArg bands.all (funext fun band => ?_)
  rw [entryAt?]
  cases band.text? with
  | none => rfl
  | some k =>
    rw [Option.bind_some, Option.any_some, Bool.eq_iff_iff, lookup_isSome, h]

/-! ### Added bands -/

/-- The node is recorded at the place. -/
def NodeAt (s : Recording) (i : Nat) (node : Node) : Prop :=
  s.items[i]?.map Item.node = some node

/-- The second object is made from the first by adding bands with these names, one after the other: to an image itself,
or to each image of a collection by a function. -/
inductive Adds (s : Recording) : Nat → Nat → List String → Prop
  | none (i : Nat) : Adds s i i []
  | band {i j k b e : Nat} {names : List String} {name : String} (h : Adds s i j names)
      (hband : NodeAt s b (.method e "rename" [.str name] [])) (hnew : NodeAt s k (.method j "addBands" [.node b] [])) :
      Adds s i k (names ++ [name])
  | each {i j k f d p b : Nat} {names added : List String} (h : Adds s i j names) (hp : NodeAt s p (.parameter d 0))
      (hbody : Adds s p b added) (hf : NodeAt s f (.function d 1 (.node b)))
      (hnew : NodeAt s k (.method j "map" [.node f] [])) : Adds s i k (names ++ added)

theorem nodeAt_of_item (h : s.items[i]? = some item) : NodeAt s i item.node := by
  rw [NodeAt, h, Option.map_some]

theorem NodeAt.mono {node : Node} (h : NodeAt s i node) (hs : s.Extends s') : NodeAt s' i node := by
  obtain ⟨item, hitem, rfl⟩ := Option.map_eq_some_iff.mp h
  exact nodeAt_of_item (hs hitem)

theorem Adds.mono (h : Adds s x i bands) (hs : s.Extends s') : Adds s' x i bands := by
  induction h with
  | none i => exact .none i
  | band _ hband hnew ih => exact .band ih (hband.mono hs) (hnew.mono hs)
  | each _ hp _ hf hnew ih ihbody => exact .each ih (hp.mono hs) ihbody (hf.mono hs) (hnew.mono hs)

/-- An object of the kind is recorded that was made from the first by adding bands. -/
structure Made (s : Recording) (x i : Nat) (kind : Kind) (bands : List String) : Prop where
  recorded : ∃ item, s.items[i]? = some item ∧ item.kind = kind
  adds : Adds s x i bands

theorem Made.mono (h : Made s x i kind bands) (hs : s.Extends s') : Made s' x i kind bands := by
  obtain ⟨item, hitem, hkind⟩ := h.recorded
  exact ⟨⟨item, hs hitem, hkind⟩, h.adds.mono hs⟩

theorem ends_addBand {formula letters : Value} (h : Made s x i kind bands) (name : String) :
    Ends env s ((Term.ofValue (.node i)).call "addBands" [((Term.ofValue (.node i)).call "expression"
        [Term.ofValue formula, Term.ofValue letters]).call "rename" [Term.ofValue (.str name)]]) fun s' v =>
      ∃ j, v = .node j ∧ Made s' x j kind (bands ++ [name]) := by
  obtain ⟨item, hitem, rfl⟩ := h.recorded
  have hargs : Ends env s (evalAll [((Term.ofValue (.node i)).call "expression" [Term.ofValue formula,
      Term.ofValue letters]).call "rename" [Term.ofValue (.str name)]]) fun s' vs =>
        ∃ b e, vs = [.node b] ∧ NodeAt s' b (.method e "rename" [.str name] []) := by
    refine Ends.bind (Q := fun s' v => ∃ b e, v = .node b ∧ NodeAt s' b (.method e "rename" [.str name] [])) ?_ ?_
    · refine (ends_call_values "expression" [formula, letters] hitem).call fun s₁ v _ hv => ?_
      obtain ⟨e, rfl, he⟩ := hv
      refine (ends_call_values "rename" [.str name] he).imp fun s₂ v _ hv => ?_
      obtain ⟨b, rfl, hb⟩ := hv
      exact ⟨b, e, rfl, nodeAt_of_item hb⟩
    · rintro s₁ v - ⟨b, e, rfl, hb⟩
      exact ends_pure ⟨b, e, rfl, hb⟩
  refine (ends_call "addBands" hitem hargs).imp fun s' v hs' hv => ?_
  obtain ⟨s₁, vs, j, hs₁, ⟨b, e, rfl, hb⟩, rfl, hj⟩ := hv
  exact ⟨j, rfl, ⟨_, hj, rfl⟩, .band (h.adds.mono hs') (hb.mono hs₁) (nodeAt_of_item hj)⟩

section
variable {constants : Entries} {platform : String}

/-- One index adds its band if it is computed, and nothing otherwise. -/
theorem ends_addIndex {entry : Value} (hr : Prepared r m platform constants table)
    (hentry : table.lookup name = some entry) (h : Made s x i kind bands) :
    Ends env s (r.addIndex platform name constants entry (Term.ofValue (.node i))) fun s' v =>
      ∃ j, v = .node j ∧ Made s' x j kind (bands ++ [name].filter (r.computes m table)) := by
  obtain ⟨item, hitem, -⟩ := h.recorded
  have hapart : ∀ p ∈ kernelPairs, p.1 ∉ r.letterNames m := by
    intro p hp hmem
    rcases mem_append.mp hmem with hmem | hmem
    · exact kernelPairs_apart hr.bands p hp hmem
    · exact hr.admissible.names p hp hmem
  refine (ends_lettersFor hitem hr.bands).bind fun s₁ es hs₁ hes => ?_
  have hbase (k : String) : k ∈ (Value.merge es constants).map Prod.fst ↔ k ∈ r.letterNames m := by
    rw [mem_keys_merge, hes.1, hr.keys]
    exact mem_append.symm
  have hletters : ∀ e ∈ Value.merge es constants, e.2 ≠ .null :=
    forall_merge (P := fun v => v ≠ .null) hes.2 hr.values
  refine (ends_kernelLetters hr.admissible (hs₁ hitem)).bind fun s₂ ks hs₂ hks => ?_
  have hhas := hasLetters_eq hr.table hentry (hasLetter_iff hbase hletters hapart hks.1 hks.2)
  have h₂ := h.mono (hs₁.trans hs₂)
  refine Ends.bind (Q := fun s' b => s' = s₂ ∧ b = r.computes m table name) (ends_lift hhas ⟨rfl, rfl⟩) ?_
  rintro s₃ b - ⟨rfl, rfl⟩
  by_cases hcomputes : r.computes m table name
  · obtain ⟨formula, hformula⟩ := (hr.table name entry hentry).2
    rw [hcomputes, filter_cons_of_pos hcomputes, filter_nil]
    refine Ends.bind (Q := fun s' _ => s' = s₃) (ends_lift hformula rfl) ?_
    rintro s₄ formula - rfl
    exact ends_addBand h₂ name
  · rw [Bool.not_eq_true] at hcomputes
    rw [hcomputes, filter_cons_of_neg (by simp [hcomputes]), filter_nil, append_nil]
    exact (ends_modify rfl).bind fun s₄ _ hs₄ _ => ends_pure ⟨i, rfl, h₂.mono hs₄⟩

/-- A function of images passes on what its body adds to its parameter. -/
theorem ends_lambda {f : Term → Term} {added : List String}
    (hf : ∀ p s₁, Made s₁ p p .parameter [] → Ends env s₁ (f (Term.ofValue (.node p))) fun s' v =>
      ∃ b, v = .node b ∧ Made s' p b .parameter added) :
    Ends env s (Term.lambda f) fun s' v => ∃ k d p b, v = .node k ∧ NodeAt s' p (.parameter d 0) ∧ Adds s' p b added ∧
      NodeAt s' k (.function d 1 (.node b)) := by
  refine Ends.bind (Q := fun s' s'' => s = s' ∧ s = s'') ⟨s, s, rfl, .refl s, rfl, rfl⟩ ?_
  rintro s₁ s₂ - ⟨rfl, rfl⟩
  refine (ends_modify rfl).bind fun s₁ _ _ _ => ?_
  refine Ends.bind (Q := fun s' vs => ∃ p, vs = [.node p] ∧
    s'.items[p]? = some ⟨.parameter s.depth 0, .parameter⟩) ?_ ?_
  · refine (ends_intern _).bind fun s₂ v _ hv => ends_pure ?_
    obtain ⟨p, rfl, hp⟩ := hv
    exact ⟨p, rfl, hp⟩
  · rintro s₂ vs - ⟨p, rfl, hp⟩
    refine (hf p s₂ ⟨⟨_, hp, rfl⟩, .none p⟩).bind fun s₃ v hs₃ hv => ?_
    obtain ⟨b, rfl, hb⟩ := hv
    refine (ends_modify rfl).bind fun s₄ _ hs₄ _ => (ends_intern _).imp fun s₅ v hs₅ hv => ?_
    obtain ⟨k, rfl, hk⟩ := hv
    exact ⟨k, s.depth, p, b, rfl, (nodeAt_of_item hp).mono (hs₃.trans (hs₄.trans hs₅)), hb.adds.mono (hs₄.trans hs₅),
      nodeAt_of_item hk⟩

/-- One name of the request, for an image or for a collection. -/
theorem ends_step (hr : Prepared r m platform constants table) (hkind : kind = .image ∨ kind = .imageCollection)
    (h : Made s x i kind bands) (name : String) :
    Ends env s (r.step platform constants table (Term.ofValue (.node i)) (.str name)) fun s' t =>
      ∃ j, t = Term.ofValue (.node j) ∧ Made s' x j kind (bands ++ [name].filter (r.computes m table)) := by
  obtain ⟨item, hitem, hitemkind⟩ := h.recorded
  rw [IndexRequest.step, Value.text?, Option.bind_some]
  cases hentry : table.lookup name with
  | none =>
    have hnot : r.computes m table name = false := by rw [IndexRequest.computes, hentry]
    rw [filter_cons_of_neg (by simp [hnot]), filter_nil, append_nil]
    exact (ends_modify rfl).bind fun s₁ _ hs₁ _ => ends_pure ⟨i, rfl, h.mono hs₁⟩
  | some entry =>
    refine Ends.bind (Q := fun s' v => ∃ j, v = .node j ∧
      Made s' x j kind (bands ++ [name].filter (r.computes m table))) ?_ ?_
    · have hkindOf : (kindOf? (.node i)).outcome env s = (.ok (some kind), s) := by
        rw [kindOf?, outcome_get_bind, hitem, ← hitemkind]
        rfl
      have hobject : (Term.ofValue (.node i)).outcome env s = (.ok (.node i), s) := rfl
      rw [Ends, eachImage, outcome_bind_ok hobject, outcome_bind_ok hkindOf]
      rcases hkind with rfl | rfl
      · exact ends_addIndex hr hentry h
      · have hargs : Ends env s (evalAll [Term.lambda (r.addIndex platform name constants entry)]) fun s' vs =>
            ∃ k d p b, vs = [.node k] ∧ NodeAt s' p (.parameter d 0) ∧
              Adds s' p b ([] ++ [name].filter (r.computes m table)) ∧ NodeAt s' k (.function d 1 (.node b)) := by
          refine (ends_lambda fun p s₁ hp => ends_addIndex hr hentry hp).bind fun s₁ v _ hv => ends_pure ?_
          obtain ⟨k, d, p, b, rfl, hv⟩ := hv
          exact ⟨k, d, p, b, rfl, hv⟩
        refine (ends_call "map" hitem hargs).imp fun s' v hs' hv => ?_
        obtain ⟨s₁, vs, j, hs₁, ⟨k, d, p, b, rfl, hp, hbody, hfunction⟩, rfl, hj⟩ := hv
        exact ⟨j, rfl, ⟨_, hj, hitemkind⟩, .each (h.adds.mono hs') (hp.mono hs₁) (hbody.mono hs₁) (hfunction.mono hs₁)
          (nodeAt_of_item hj)⟩
    · rintro s₁ v - ⟨j, rfl, hj⟩
      exact ends_pure ⟨j, rfl, hj⟩

/-- All names of the request, one after the other. -/
theorem ends_steps (hr : Prepared r m platform constants table) (hkind : kind = .image ∨ kind = .imageCollection)
    (h : Made s x i kind bands) (names : List String) :
    Ends env s ((names.map Value.str).foldlM (r.step platform constants table) (Term.ofValue (.node i))) fun s' t =>
      ∃ j, t = Term.ofValue (.node j) ∧ Made s' x j kind (bands ++ names.filter (r.computes m table)) := by
  induction names generalizing s i bands with
  | nil => exact ends_pure ⟨i, rfl, by simpa using h⟩
  | cons name names ih =>
    rw [map_cons, foldlM_cons]
    refine (ends_step hr hkind h name).bind fun s₁ t _ ht => ?_
    obtain ⟨j, rfl, hj⟩ := ht
    have hlast := @ih s₁ j _ hj
    rwa [append_assoc, ← filter_append, singleton_append] at hlast

end

/-! ### The selection -/

/-- The computation only looks things up. -/
def Looks {α : Type} (env : Surroundings) (b : Build α) : Prop :=
  ∃ answer, ∀ s, b.outcome env s = (answer, s)

theorem Looks.bind {α β : Type} {b : Build α} {f : α → Build β} (hb : Looks env b) (hf : ∀ a, Looks env (f a)) :
    Looks env (b >>= f) := by
  obtain ⟨answer, hanswer⟩ := hb
  cases answer with
  | error e => exact ⟨.error e, fun s => outcome_bind_error (hanswer s)⟩
  | ok a =>
    obtain ⟨answer', hanswer'⟩ := hf a
    exact ⟨answer', fun s => (outcome_bind_ok (hanswer s)).trans (hanswer' s)⟩

theorem looks_lift {α : Type} (e : Except Failure α) : Looks env (lift e) := by
  cases e <;> exact ⟨_, fun _ => rfl⟩

theorem looks_fetchDocument (address : String) : Looks env (fetchDocument address) := by
  have hfetch : Looks env (fetch address) := by
    refine Looks.bind ⟨.ok env, fun _ => rfl⟩ fun env' => ?_
    cases env'.pages.lookup address <;> exact ⟨_, fun _ => rfl⟩
  refine hfetch.bind fun page => ?_
  cases Value.Json.read? page.toList <;> exact ⟨_, fun _ => rfl⟩

theorem looks_indexTable (env : Surroundings) (online : Value) : Looks env (indexTable online) := by
  unfold indexTable
  cases online.isTrue with
  | false => exact Looks.bind ⟨.ok env, fun _ => rfl⟩ fun _ => Looks.bind ⟨.ok _, fun _ => rfl⟩ fun _ => looks_lift _
  | true => exact (looks_fetchDocument _).bind fun _ => looks_lift _

/-- The table of a catalogue is in order. -/
theorem isIndexTable_catalog (indices : List SpectralIndex) :
    IsIndexTable (indices.map fun i => (i.name, Catalog.indexView i)) := by
  intro name entry h
  obtain ⟨l₁, l₂, heq, -⟩ := lookup_eq_some_iff.mp h
  have hmem : (name, entry) ∈ indices.map fun i => (i.name, Catalog.indexView i) := by
    rw [heq]
    simp
  obtain ⟨i, -, hi⟩ := mem_map.mp hmem
  obtain ⟨-, rfl⟩ := Prod.mk.inj hi
  exact ⟨⟨_, rfl⟩, _, rfl⟩

theorem canonical_texts (ts : List String) : Value.canonicalList (ts.map .str) = ts.map .str := by
  induction ts with
  | nil => rfl
  | cons t ts ih => simp [Value.canonicalList, Value.canonical, ih]

/-- With `drop` the bands of all names are selected. These are the bands that were added, one for each name that can be
computed, exactly if every name can. -/
theorem selection_is_computed_iff {p : Platform} {names : List String} (hitem : s.items[i]? = some item)
    (hkind : item.kind = .image ∨ item.kind = .imageCollection)
    (hplatform : ((platform (Term.ofValue (.node i))).outcome env s).1 = .ok p)
    (hm : BandMap.all.lookup p.name = some m) (hr : r.Admissible) (hindex : r.index = .list (names.map .str))
    (hdrop : r.drop.isTrue) (htable : ((indexTable r.online).outcome env s).1 = .ok (.dict table))
    (hwell : IsIndexTable table) :
    ∃ j o s', (spectralIndices r (Term.ofValue (.node i))).outcome env s = (.ok (.node j), s') ∧
      NodeAt s' j (.method o "select" [.list (names.map .str)] []) ∧
      Adds s' i o (names.filter (r.computes m table)) ∧
      (names = names.filter (r.computes m table) ↔ ∀ name ∈ names, r.computes m table name) := by
  have hanswer : ∃ v, answer? env.info (.method i "get" [.str "system:id"] []) = some v := by
    simp only [answer?, if_true]
    split <;> exact ⟨_, rfl⟩
  obtain ⟨v, hv⟩ := hanswer
  obtain ⟨s₁, hs₁, hrun⟩ := outcome_platform hitem hv
  rw [hrun] at hplatform
  rw [show findPlatform _ _ _ = .ok p from hplatform] at hrun
  obtain ⟨looked, hlooked⟩ := looks_indexTable env r.online
  rw [hlooked s] at htable
  obtain rfl : looked = .ok (.dict table) := htable
  obtain ⟨cs, hcs, hkeys, hvalues⟩ := letters_of_admissible hr.constants
  obtain ⟨-, s₂, ho, -, o, rfl, hmade⟩ :=
    @ends_steps env s₁ r m table i i item.kind [] cs p.name ⟨hr, hkeys, hvalues, hm, hwell⟩ hkind
      ⟨⟨item, hs₁ hitem, rfl⟩, .none i⟩ names
  obtain ⟨last, hlast, -⟩ := hmade.recorded
  obtain ⟨-, s', hj, hs', j, rfl, hnew⟩ := @ends_call_values env s₂ o last "select" [.list (names.map .str)] hlast
  refine ⟨j, o, s', ?_, ?_, hmade.adds.mono hs', eq_comm.trans filter_eq_self⟩
  · have hlift {α : Type} (a : α) : (lift (.ok a)).outcome env s₁ = (.ok a, s₁) := rfl
    rw [spectralIndices, outcome_bind_ok hrun, hr.checked, outcome_bind_ok (hlift ()), hcs, outcome_bind_ok (hlift cs),
      outcome_bind_ok (hlooked s₁), Value.entries, outcome_bind_ok (hlift table), hindex, IndexRequest.wanted,
      outcome_bind_ok (hlift _), outcome_bind_ok ho, if_pos hdrop]
    exact hj
  · rw [NodeAt, hnew, Value.canonicalList, Value.canonical, canonical_texts]
    rfl

/-- A name that no index has is selected, though no band was added for it. -/
theorem unknown_name_selected :
    let ndvi : SpectralIndex := ⟨"NDVI", "NDVI", "", "vegetation", ["N", "R"], "(N - R)/(N + R)", [], "", "", ""⟩
    let catalog : Catalog := ⟨[⟨"COPERNICUS/S2_SR", .collection, "", "", ""⟩], [], [ndvi], []⟩
    let env : Surroundings := ⟨[("get", .dict [("system:id", .str "COPERNICUS/S2_SR/a")])], [], catalog⟩
    let s : Recording := { items := #[⟨.input .image "x", .image⟩] }
    let r : IndexRequest :=
      { index := .list (["NDVI", "FOO"].map .str), constants := [], kernel := .str "RBF", sigma := .str "a + b",
        p := .int 2, c := .int 1, online := .bool false, drop := .bool true }
    ∃ j o s', (spectralIndices r (Term.ofValue (.node 0))).outcome env s = (.ok (.node j), s') ∧
      NodeAt s' j (.method o "select" [.list (["NDVI", "FOO"].map .str)] []) ∧ Adds s' 0 o ["NDVI"] := by
  intro ndvi catalog env s r
  have hr : r.Admissible := ⟨rfl, by simp [r], by simp [r], _, _, rfl, rfl⟩
  have hplatform : ((platform (Term.ofValue (.node 0))).outcome env s).1 = .ok ⟨"COPERNICUS/S2_SR", true⟩ := by
    obtain ⟨s', -, hrun⟩ := @outcome_platform env s 0 ⟨.input .image "x", .image⟩ rfl (.str "COPERNICUS/S2_SR/a") rfl
    rw [hrun]
    cbv
  obtain ⟨j, o, s', hrun, hselect, hadds, -⟩ :=
    @selection_is_computed_iff env s r .sentinel2 _ 0 _ _ ["NDVI", "FOO"] rfl (.inl rfl) hplatform rfl hr rfl rfl rfl
      (isIndexTable_catalog [ndvi])
  exact ⟨j, o, s', hrun, hselect, hadds⟩

end Geoscript.Imagery
