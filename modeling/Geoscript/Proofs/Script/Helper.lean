import Geoscript.Proofs.Result
import Geoscript.Proofs.Script.Definition
import Geoscript.Proofs.Script.MethodCall

/-! Helpers of a generated script. A name with a marker that is called in the result ends with the stand-in of a pass
that found something (`EndsIn`), and such a pass adds its definition, but for the one for `String`. -/

namespace Geoscript.Script
open List Text
variable {name rest t t' x y h : Text} {P : Text → Prop} {m : Method} {used : Bool} {ds : List Text}

def markers : List Text :=
  ["__ee_extra_", "__ee_extrafunc_"]

/-- A name occurs in a script with a parenthesis after it. -/
def Calls (t name : Text) : Prop :=
  name ++ ['('] <:+: t

instance (t name : Text) : Decidable (Calls t name) :=
  inferInstanceAs (Decidable (_ <:+: _))

/-- The name of a helper: a marker with a word after it. -/
def IsHelper (name : Text) : Prop :=
  ∃ marker ∈ markers, ∃ w, (∀ c ∈ w, isWord c) ∧ name = marker ++ w

/-- The names of the functions that stand for methods and global functions. -/
def standIns : List Text :=
  Method.all.map Method.standIn ++ GlobalFunction.all.map GlobalFunction.standIn

def EndsIn (P : Text → Prop) (t : Text) : Prop :=
  ∀ name, IsHelper name → Calls t name → ∃ f, P f ∧ f <:+ name

def IsStandIn (f : Text) : Prop :=
  ∃ marker ∈ markers, ∃ w, (∀ c ∈ w, isWord c) ∧ '_' ∉ w ∧ f = marker ++ w

/-! ### Names -/

/-- A name with a marker at its start that ends a name without an underscore after its marker is all of
that name. -/
theorem eq_of_suffix {marker marker' w w' : Text} (hm : marker ∈ markers) (hm' : marker' ∈ markers)
    (hw' : '_' ∉ w') (h : marker ++ w <:+ marker' ++ w') : marker ++ w = marker' ++ w' := by
  have hstart : ∀ m ∈ markers, ∃ r, m = '_' :: '_' :: r := by
    simp [markers]
  have hlater : ∀ m ∈ markers, ∀ k < 16, 0 < k → ¬['_', '_'] <+: m.drop k := by
    decide
  have hlength : ∀ m ∈ markers, m.length < 16 := by
    decide
  obtain ⟨r, rfl⟩ := hstart marker hm
  obtain ⟨l, hl⟩ := h
  rcases append_eq_append_iff.mp hl with ⟨mid, hmark, hmid⟩ | ⟨mid, -, hmid⟩
  · cases l with
    | nil => exact hl
    | cons d l =>
      have hdrop : marker'.drop (d :: l).length = mid := by
        rw [hmark, drop_left]
      have hlt : (d :: l).length < 16 := by
        have := hlength marker' hm'
        rw [hmark, length_append] at this
        omega
      have hnot := hlater marker' hm' _ hlt (by simp)
      rw [hdrop] at hnot
      rcases mid with - | ⟨e, - | ⟨f, mid⟩⟩
      · rw [nil_append] at hmid
        exact absurd (by rw [← hmid]; simp) hw'
      · simp only [cons_append, nil_append, cons.injEq] at hmid
        exact absurd (by rw [← hmid.2]; simp) hw'
      · simp only [cons_append, cons.injEq] at hmid
        obtain ⟨rfl, rfl, -⟩ := hmid
        exact absurd (by simp) hnot
  · exact absurd (by rw [hmid]; simp) hw'

theorem calls_append {f : Text} (hname : '(' ∉ name) (hf : '(' ∉ f)
    (h : Calls (f ++ '(' :: rest) name) : name <:+ f ∨ Calls rest name := by
  obtain ⟨s, e, h⟩ := h
  have h' : (s ++ name) ++ '(' :: e = f ++ '(' :: rest := by
    rw [← h]
    simp
  rcases cut_eq_or_behind hf h' with ⟨hs, -⟩ | ⟨mid, hs, hrest⟩
  · exact .inl ⟨s, hs⟩
  · obtain ⟨m, -, rfl⟩ := cut_left hname hs
    exact .inr ⟨m, e, by rw [hrest]; simp⟩

theorem eq_of_prefix_call {f : Text} (hname : '(' ∉ name) (hf : '(' ∉ f)
    (h : name ++ ['('] <+: f ++ '(' :: rest) : name = f := by
  obtain ⟨e, h⟩ := h
  rw [append_assoc, singleton_append] at h
  exact (cut_unique hf hname h).1

theorem IsHelper.word {name : Text} (h : IsHelper name) : ∀ c ∈ name, isWord c := by
  obtain ⟨marker, hm, w, hw, rfl⟩ := h
  have hmarker : ∀ m ∈ markers, m.all isWord := by
    decide
  intro c hc
  rcases mem_append.mp hc with hc | hc
  · exact all_eq_true.mp (hmarker marker hm) c hc
  · exact hw c hc

theorem IsHelper.not_mem {c : Char} (h : IsHelper name) (hc : isWord c = false) : c ∉ name :=
  fun hmem => by simp [h.word c hmem] at hc

theorem IsHelper.mark {name : Text} (h : IsHelper name) : "__ee_extra" <+: name := by
  obtain ⟨marker, hm, w, -, rfl⟩ := h
  have hmarker : ∀ m ∈ markers, "__ee_extra" <+: m := by
    decide
  exact (hmarker marker hm).trans (prefix_append marker w)

theorem IsStandIn.isHelper {f : Text} (h : IsStandIn f) : IsHelper f := by
  obtain ⟨marker, hm, w, hw, -, hf⟩ := h
  exact ⟨marker, hm, w, hw, hf⟩

theorem IsStandIn.eq_of_suffix {f : Text} (hf : IsStandIn f) (hname : IsHelper name) (h : name <:+ f) : name = f := by
  obtain ⟨marker, hm, w, -, rfl⟩ := hname
  obtain ⟨marker', hm', w', -, hw', rfl⟩ := hf
  exact Script.eq_of_suffix hm hm' hw' h

/-! ### One replacement -/

/-- A replacement that writes a call of a stand-in, and passes on only what it takes away, adds no call of
another helper. -/
theorem EndsIn.replace {P : Text → Prop} {f old passed t : Text} (h : EndsIn P t) (hf : IsStandIn f) (hPf : P f)
    (hold : old ≠ []) (hpassed : ∀ name, IsHelper name → Calls passed name → Calls old name) :
    EndsIn P (Text.replace old (f ++ '(' :: passed ++ [')']) t) := by
  intro name hname hcall
  have hparen : '(' ∉ name := hname.not_mem rfl
  have hparen' : '(' ∉ f := hf.isHelper.not_mem rfl
  have hclose : ')' ∉ name ++ ['('] := by
    simpa using hname.not_mem (c := ')') rfl
  rcases infix_replace hold hclose hcall with hcall | ⟨hocc, hcall | ⟨x, y, hxy, hy, hpre⟩⟩
  · exact h name hname hcall
  · rcases calls_append hparen hparen' hcall with hsuf | hcall
    · obtain rfl := hf.eq_of_suffix hname hsuf
      exact ⟨name, hPf, suffix_refl name⟩
    · exact h name hname ((hpassed name hname hcall).trans hocc)
  · -- the name goes over into the written call, so it ends with the stand-in
    obtain ⟨y', d, rfl⟩ : ∃ y' d, y = y' ++ [d] := ⟨_, _, (dropLast_concat_getLast hy).symm⟩
    rw [← append_assoc] at hxy
    obtain ⟨rfl, hlast⟩ := append_inj' hxy rfl
    rw [← hlast] at hpre
    have hend : y' = f := eq_of_prefix_call (fun hc => hparen (mem_append_right x hc)) hparen' hpre
    exact ⟨f, hPf, by rw [hend]; exact suffix_append x f⟩

/-! ### One pass -/

theorem EndsIn.replaceEach {f : Text} {pairs : List (Text × Text)} (h : EndsIn P t) (hf : IsStandIn f) (hPf : P f)
    (hpairs : ∀ p ∈ pairs, p.1 ≠ [] ∧ ∃ passed, p.2 = f ++ '(' :: passed ++ [')'] ∧
      ∀ name, IsHelper name → Calls passed name → Calls p.1 name) :
    EndsIn P (Text.replaceEach pairs t) := by
  induction pairs generalizing t with
  | nil => exact h
  | cons p pairs ih =>
    obtain ⟨hold, passed, hnew, hpassed⟩ := hpairs p mem_cons_self
    have hstep := h.replace hf hPf hold hpassed
    rw [← hnew] at hstep
    exact ih hstep fun q hq => hpairs q (mem_cons_of_mem p hq)

theorem Call.arguments_infix (c : Call) : c.arguments <:+: c.text := by
  have hbehind : (c.tail.dropWhile (· != '(')).drop 1 <:+ c.tail :=
    (drop_suffix _ _).trans (dropWhile_suffix _)
  have htail : c.tail <:+ c.text := ⟨c.receiver ++ ['.'], by simp [Call.text]⟩
  exact (List.dropLast_prefix _).isInfix.trans (hbehind.trans htail).isInfix

theorem Method.mem_replacements {calls : List Call} {p : Text × Text} (h : p ∈ m.replacements calls) :
    ∃ c ∈ calls, ∃ a, (a = c.arguments ∨ ∃ l, m.loneArgument = some l ∧ a = l.toList) ∧
      p = (c.text, m.standIn ++ '(' :: m.passed c a ++ [')']) := by
  obtain ⟨arg, harg, hpairs⟩ := m.replacements_eq calls
  rw [hpairs] at h
  obtain ⟨c, hc, rfl⟩ := mem_map.mp h
  exact ⟨c, hc, arg c, harg.imp (fun h => h c) fun ⟨l, hl, hconst⟩ => ⟨l, hl, hconst c⟩, rfl⟩

theorem Method.calls_passed {c : Call} {a : Text} (hname : IsHelper name)
    (h : Calls (m.passed c a) name) : Calls c.receiver name ∨ Calls a name := by
  have hcomma : ',' ∉ name ++ ['('] := by
    simpa using hname.not_mem (c := ',') rfl
  have hblank : ' ' ∉ name ++ ['('] := by
    simpa using hname.not_mem (c := ' ') rfl
  unfold Method.passed at h
  split at h
  · rw [append_assoc] at h
    rcases (infix_append_cons_iff hcomma).mp h with h | h
    · exact .inl h
    · rcases (infix_append_cons_iff (a := []) hblank).mp h with h | h
      · exact absurd (infix_nil.mp h) (by simp)
      · exact .inr h
  · exact .inl h
  · exact .inr h
  · exact .inl h

theorem Method.isStandIn (hm : m ∈ Method.all) : IsStandIn m.standIn := by
  have hall : ∀ m ∈ Method.all, m.function.toList.all isWord ∧ '_' ∉ m.function.toList := by
    decide
  exact ⟨"__ee_extra_", by decide, m.function.toList, all_eq_true.mp (hall m hm).1, (hall m hm).2, rfl⟩

theorem Method.endsIn_convert (hm : m ∈ Method.all)
    (h : EndsIn P t) (hrun : m.convert t = .ok (t', used)) (hP : used → P m.standIn) : EndsIn P t' := by
  have hlone : ∀ m ∈ Method.all, ∀ l, m.loneArgument = some l → '(' ∉ l.toList := by
    decide
  unfold Method.convert at hrun
  obtain ⟨calls, -, hrun⟩ := ok_of_bind hrun
  cases hrun
  cases calls with
  | nil => exact h
  | cons c calls =>
    refine h.replaceEach (m.isStandIn hm) (hP rfl) fun p hp => ?_
    obtain ⟨c, -, a, ha, rfl⟩ := Method.mem_replacements hp
    refine ⟨by simp [Call.text], _, rfl, fun name hname hcall => ?_⟩
    rcases Method.calls_passed hname hcall with hcall | hcall
    · exact hcall.trans ⟨[], '.' :: c.tail, rfl⟩
    · rcases ha with rfl | ⟨l, hl, rfl⟩
      · exact hcall.trans c.arguments_infix
      · exact absurd (hcall.subset (by simp)) (hlone m hm l hl)

theorem GlobalFunction.isStandIn {f : GlobalFunction} (hf : f ∈ GlobalFunction.all) : IsStandIn f.standIn := by
  have hall : ∀ f ∈ GlobalFunction.all, f.name.toList.all isWord ∧ '_' ∉ f.name.toList := by
    decide
  exact ⟨"__ee_extrafunc_", by decide, f.name.toList, all_eq_true.mp (hall f hf).1, (hall f hf).2, rfl⟩

/-- The pass for a global function keeps a script without calls, and replaces the calls one after the other
otherwise. -/
theorem GlobalFunction.convert_cases {f : GlobalFunction} (hrun : f.convert t = .ok (t', used)) :
    t' = t ∧ used = false ∨ used = f.defined ∧ ∃ arguments : List Text, t' = Text.replaceEach
      (arguments.map fun a => (f.name.toList ++ '(' :: a ++ [')'], f.standIn ++ '(' :: a ++ [')'])) t := by
  unfold GlobalFunction.convert at hrun
  obtain ⟨found, -, hrun⟩ := ok_of_bind hrun
  split at hrun
  · cases hrun
    exact .inl ⟨rfl, rfl⟩
  · cases hrun
    exact .inr ⟨rfl, distinct found, by simp [Text.replaceEach, foldl_map]⟩

/-- The pass for a global function calls its stand-in only if it says so, or is one that adds no
definition. -/
theorem GlobalFunction.endsIn_convert {f : GlobalFunction}
    (hf : f ∈ GlobalFunction.all) (h : EndsIn P t) (hrun : f.convert t = .ok (t', used))
    (hP : used = f.defined → P f.standIn) : EndsIn P t' := by
  rcases f.convert_cases hrun with ⟨rfl, -⟩ | ⟨hused, arguments, rfl⟩
  · exact h
  · refine h.replaceEach (f.isStandIn hf) (hP hused) fun p hp => ?_
    obtain ⟨a, -, rfl⟩ := mem_map.mp hp
    exact ⟨by simp, a, rfl, fun name _ hcall => hcall.trans ⟨f.name.toList ++ ['('], [')'], by simp⟩⟩

/-! ### All passes -/

/-- What is known of a pass: it adds calls of stand-ins that its definition defines and of no other helper,
apart from the stand-in for `String`, and a definition it adds defines no other helper. -/
structure Pass.Sound (p : Pass) : Prop where
  endsIn : ∀ {P : Text → Prop} {t t' : Text} {used : Bool}, p.run t = .ok (t', used) → EndsIn P t →
    P GlobalFunction.string.standIn → (used → ∀ f ∈ standIns, Defines p.definition f → P f) → EndsIn P t'
  defines : ∀ {t t' : Text}, p.run t = .ok (t', true) → ∀ name, IsHelper name → Defines p.definition name →
    name ∈ standIns ∧ name ≠ GlobalFunction.string.standIn

theorem IsHelper.eq_of_definesOnly {f d : Text} (hname : IsHelper name) (hd : DefinesOnly f d)
    (h : Defines d name) : name = f :=
  hd.2 name (hname.not_mem rfl) (hname.not_mem rfl) hname.mark h

theorem methodPasses_sound : ∀ p ∈ methodPasses, p.Sound := by
  intro p hp
  rcases mem_append.mp hp with hp | hp
  · obtain ⟨m, hm, rfl⟩ := mem_map.mp hp
    have hmem : m.standIn ∈ standIns := mem_append_left _ (mem_map_of_mem hm)
    have hd := definesOnly_all.1 m hm
    refine ⟨fun hrun h _ hP => m.endsIn_convert hm h hrun fun hused => hP hused _ hmem hd.1, ?_⟩
    intro t t' _ name hname hdef
    obtain rfl := hname.eq_of_definesOnly hd hdef
    have hother : ∀ m ∈ Method.all, m.standIn ≠ GlobalFunction.string.standIn := by
      decide
    exact ⟨hmem, hother m hm⟩
  · obtain ⟨f, hf, rfl⟩ := mem_map.mp hp
    have hmem : f.standIn ∈ standIns := mem_append_right _ (mem_map_of_mem hf)
    have hd := definesOnly_all.2 f hf
    have hother : ∀ f ∈ GlobalFunction.all, f.defined ∧ f.standIn ≠ GlobalFunction.string.standIn ∨
        f.defined = false ∧ f.standIn = GlobalFunction.string.standIn := by
      decide
    constructor
    · intro P t t' used hrun h hstring hP
      refine f.endsIn_convert hf h hrun fun hused => ?_
      rcases hother f hf with ⟨hdefined, -⟩ | ⟨-, hname⟩
      · exact hP (hused.trans hdefined) _ hmem hd.1
      · exact hname ▸ hstring
    · intro t t' hrun name hname hdef
      obtain rfl := hname.eq_of_definesOnly hd hdef
      refine ⟨hmem, ?_⟩
      rcases hother f hf with ⟨-, hname⟩ | ⟨hdefined, -⟩
      · exact hname
      · rcases f.convert_cases hrun with ⟨-, hused⟩ | ⟨hused, -⟩
        · cases hused
        · rw [hdefined] at hused
          cases hused

theorem runPasses_cons {p : Pass} {ps : List Pass} (hrun : runPasses (p :: ps) t = .ok (t', ds)) :
    ∃ t₁ used rest, p.run t = .ok (t₁, used) ∧ runPasses ps t₁ = .ok (t', rest) ∧
      ds = if used then p.definition :: rest else rest := by
  unfold runPasses at hrun
  obtain ⟨⟨t₁, used⟩, hpass, hrun⟩ := ok_of_bind hrun
  obtain ⟨⟨t₂, rest⟩, hrest, hrun⟩ := ok_of_bind hrun
  cases hrun
  exact ⟨t₁, used, rest, hpass, hrest, rfl⟩

theorem endsIn_runPasses {ps : List Pass}
    (hps : ∀ p ∈ ps, p.Sound) (hrun : runPasses ps t = .ok (t', ds)) (h : EndsIn P t)
    (hstring : P GlobalFunction.string.standIn) (hP : ∀ f ∈ standIns, ∀ d ∈ ds, Defines d f → P f) :
    EndsIn P t' := by
  induction ps generalizing t ds with
  | nil =>
    cases hrun
    exact h
  | cons p ps ih =>
    obtain ⟨t₁, used, rest, hpass, hrest, rfl⟩ := runPasses_cons hrun
    have hstep : EndsIn P t₁ := by
      refine (hps p mem_cons_self).endsIn hpass h hstring fun hused f hf hdef => ?_
      exact hP f hf p.definition (by simp [hused]) hdef
    refine ih (fun q hq => hps q (mem_cons_of_mem p hq)) hrest hstep fun f hf d hd hdef => ?_
    exact hP f hf d (by split <;> simp [hd]) hdef

theorem defines_runPasses {ps : List Pass} (hps : ∀ p ∈ ps, p.Sound)
    (hrun : runPasses ps t = .ok (t', ds)) (hname : IsHelper name) (h : ∃ d ∈ ds, Defines d name) :
    name ∈ standIns ∧ name ≠ GlobalFunction.string.standIn := by
  induction ps generalizing t ds with
  | nil =>
    cases hrun
    obtain ⟨d, hd, -⟩ := h
    cases hd
  | cons p ps ih =>
    obtain ⟨t₁, used, rest, hpass, hrest, rfl⟩ := runPasses_cons hrun
    obtain ⟨d, hd, hdef⟩ := h
    have hlater : d ∈ rest → name ∈ standIns ∧ name ≠ GlobalFunction.string.standIn := fun hd =>
      ih (fun q hq => hps q (mem_cons_of_mem p hq)) hrest ⟨d, hd, hdef⟩
    cases used with
    | false => exact hlater hd
    | true =>
      rcases mem_cons.mp hd with rfl | hd
      · exact (hps p mem_cons_self).defines hpass name hname hdef
      · exact hlater hd

/-! ### The header of a script -/

theorem convertMethods_cases (hrun : convertMethods x = .ok (y, h)) : ∃ ds, runPasses methodPasses x = .ok (y, ds) ∧
      h = join ['\n'] (if ds.isEmpty then [] else ds ++ [Definition.varName]) := by
  unfold convertMethods at hrun
  obtain ⟨⟨t, ds⟩, hpasses, hrun⟩ := ok_of_bind hrun
  cases hrun
  exact ⟨ds, hpasses, rfl⟩

theorem IsHelper.defines_header_iff (hname : IsHelper name) :
    Defines (join ['\n'] (if ds.isEmpty then [] else ds ++ [Definition.varName])) name ↔ ∃ d ∈ ds, Defines d name := by
  constructor
  · intro h
    have hline : '\n' ∉ "def " ++ name ++ ['('] := by
      simpa using hname.not_mem (c := '\n') rfl
    obtain ⟨d, hd, hdef⟩ := infix_join (by simp) hline h
    split at hd
    · cases hd
    · rcases mem_append.mp hd with hd | hd
      · exact ⟨d, hd, hdef⟩
      · obtain rfl := mem_singleton.mp hd
        obtain rfl := hname.eq_of_definesOnly defines_varName hdef
        exact absurd hname.mark (by decide)
  · rintro ⟨d, hd, hdef⟩
    have hmem : d ∈ ds ++ [Definition.varName] := mem_append_left _ hd
    rw [if_neg (by cases ds <;> simp at hd ⊢)]
    exact hdef.trans (infix_join_of_mem hmem)

theorem isStandIn_of_mem {f : Text} (hf : f ∈ standIns) : IsStandIn f := by
  rcases mem_append.mp hf with hf | hf
  · obtain ⟨m, hm, rfl⟩ := mem_map.mp hf
    exact m.isStandIn hm
  · obtain ⟨g, hg, rfl⟩ := mem_map.mp hf
    exact g.isStandIn hg

/-- A helper that the converted script calls ends with a stand-in that the header defines, or with the one
for `String`. -/
theorem endsIn_convertMethods (hx : ∀ marker ∈ markers, ¬marker <:+: x) (hrun : convertMethods x = .ok (y, h)) :
    EndsIn (fun f => f ∈ standIns ∧ (f = GlobalFunction.string.standIn ∨ Defines h f)) y := by
  obtain ⟨ds, hpasses, rfl⟩ := convertMethods_cases hrun
  refine endsIn_runPasses methodPasses_sound hpasses ?_ ⟨by decide, .inl rfl⟩ fun f hf d hd hdef => ?_
  · intro name hname hcall
    obtain ⟨marker, hm, w, -, rfl⟩ := hname
    exact absurd (IsInfix.trans ⟨[], w ++ ['('], by simp⟩ hcall) (hx marker hm)
  · exact ⟨hf, .inr ((isStandIn_of_mem hf).isHelper.defines_header_iff.mpr ⟨d, hd, hdef⟩)⟩

theorem defines_convertMethods (hrun : convertMethods x = .ok (y, h))
    (hname : IsHelper name) (hdef : Defines h name) :
    name ∈ standIns ∧ name ≠ GlobalFunction.string.standIn := by
  obtain ⟨ds, hpasses, rfl⟩ := convertMethods_cases hrun
  exact defines_runPasses methodPasses_sound hpasses hname (hname.defines_header_iff.mp hdef)

theorem defines_iff_of_calls {f : Text} (hx : ∀ marker ∈ markers, ¬marker <:+: x)
    (hrun : convertMethods x = .ok (y, h)) (hf : f ∈ standIns) (hcall : Calls y f) :
    Defines h f ↔ f ≠ GlobalFunction.string.standIn := by
  have hstand := isStandIn_of_mem hf
  refine ⟨fun hdef => (defines_convertMethods hrun hstand.isHelper hdef).2, fun hne => ?_⟩
  obtain ⟨g, ⟨hg, hdef⟩, hsuf⟩ := endsIn_convertMethods hx hrun f hstand.isHelper hcall
  obtain rfl := hstand.eq_of_suffix (isStandIn_of_mem hg).isHelper hsuf
  exact hdef.resolve_left hne

theorem defines_varName_of_calls (hrun : convertMethods x = .ok (y, h))
    (hcall : Calls h "varName") : Defines h "varName" := by
  obtain ⟨ds, -, rfl⟩ := convertMethods_cases hrun
  split at hcall
  · exact absurd (infix_nil.mp hcall) (by simp)
  · next hds =>
    rw [if_neg hds]
    exact defines_varName.1.trans (infix_join_of_mem (mem_append_right _ (mem_singleton_self _)))

/-- A script defines every helper it calls exactly if it does not call the stand-in for `String` and no
replacement has met a name in its middle. In any case each called stand-in but that one is defined, and
every other called helper ends with a stand-in. -/
theorem called_helpers_defined {x y h : Text} (hx : ∀ marker ∈ markers, ¬marker <:+: x)
    (hrun : convertMethods x = .ok (y, h)) :
    ((∀ name, IsHelper name → Calls y name → Defines h name) ↔
      ¬Calls y GlobalFunction.string.standIn ∧ ∀ name, IsHelper name → Calls y name → name ∈ standIns) ∧
    (∀ f ∈ standIns, Calls y f → (Defines h f ↔ f ≠ GlobalFunction.string.standIn)) ∧
    (∀ name, IsHelper name → Calls y name → ∃ f ∈ standIns, f <:+ name) ∧
    (Calls h "varName" → Defines h "varName") := by
  have hiff := fun f => defines_iff_of_calls (f := f) hx hrun
  refine ⟨⟨fun hall => ?_, fun ⟨hstring, hall⟩ name hname hcall => ?_⟩, hiff, fun name hname hcall => ?_,
    defines_varName_of_calls hrun⟩
  · refine ⟨fun hcall => ?_, fun name hname hcall => (defines_convertMethods hrun hname (hall name hname hcall)).1⟩
    have hmem : GlobalFunction.string.standIn ∈ standIns := by
      decide
    exact (hiff _ hmem hcall).mp (hall _ (isStandIn_of_mem hmem).isHelper hcall) rfl
  · refine (hiff name (hall name hname hcall) hcall).mpr fun heq => ?_
    exact hstring (heq ▸ hcall)
  · obtain ⟨f, ⟨hf, -⟩, hsuf⟩ := endsIn_convertMethods hx hrun name hname hcall
    exact ⟨f, hf, hsuf⟩

theorem charAt_defined_string_not : ∃ h, convertMethods "a.charAt(0) + String(b)" =
        .ok ("__ee_extra_charAt(a, 0) + __ee_extrafunc_String(b)", h) ∧
      Defines h "__ee_extra_charAt" ∧ ¬Defines h "__ee_extrafunc_String" := by
  have hfirst : (convertMethods "a.charAt(0) + String(b)").toOption.map Prod.fst =
      some "__ee_extra_charAt(a, 0) + __ee_extrafunc_String(b)" := by
    decide +kernel
  cases hrun : convertMethods "a.charAt(0) + String(b)" with
  | error e =>
    rw [hrun] at hfirst
    cases hfirst
  | ok r =>
    obtain ⟨y, h⟩ := r
    rw [hrun] at hfirst
    obtain rfl : y = _ := Option.some.inj hfirst
    have hx : ∀ marker ∈ markers, ¬marker <:+: "a.charAt(0) + String(b)" := by
      decide +kernel
    obtain ⟨-, hiff, -, -⟩ := called_helpers_defined hx hrun
    refine ⟨h, rfl, (hiff _ (by decide) (by decide +kernel)).mpr (by decide), fun hdef => ?_⟩
    exact (hiff _ (by decide) (by decide +kernel)).mp hdef rfl

end Geoscript.Script
