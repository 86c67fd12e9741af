import Geoscript.Proofs.Pattern.Scan
import Geoscript.Proofs.Script.Parens
import Geoscript.Proofs.Text.Cut
import Geoscript.Script.Method.Global

/-! Calls of global functions. Whatever the order in which the calls are replaced, a script only gets marks in front of
names (`Marked`), and no mark is met where none was put in. -/

namespace Geoscript.Text
open List hiding count
variable {mark old t u v w y : Text} {c : Char}

/-! ### Marks in a text -/

/-- The second text is the first with copies of the mark put in. -/
inductive Marked (mark : Text) : Text → Text → Prop
  | nil : Marked mark [] []
  | keep (c : Char) {t y : Text} (h : Marked mark t y) : Marked mark (c :: t) (c :: y)
  | insert {t y : Text} (h : Marked mark t y) : Marked mark t (mark ++ y)

/-- No mark stands in the text, and none can start in it and end behind it. -/
structure Apart (mark w : Text) : Prop where
  inside : ¬mark <:+: w
  edge : ∀ v, v ≠ [] → v <:+ w → ¬v <+: mark

theorem Apart.of_suffix (h : Apart mark w) (hv : v <:+ w) : Apart mark v where
  inside hmark := h.inside (hmark.trans hv.isInfix)
  edge x hx hsuffix := h.edge x hx (hsuffix.trans hv)

theorem Marked.append_left (u : Text) (h : Marked mark t y) : Marked mark (u ++ t) (u ++ y) := by
  induction u with
  | nil => exact h
  | cons c u ih => exact ih.keep c

theorem Marked.refl (mark t : Text) : Marked mark t t := by
  simpa using Marked.nil.append_left t

theorem Marked.cut (h : Marked mark t (w ++ y)) (hw : Apart mark w) : ∃ r, t = w ++ r ∧ Marked mark r y := by
  induction w generalizing t with
  | nil => exact ⟨t, rfl, h⟩
  | cons c w ih =>
    generalize hz : c :: w ++ y = z at h
    cases h with
    | nil => cases hz
    | keep d h =>
      obtain ⟨rfl, rfl⟩ := cons.inj hz
      obtain ⟨r, rfl, hr⟩ := ih h (hw.of_suffix (suffix_cons c w))
      exact ⟨r, rfl, hr⟩
    | insert h =>
      -- The mark would be met inside of the piece or at its end.
      rcases prefix_or_prefix_of_prefix ⟨_, rfl⟩ ⟨y, hz⟩ with hpre | hpre
      · exact absurd hpre.isInfix hw.inside
      · exact absurd hpre (hw.edge _ (cons_ne_nil c w) (suffix_refl _))

/-- Deleting the marks gives the text back, if it does not have the mark up to its last character. -/
theorem Marked.erase {d : Char} (h : Marked (c :: w ++ [d]) t y) (hw : Apart (c :: w ++ [d]) w)
    (ht : ¬c :: w <:+: t) : replace (c :: w ++ [d]) [] y = t := by
  have hmark : c :: w ++ [d] ≠ [] := by simp
  generalize hm : c :: w ++ [d] = mark at *
  induction h with
  | nil => exact replace_nil hmark
  | @keep b t y h ih =>
    have hmiss : ¬mark <+: b :: y := by
      rintro ⟨z, hz⟩
      rw [← hm, append_assoc, cons_append] at hz
      obtain ⟨rfl, rfl⟩ := cons.inj hz
      obtain ⟨r, rfl, -⟩ := h.cut hw
      exact ht ⟨[], r, rfl⟩
    rw [replace_cons hmark hmiss, ih fun hwithin => ht (hwithin.trans (suffix_cons b t).isInfix)]
  | insert h ih => rw [replace_append hmark, nil_append, ih ht]

/-- One replacement puts in further marks. -/
theorem Marked.replace (h : Marked mark t y) (hmark : mark ≠ []) (hold : Apart mark old) (hne : old ≠ [])
    (hfirst : ∀ c ∈ old.head?, c ∉ mark) : Marked mark t (replace old (mark ++ old) y) := by
  induction hn : y.length using Nat.strongRecOn generalizing t y with
  | ind n ih =>
    cases h with
    | nil =>
      rw [replace_nil hne]
      exact .nil
    | @keep c t y h =>
      by_cases hpre : old <+: c :: y
      · obtain ⟨z, hz⟩ := hpre
        rw [← hz] at hn ⊢
        obtain ⟨r, hr, hmarked⟩ := Marked.cut (w := old) (y := z) (hz ▸ h.keep c) hold
        rw [replace_append hne, append_assoc, hr]
        have hlength : z.length < n := by
          have hpos : 0 < old.length := length_pos_iff.mpr hne
          rw [← hn, length_append]
          omega
        exact ((ih _ hlength hmarked rfl).append_left old).insert
      · rw [replace_cons hne hpre]
        exact (ih _ (by rw [← hn]; simp) h rfl).keep c
    | @insert t y h =>
      have hborder : ∀ x z, x ≠ [] → z ≠ [] → x <:+ mark → z <+: y → x ++ z ≠ old := by
        rintro x z hx - hsuffix - rfl
        refine hfirst (x.head hx) ?_ (hsuffix.subset (head_mem hx))
        rw [Option.mem_def, head?_append, head?_eq_some_head hx]
        rfl
      have hnone : ¬old <:+: mark := fun hwithin =>
        hfirst (old.head hne) (head?_eq_some_head hne) (hwithin.subset (head_mem hne))
      have hlength : y.length < n := by
        have hpos : 0 < mark.length := length_pos_iff.mpr hmark
        rw [← hn, length_append]
        omega
      rw [replace_append_of_border hne hborder, replace_of_not_occurs hne hnone]
      exact (ih _ hlength h rfl).insert

end Geoscript.Text

namespace Geoscript.Script
open List hiding count all
open Text Pattern
variable {name t u v w a : Text} {f : GlobalFunction}

/-! ### Where arguments end -/

theorem untilClosed_zero_cases (v : Text) : (∃ a r, untilClosed 0 v = .ok a ∧ v = a ++ ')' :: r ∧ ¬NeverClosed v) ∨
      untilClosed 0 v = .error .outOfRange ∧ NeverClosed v := by
  rcases staysOpen_or Int.one_pos v with hopen | ⟨a, r, rfl, ha, hone⟩
  · exact .inr ⟨hopen.untilClosed_eq, neverClosed_iff.mpr hopen⟩
  · refine .inl ⟨a, r, ha.untilClosed_closed (by omega) r, rfl, fun hnever => ?_⟩
    have hlast := neverClosed_iff.mp hnever (a ++ [')']) ⟨r, by simp⟩
    simp [parenSurplus] at hlast hone
    omega

/-- The arguments of all calls are read, or one of the calls is never closed. -/
theorem mapM_untilClosed_cases (vs : List Text) :
    (∃ found, vs.mapM (untilClosed 0) = .ok found ∧ (∀ v ∈ vs, ¬NeverClosed v) ∧ ∀ a ∈ found, ∃ v ∈ vs, a <+: v) ∨
      vs.mapM (untilClosed 0) = .error .outOfRange ∧ ∃ v ∈ vs, NeverClosed v := by
  induction vs with
  | nil => exact .inl ⟨[], rfl, fun _ h => absurd h not_mem_nil, fun _ h => absurd h not_mem_nil⟩
  | cons v vs ih =>
    rw [mapM_cons]
    rcases untilClosed_zero_cases v with ⟨a, r, hok, rfl, hclosed⟩ | ⟨herror, hnever⟩
    · rcases ih with ⟨found, hfound, hall, hmem⟩ | ⟨herror, w, hw, hnever⟩
      · refine .inl ⟨a :: found, by rw [hok, hfound]; rfl, forall_mem_cons.mpr ⟨hclosed, hall⟩, ?_⟩
        refine forall_mem_cons.mpr ⟨⟨_, mem_cons_self, prefix_append a _⟩, fun b hb => ?_⟩
        obtain ⟨w, hw, hpre⟩ := hmem b hb
        exact ⟨w, mem_cons_of_mem _ hw, hpre⟩
      · exact .inr ⟨by rw [hok, herror]; rfl, w, mem_cons_of_mem _ hw, hnever⟩
    · exact .inr ⟨by rw [herror]; rfl, v, mem_cons_self, hnever⟩

/-- A call of a global function opens in a script, and the text stands behind its parenthesis. -/
def CallOpens (name t v : Text) : Prop :=
  ∃ u, t = u ++ (name ++ '(' :: v) ∧ ∀ c ∈ u.getLast?, isWord c = false ∧ c ≠ '.'

def beforeCall : CharSet := ⟨[.word, .char '.'], false⟩

theorem beforeCall_has (c : Char) : beforeCall.has c = false ↔ isWord c = false ∧ c ≠ '.' := by
  simp [beforeCall, CharSet.has, CharClass.covers]

def callHits (name : Text) : Option Char → Text → Bool :=
  fun prev t => !prev.any beforeCall.has && (name ++ ['(']).isPrefixOf t

theorem callHits_iff {prev : Option Char} :
    callHits name prev t ↔ prev.any beforeCall.has = false ∧ name ++ ['('] <+: t := by
  simp only [callHits, Bool.and_eq_true, Bool.not_eq_true', isPrefixOf_iff_prefix]

theorem fixed_globalCall (name : Text) : (globalCall name).Fixed (callHits name) (name ++ ['(']).length := by
  refine .of_matcher (by simp) (fun _ t h => (callHits_iff.mp h).2.length_le) fun calls c => ⟨[], fun k => ?_⟩
  show matcher calls .forward (.seq (.notBehind (.one beforeCall)) (.lit (name ++ ['(']))) c [] k = _
  rw [matcher_seq, matcher_notBehind, matcher_lit]
  by_cases h : callHits name c.before.head? c.after
  · obtain ⟨hbehind, hname⟩ := callHits_iff.mp h
    rw [if_pos h, ← prefix_iff_eq_take.mp hname, if_pos (List.isPrefixOf_iff_prefix.mpr hname), hbehind]
    rfl
  · rw [if_neg h]
    split
    · rfl
    · next hbehind =>
      rw [if_neg fun hname => h (callHits_iff.mpr ⟨by simpa using hbehind, isPrefixOf_iff_prefix.mp hname⟩)]

theorem over_of_globalCall {depth : Nat} {moving : Bool} {c : Cursor} {m : Match}
    (hm : (globalCall name).matchAt depth moving c = some m) :
    c.before.head?.any beforeCall.has = false ∧ c.Over (name ++ ['(']) m.stop := by
  obtain ⟨hhit, x, hx, hstop⟩ := (fixed_globalCall name).matched hm
  obtain ⟨hbehind, hpre⟩ := callHits_iff.mp hhit
  have heq : name ++ ['('] = x := by
    rw [hstop.after] at hpre
    exact (prefix_of_prefix_length_le hpre (prefix_append x _) (Nat.le_of_eq hx.symm)).eq_of_length hx.symm
  exact ⟨hbehind, heq ▸ hstop⟩

theorem mem_calls_iff (hname : '(' ∉ name) :
    (∃ m ∈ (globalCall name).occurrences t, m.stop.after = v) ↔ CallOpens name t v := by
  have hbefore {u : Text} {c : Cursor} (hu : (Cursor.start t).Over u c) :
      c.before.head?.any beforeCall.has = false ↔ ∀ d ∈ u.getLast?, isWord d = false ∧ d ≠ '.' := by
    have hhead : c.before.head? = u.getLast? := by rw [hu.before, Cursor.start, append_nil, head?_reverse]
    simp [hhead, Option.any_eq_false, beforeCall_has]
  constructor
  · rintro ⟨m, hm, rfl⟩
    obtain ⟨u, depth, moving, hu, hmatch⟩ := mem_occurrences hm
    obtain ⟨hbehind, hstop⟩ := over_of_globalCall hmatch
    refine ⟨u, ?_, (hbefore hu).mp hbehind⟩
    rw [show t = u ++ m.start.after from hu.after, hstop.after]
    simp
  · rintro ⟨u, ht, hu⟩
    obtain ⟨c, hc, hafter⟩ := Cursor.exists_over (c := .start t) (u := u) ht
    have hhit : callHits name c.before.head? c.after :=
      callHits_iff.mpr ⟨(hbefore hc).mpr hu, v, by rw [hafter]; simp⟩
    obtain ⟨m, hm⟩ := Option.isSome_iff_exists.mp ((fixed_globalCall name).found (t.length + 1) false hhit)
    refine ⟨m, ?_, ?_⟩
    · rw [occurrences]
      refine mem_matchesFrom_of_matchAt hc hm (fun x w c₁ m₁ hcut hw hc₁ hm₁ => ?_) ?_
      · -- A call that ended behind the start of this one would end inside of its name.
        have hafter₁ : name ++ ['('] ++ m₁.stop.after = w ++ (name ++ '(' :: v) := by
          have hboth : x ++ (w ++ (name ++ '(' :: v)) = x ++ c₁.after := by
            rw [← append_assoc, ← hcut, ← ht]
            exact hc₁.after
          rw [append_cancel_left hboth, (over_of_globalCall hm₁).2.after]
        rcases append_eq_append_iff.mp hafter₁ with ⟨y, rfl, -⟩ | ⟨y, hy, hrest⟩
        · exact ⟨_, y, by simp, rfl, (over_of_globalCall hm₁).2⟩
        · rcases eq_nil_or_concat y with rfl | ⟨y, d, rfl⟩
          · exact ⟨_, [], by simp, by rw [append_nil, hy, append_nil], (over_of_globalCall hm₁).2⟩
          · rw [concat_eq_append, ← append_assoc] at hy
            obtain ⟨rfl, hd⟩ := append_inj' hy rfl
            obtain ⟨rfl, -⟩ := cons.inj hd
            have hy' := (cut_unique (fun h => hname (mem_append_right w h)) hname (by simpa using hrest)).1
            exact absurd (append_left_eq_self.mp hy') hw
      · rw [ht]
        simp
        omega
    · have hstop := (over_of_globalCall hm).2.after
      rw [hafter] at hstop
      simpa using hstop.symm

/-! ### Replacing the calls -/

theorem apart_stem : Apart "__ee_extrafunc_" "_ee_extrafunc" := by
  have hdrops : ∀ n < 13, ("_ee_extrafunc".toList.drop n).isPrefixOf "__ee_extrafunc_".toList = false := by
    decide
  refine ⟨fun h => absurd h.length_le (by decide), fun v hv hsuffix hpre => ?_⟩
  have hpos : 0 < v.length := length_pos_iff.mpr hv
  have heq : v = "_ee_extrafunc".toList.drop (13 - v.length) := suffix_iff_eq_drop.mp hsuffix
  rw [heq, ← isPrefixOf_iff_prefix, hdrops _ (by omega)] at hpre
  cases hpre

theorem globalArguments_eq (hplain : isPlain name) (t : Text) :
    globalArguments name t = (((globalCall name).occurrences t).map (·.stop.after)).mapM (untilClosed 0) := by
  rw [globalArguments, globalMatches, if_pos hplain, mapM_map]
  rfl

theorem globalArguments_cases (hplain : isPlain name) (hname : '(' ∉ name) (t : Text) :
    (∃ found, globalArguments name t = .ok found ∧ (∀ v, CallOpens name t v → ¬NeverClosed v) ∧ ∀ a ∈ found, a <:+: t) ∨
      globalArguments name t = .error .outOfRange ∧ ∃ v, CallOpens name t v ∧ NeverClosed v := by
  have hmem (v : Text) : v ∈ ((globalCall name).occurrences t).map (·.stop.after) ↔ CallOpens name t v :=
    mem_map.trans (mem_calls_iff hname)
  rw [globalArguments_eq hplain]
  rcases mapM_untilClosed_cases (((globalCall name).occurrences t).map (·.stop.after)) with
    ⟨found, hfound, hall, harguments⟩ | ⟨herror, v, hv, hnever⟩
  · refine .inl ⟨found, hfound, fun v hv => hall v ((hmem v).mpr hv), fun a ha => ?_⟩
    obtain ⟨v, hv, hpre⟩ := harguments a ha
    obtain ⟨u, rfl, -⟩ := (hmem v).mp hv
    exact hpre.isInfix.trans ⟨u ++ (name ++ ['(']), [], by simp⟩
  · exact .inr ⟨herror, v, (hmem v).mp hv, hnever⟩

namespace GlobalFunction

/-- Replaces the calls with the given arguments, one after the other. -/
def replaceCalls (f : GlobalFunction) (arguments : List Text) (t : Text) : Text :=
  replaceEach (arguments.map fun a => (f.name.toList ++ '(' :: (a ++ [')']), f.standIn ++ '(' :: (a ++ [')']))) t

theorem convert_eq {found : List Text} (h : globalArguments f.name.toList t = .ok found) :
    f.convert t = .ok (f.replaceCalls (distinct found) t, f.defined && !found.isEmpty) := by
  have hempty : distinct found = [] ↔ found = [] := by
    simp only [eq_nil_iff_forall_not_mem, mem_distinct]
  unfold convert
  simp only [h, bind, Except.bind]
  split
  · next hnone => simp [hempty.mp hnone, replaceCalls, replaceEach, distinct, pure, Except.pure]
  · next hsome =>
    have hfound : found.isEmpty = false := by
      simpa using fun h => hsome (hempty.mpr h)
    simp [hfound, replaceCalls, replaceEach, foldl_map, pure, Except.pure]

/-- Replacing the calls in any order puts marks in, if no argument has the mark. -/
theorem marked_replaceCalls (hf : f ∈ GlobalFunction.all) {arguments : List Text}
    (harguments : ∀ a ∈ arguments, ¬"__ee_extrafunc_" <:+: a) (h : Marked "__ee_extrafunc_" t u) :
    Marked "__ee_extrafunc_" t (f.replaceCalls arguments u) := by
  have hnames : ∀ f ∈ GlobalFunction.all,
      '_' ∉ f.name.toList ∧ (f.name.toList.head?.all fun c => c ∉ "__ee_extrafunc_".toList) := by
    decide
  obtain ⟨hname, hall⟩ := hnames f hf
  have hhead : ∀ c ∈ f.name.toList.head?, c ∉ "__ee_extrafunc_".toList := fun c hc =>
    of_decide_eq_true (Option.all_eq_true _ _ |>.mp hall c hc)
  induction arguments generalizing u with
  | nil => exact h
  | cons a arguments ih =>
    have hold : Apart "__ee_extrafunc_" (f.name.toList ++ '(' :: (a ++ [')'])) := by
      refine ⟨fun hwithin => ?_, fun v hv => not_edge (.inl ?_) hv⟩
      · rw [infix_append_cons_iff (by decide), infix_append_cons_iff (by decide)] at hwithin
        rcases hwithin with hwithin | hwithin | hwithin
        · exact hname (hwithin.subset (by decide))
        · exact harguments a mem_cons_self hwithin
        · exact absurd hwithin (by decide)
      · rw [← cons_append, ← append_assoc, getLast?_concat]
        rintro c ⟨⟩
        decide
    have hfirst : ∀ c ∈ (f.name.toList ++ '(' :: (a ++ [')'])).head?, c ∉ "__ee_extrafunc_".toList := by
      cases hcase : f.name.toList with
      | nil =>
        rintro c ⟨⟩
        decide
      | cons c rest => simpa [hcase] using hhead
    have hcons : f.replaceCalls (a :: arguments) u = f.replaceCalls arguments
        (Text.replace (f.name.toList ++ '(' :: (a ++ [')']))
          ("__ee_extrafunc_" ++ (f.name.toList ++ '(' :: (a ++ [')']))) u) := by
      rw [← append_assoc]
      rfl
    rw [hcons]
    exact ih (fun b hb => harguments b (mem_cons_of_mem a hb)) (h.replace (by decide) hold (by simp) hfirst)

end GlobalFunction

/-- The pass for a global function puts its mark in front of the calls and changes nothing else, in whatever order the
arguments are taken. It fails exactly if a call is never closed. -/
theorem global_calls_only_marked (hf : f ∈ GlobalFunction.all) (t : Text) :
    (∀ found, globalArguments f.name.toList t = .ok found →
      f.convert t = .ok (f.replaceCalls (distinct found) t, f.defined && !found.isEmpty) ∧
        (¬"__ee_extrafunc" <:+: t → ∀ order, order.Perm (distinct found) →
          replace "__ee_extrafunc_" [] (f.replaceCalls order t) = t)) ∧
      ∀ e, f.convert t = .error e ↔ e = .outOfRange ∧ ∃ v, CallOpens f.name.toList t v ∧ NeverClosed v := by
  have hnames : ∀ f ∈ GlobalFunction.all, isPlain f.name.toList ∧ '(' ∉ f.name.toList := by
    decide
  obtain ⟨hplain, hname⟩ := hnames f hf
  rcases globalArguments_cases hplain hname t with ⟨found, hfound, hclosed, harguments⟩ | ⟨herror, hopen⟩
  · have hconvert := GlobalFunction.convert_eq hfound
    refine ⟨fun found' hfound' => ?_, fun e => ?_⟩
    · obtain rfl : found = found' := Except.ok.inj (hfound.symm.trans hfound')
      refine ⟨hconvert, fun ht order horder => ?_⟩
      have hnone : ∀ a ∈ order, ¬"__ee_extrafunc_" <:+: a := fun a ha hmark =>
        ht ((IsInfix.trans ⟨[], ['_'], rfl⟩ hmark).trans (harguments a (mem_distinct.mp (horder.mem_iff.mp ha))))
      exact Marked.erase (c := '_') (w := "_ee_extrafunc") (d := '_')
        (GlobalFunction.marked_replaceCalls hf hnone (.refl _ t)) apart_stem ht
    · rw [hconvert]
      constructor
      · intro h
        cases h
      · rintro ⟨-, v, hv, hnever⟩
        exact absurd hnever (hclosed v hv)
  · refine ⟨fun found hfound => ?_, fun e => ?_⟩
    · rw [herror] at hfound
      cases hfound
    · rw [GlobalFunction.convert, herror]
      exact ⟨fun h => ⟨(Except.error.inj h).symm, hopen⟩, fun h => congrArg Except.error h.1.symm⟩

theorem nested_calls_only_marked : GlobalFunction.parseInt.replaceCalls ["a", "parseInt(a)"] "parseInt(parseInt(a))" =
        "parseInt(__ee_extrafunc_parseInt(a))" ∧
      replace "__ee_extrafunc_" [] (GlobalFunction.parseInt.replaceCalls ["a", "parseInt(a)"]
        "parseInt(parseInt(a))") = "parseInt(parseInt(a))" := by
  have hfound : globalArguments GlobalFunction.parseInt.name.toList "parseInt(parseInt(a))" =
      .ok ["parseInt(a)", "a"] := by
    decide +kernel
  have hnone : ¬"__ee_extrafunc" <:+: "parseInt(parseInt(a))" := fun h =>
    absurd (h.subset (a := '_') (by decide)) (by decide)
  have hmem : GlobalFunction.parseInt ∈ GlobalFunction.all := mem_cons_self
  refine ⟨by decide, ?_⟩
  exact ((global_calls_only_marked hmem _).1 _ hfound).2 hnone _ (Perm.swap ..)

end Geoscript.Script
