import Geoscript.Proofs.Pattern.Enclosed
import Geoscript.Proofs.Result
import Geoscript.Proofs.Script.Name
import Geoscript.Proofs.Text.Growth
import Geoscript.Script.Operator

/-! Operands of `typeof`. The uses are collected and then replaced one after the other in the whole script. A use
without a space stops the conversion (`ok_of_foldlM`), and a use is also found at the start of a longer one. -/

namespace Geoscript.Script
open List hiding all count
variable {ch d : Char} {after : Text} {names : List Text}
open Text Pattern

/-- An operand of `typeof` that is compared, written in parentheses or not. -/
structure Operand where
  name : Text
  called : Bool
  isVariable : IsVariable name

/-- A comparison whose operand stands behind a space. -/
def plainLine (v : Text) : Text :=
  "typeof" ++ ' ' :: (v ++ " == 1")

/-- A comparison whose operand stands in parentheses. -/
def callLine (v : Text) : Text :=
  "typeof" ++ '(' :: (v ++ ')' :: " == 1")

theorem plainLine_eq (v : Text) : plainLine v = "typeof" ++ ' ' :: (v ++ " == 1") :=
  rfl

theorem callLine_eq (v : Text) : callLine v = "typeof" ++ '(' :: (v ++ ')' :: " == 1") :=
  rfl

def Operand.line (o : Operand) : Text :=
  if o.called then callLine o.name else plainLine o.name

/-! ### Matches -/

section
variable {c : Cursor} {m : Match} {depth : Nat} {moving : Bool} {t v use : Text}

theorem open_has : (CharSet.of "(").has ch ↔ ch = '(' := by
  simp [CharSet.of, CharSet.has, CharClass.covers]

theorem close_has : (CharSet.of ")").has ch ↔ ch = ')' := by
  simp [CharSet.of, CharSet.has, CharClass.covers]

theorem use_of_matchAt (h : typeofUse.matchAt depth moving c = some m) : ∃ b p r q : Text,
    (∀ ch ∈ b, isSpace ch) ∧ (∀ ch ∈ p, ch = '(') ∧ (∀ ch ∈ r, nameSet.has ch) ∧ (∀ ch ∈ q, ch = ')') ∧
      c.Over ("typeof" ++ b ++ (p ++ r ++ q)) m.stop ∧ m.text = "typeof" ++ b ++ (p ++ r ++ q) := by
  obtain ⟨hstart, m₁, ⟨hkey, -⟩, m₂, ⟨b, -, hb, hbover, -⟩, m₃, ⟨p, -, hp, hpover, -⟩, m₄, ⟨r, -, hr, hrover, -⟩,
    q, -, hq, hqover, -⟩ := reads_of_matchAt h
  have hover : c.Over ("typeof" ++ b ++ (p ++ r ++ q)) m.stop :=
    (hkey.trans hbover).trans ((hpover.trans hrover).trans hqover)
  refine ⟨b, p, r, q, fun ch hch => space_has.symm.trans (hb ch hch), fun ch hch => open_has.mp (hp ch hch), hr,
    fun ch hch => close_has.mp (hq ch hch), hover, ?_⟩
  rw [Match.text, hstart]
  exact hover.upTo

theorem over_of_digit {w : Text} (hw : w ≠ []) (hsuffix : w <:+ v ++ ['1', '\n']) (hafter : c.after = w ++ after)
    (h : typeofUse.matchAt depth moving c = some m) : ∃ x y, x ≠ [] ∧ w = x ++ y ∧ c.Over x m.stop := by
  obtain ⟨b, p, r, q, hb, hp, hr, hq, hover, -⟩ := use_of_matchAt h
  refine ⟨"typeof" ++ b ++ (p ++ r ++ q), ?_⟩
  obtain ⟨w, e, rfl⟩ := (eq_nil_or_concat' w).resolve_left hw
  obtain ⟨front, hfront⟩ := hsuffix
  have hends : front ++ w ++ [e] = v ++ ['1'] ++ ['\n'] := by simpa using hfront
  obtain ⟨hdigit, he⟩ := append_inj' hends rfl
  obtain ⟨rfl, -⟩ := cons.inj he
  have hboth : ("typeof" ++ b ++ (p ++ r ++ q)) ++ m.stop.after = w ++ '\n' :: after := by
    rw [← hover.after, hafter]
    simp
  rcases cut_or hboth with ⟨y, hy, -⟩ | ⟨y, hy, -⟩
  · -- The line break would be one of the blanks behind the keyword, and so would be the digit before it.
    have hline : '\n' ∉ p ++ r ++ q := by
      simp only [mem_append]
      rintro ((hmem | hmem) | hmem)
      · exact absurd (hp _ hmem) (by decide)
      · exact absurd (hr _ hmem) (by decide)
      · exact absurd (hq _ hmem) (by decide)
    obtain ⟨mid, hmid, -⟩ := cut_left hline hy
    rcases eq_nil_or_concat' w with rfl | ⟨w, d, rfl⟩
    · cases hmid
    · rw [← append_assoc] at hdigit
      obtain ⟨-, hd⟩ := append_inj' hdigit rfl
      obtain ⟨rfl, -⟩ := cons.inj hd
      have hmem : '1' ∈ "typeof" ++ b := by rw [hmid]; simp
      rcases mem_append.mp hmem with hmem | hmem
      · exact absurd hmem (by decide)
      · exact absurd (hb _ hmem) (by decide)
  · exact ⟨y ++ ['\n'], by simp, by rw [hy, append_assoc], hover⟩

theorem exists_line (o : Operand) : ∃ x, o.line = x ++ ['1'] := by
  unfold Operand.line
  split
  · exact ⟨"typeof" ++ '(' :: (o.name ++ ')' :: " == "), by
      rw [append_assoc, cons_append, append_assoc]
      rfl⟩
  · exact ⟨"typeof" ++ ' ' :: (o.name ++ " == "), by
      rw [append_assoc, cons_append, append_assoc]
      rfl⟩

theorem space_not_mem_use (hafter : c.after = "typeof" ++ '(' :: after)
    (h : typeofUse.matchAt depth moving c = some m) : ' ' ∉ m.text := by
  obtain ⟨b, p, r, q, hb, hp, hr, hq, hover, htext⟩ := use_of_matchAt h
  have hboth : "typeof" ++ '(' :: after = "typeof" ++ (b ++ (p ++ r ++ q) ++ m.stop.after) := by
    rw [← append_assoc, ← append_assoc, ← hover.after, hafter]
  have hnil : b = [] := by
    cases b with
    | nil => rfl
    | cons d b =>
      obtain ⟨rfl, -⟩ := cons.inj (append_cancel_left hboth)
      exact absurd (hb _ mem_cons_self) (by decide)
  rw [htext, hnil, append_nil]
  simp only [mem_append]
  rintro (hmem | (hmem | hmem) | hmem)
  · exact absurd hmem (by decide)
  · exact absurd (hp _ hmem) (by decide)
  · exact absurd (hr _ hmem) (by decide)
  · exact absurd (hq _ hmem) (by decide)

theorem exists_use_of_called {os : List Operand} {o : Operand} (ho : o ∈ os) (hcalled : o.called) :
    ∃ use ∈ typeofUse.findAll (unlines (os.map Operand.line)), ' ' ∉ use := by
  obtain ⟨front, back, hscript, hfront⟩ := exists_of_mem_join '\n' (mem_map_of_mem (f := Operand.line) ho)
  rw [Operand.line, if_pos hcalled, append_assoc] at hscript
  obtain ⟨c, hc, hafter⟩ := Cursor.exists_over (c := .start (unlines (os.map Operand.line))) (u := front) hscript
  have hsome : (typeofUse.matchAt ((unlines (os.map Operand.line)).length + 1) false c).isSome := by
    refine matchAt_isSome ?_
    simp only [typeofUse, str, all, matcher_seq, blanks, Pattern.star]
    exact lit_isSome (t := "typeof") hafter (run_isSome_nil
      (run_isSome_nil (run_isSome_nil
        (run_isSome_nil rfl))))
  obtain ⟨m, hm⟩ := Option.isSome_iff_exists.mp hsome
  refine ⟨m.text, ?_, ?_⟩
  · rw [findAll, occurrences]
    refine mem_map_of_mem (mem_matchesFrom_of_matchAt hc hm (fun v w c₁ m₁ hcut hw hc₁ hm₁ => ?_) ?_)
    · obtain ⟨first, t, ht, rfl⟩ := hfront.resolve_left (by rw [hcut]; simp [hw])
      obtain ⟨o', -, rfl⟩ := mem_map.mp ht
      obtain ⟨x, hx⟩ := exists_line o'
      have hboth : v ++ (w ++ (callLine o.name ++ back)) = v ++ c₁.after := by
        rw [← append_assoc, ← hcut, ← hscript]
        exact hc₁.after
      exact over_of_digit (v := first ++ x) hw ⟨v, by rw [← hcut, hx]; simp⟩ (append_cancel_left hboth).symm hm₁
    · have hlength := congrArg length hscript
      simp only [length_append] at hlength
      have hunlines : (unlines (os.map Operand.line)).length = (join ['\n'] (os.map Operand.line)).length := rfl
      omega
  · have hcall : c.after = "typeof" ++ '(' :: (o.name ++ ')' :: " == 1" ++ back) := by
      rw [hafter, callLine_eq, append_assoc]
      rfl
    exact space_not_mem_use hcall hm

theorem matcher_operand {inner : Nat → Matcher} {caps : Captures} {k : Continuation} (hv : IsVariable v)
    (hset : ∀ ch ∈ v, nameSet.has ch) (hafter : c.after = ' ' :: (v ++ ' ' :: after))
    (hk : ∀ c', c.pos ≤ c'.pos → (k c' caps).isSome) :
    matcher inner .forward (.seq .blanks (.seq (.star (.of "(")) (.seq (.star nameSet) (.star (.of ")"))))) c caps k =
      k ⟨v.reverse ++ ' ' :: c.before, ' ' :: after, c.pos + 1 + v.length⟩ caps := by
  obtain ⟨d, back, hback⟩ := exists_cons_of_ne_nil hv.name.1
  have hd : CharSet.space.has d = false := space_has.trans (hv.not_isSpace d (by rw [hback]; simp))
  have hparen : (CharSet.of "(").has d = false := by
    rw [← Bool.not_eq_true, open_has]
    rintro rfl
    exact hv.name.not_mem (by decide : isWord '(' = false) (by decide) (by rw [hback]; simp)
  have hspace : nameSet.has ' ' = false := by decide
  have hclose : (CharSet.of ")").has ' ' = false := by decide
  have hempty : ∀ (s : CharSet) (d : Cursor) (k : Continuation), (k d caps).isSome →
      (matcher inner .forward (.star s) d caps k).isSome := fun s d k hk =>
    run_isSome_nil hk
  -- Each of the four runs goes as far as it can; what follows is accepted wherever it ends.
  refine (@longest_of_after _ _ _ inner _ _ [' '] _ (Nat.zero_le _) space_has_blank ?_ hafter ?_).trans ?_
  · simp [hback, hd]
  · exact hempty _ _ _ (hempty _ _ _ (hempty _ _ _ (hk _ (by simp))))
  refine (@longest_of_after _ _ _ inner _ _ [] _ (Nat.zero_le _) (by simp) ?_ rfl ?_).trans ?_
  · simp [hback, hparen]
  · exact hempty _ _ _ (hempty _ _ _ (hk _ (by simp)))
  refine (@longest_of_after _ _ _ inner _ _ v _ (Nat.zero_le _) hset ?_ rfl ?_).trans ?_
  · simp [hspace]
  · exact hempty _ _ _ (hk _ (by simp; omega))
  refine (@longest_of_after _ _ _ inner _ _ [] _ (Nat.zero_le _) (by simp) ?_ rfl ?_).trans rfl
  · simp [hclose]
  · exact hk _ (by simp; omega)

theorem matchAt_plain (depth : Nat) (moving : Bool) (hv : IsVariable v)
    (hset : ∀ ch ∈ v, nameSet.has ch) (hafter : c.after = "typeof".toList ++ ' ' :: (v ++ ' ' :: after)) :
    ∃ m, typeofUse.matchAt depth moving c = some m ∧ m.start = c ∧ c.Over ("typeof".toList ++ ' ' :: v) m.stop := by
  have hmatch : matcher (Pattern.calls typeofUse depth) .forward typeofUse c [] (stopAt moving c.pos) =
      some ⟨⟨v.reverse ++ ' ' :: ("typeof".toList.reverse ++ c.before), ' ' :: after,
        c.pos + "typeof".toList.length + 1 + v.length⟩, []⟩ := by
    have hlength : 0 < "typeof".toList.length := by decide
    refine (matcher_seq _ (.lit "typeof".toList) _).trans ?_
    generalize "typeof".toList = key at hafter hlength ⊢
    rw [lit_of_after hafter]
    refine (matcher_operand hv hset rfl fun c' hc' => ?_).trans ?_
    · exact Option.isSome_of_eq_some (stopAt_of_lt (by simp only at hc'; omega))
    · exact stopAt_of_lt (by simp only; omega)
  refine ⟨_, matchAt_of_matcher hmatch, rfl, ?_, ?_, ?_⟩
  · simp [hafter]
  · simp
  · simp only [length_append, length_cons]
    omega

theorem matchAt_eq_none (hd : d ≠ 't') (hafter : c.after = d :: after) : typeofUse.matchAt depth moving c = none := by
  rw [Option.eq_none_iff_forall_ne_some]
  intro m hm
  obtain ⟨b, p, r, q, -, -, -, -, hover, -⟩ := use_of_matchAt hm
  rw [hover.after] at hafter
  exact hd (cons.inj hafter).1.symm

theorem matchesFrom_comparison {tail : Text} (depth fuel : Nat) (moving : Bool) (htail : ∀ ch ∈ tail, ch ≠ 't')
    (hafter : c.after = " == 1" ++ tail ++ after) :
    ∃ c', c'.after = after ∧ typeofUse.matchesFrom depth fuel moving c = typeofUse.matchesFrom depth fuel false c' := by
  obtain ⟨c', hc', hrest⟩ := Cursor.exists_over hafter
  refine ⟨c', hrest, (matchesFrom_skip hc' fun v w c₁ hcut hw hc₁ => ?_).trans ?_⟩
  · obtain ⟨d, w, rfl⟩ := exists_cons_of_ne_nil hw
    have hboth : v ++ (d :: w ++ after) = v ++ c₁.after := by
      rw [← append_assoc, ← hcut, ← hafter]
      exact hc₁.after
    have hd : d ≠ 't' := by
      have hmem : d ∈ " == 1" ++ tail := by rw [hcut]; simp
      rcases mem_append.mp hmem with hmem | hmem
      · rintro rfl
        exact absurd hmem (by decide)
      · exact htail d hmem
    exact matchAt_eq_none hd (append_cancel_left hboth).symm
  · have hne : (" == 1" ++ tail).isEmpty = false := rfl
    rw [hne, Bool.and_false]

theorem matchesFrom_plain {fuel : Nat} (hnames : ∀ v ∈ names, IsVariable v)
    (hset : ∀ v ∈ names, ∀ ch ∈ v, nameSet.has ch) (hafter : c.after = unlines (names.map plainLine))
    (hfuel : names.length < fuel) :
    (typeofUse.matchesFrom depth fuel moving c).map (·.text) = names.map ("typeof".toList ++ ' ' :: ·) := by
  induction names generalizing c fuel moving with
  | nil =>
    rw [matchesFrom_eq_nil]
    · rfl
    · intro v c₁ moving m hover hm
      obtain ⟨b, p, r, q, -, -, -, -, huse, -⟩ := use_of_matchAt hm
      have hnil : v ++ ("typeof".toList ++ b ++ (p ++ r ++ q) ++ m.stop.after) = [] := by
        rw [← huse.after, ← hover.after, hafter]
        rfl
      simp at hnil
  | cons v names ih =>
    rw [forall_mem_cons] at hnames hset
    obtain ⟨tail, htail, hlines⟩ : ∃ tail : Text, (∀ ch ∈ tail, ch ≠ 't') ∧
        unlines ((v :: names).map plainLine) = plainLine v ++ tail ++ unlines (names.map plainLine) := by
      by_cases hnil : names = []
      · exact ⟨[], by simp, by simp [hnil, unlines, join]⟩
      · exact ⟨['\n'], by simp, join_cons _ _ (by simpa using hnil)⟩
    rw [hlines] at hafter
    have hplain : c.after =
        "typeof".toList ++ ' ' :: (v ++ ' ' :: ("== 1".toList ++ tail ++ unlines (names.map plainLine))) := by
      rw [hafter, plainLine_eq]
      simp only [append_assoc, cons_append]
      rfl
    obtain ⟨fuel, rfl⟩ : ∃ n, fuel = n + 1 := ⟨fuel - 1, by omega⟩
    obtain ⟨m, hm, hstart, hover⟩ := matchAt_plain depth (moving && ([] : Text).isEmpty) hnames.1 hset.1 hplain
    have hstop : m.stop.after = " == 1".toList ++ tail ++ unlines (names.map plainLine) := by
      have hboth : ("typeof".toList ++ ' ' :: v) ++ m.stop.after =
          ("typeof".toList ++ ' ' :: v) ++ (" == 1".toList ++ tail ++ unlines (names.map plainLine)) := by
        rw [← hover.after, hplain]
        simp only [append_assoc, cons_append]
        rfl
      exact append_cancel_left hboth
    obtain ⟨c', hrest, hmatches⟩ := matchesFrom_comparison depth fuel (m.stop.pos == m.start.pos) htail hstop
    rw [matchesFrom_of_first (.refl c) (fun v w _ hvw hw => absurd (append_eq_nil_iff.mp hvw.symm).2 hw) hm,
      hmatches, map_cons, map_cons, ih hnames.2 hset.2 hrest (by simpa using hfuel)]
    refine congrArg (· :: _) ?_
    rw [Match.text, hstart]
    exact hover.upTo

theorem findAll_plain (hnames : ∀ v ∈ names, IsVariable v) (hset : ∀ v ∈ names, ∀ ch ∈ v, nameSet.has ch) :
    typeofUse.findAll (unlines (names.map plainLine)) = names.map ("typeof" ++ ' ' :: ·) := by
  rw [findAll, occurrences]
  refine matchesFrom_plain hnames hset rfl ?_
  have hne : ∀ t ∈ names.map plainLine, t ≠ [] := by simp [plainLine_eq]
  have hlength := length_le_join ['\n'] hne
  rw [length_map] at hlength
  exact Nat.lt_of_le_of_lt hlength (by rw [unlines]; omega)

end

/-! ### Replacements -/

section
variable {names : List Text} {u v x t t' use operand : Text}

/-- The use of an operand behind a space and the call that is written for it. -/
def wrapping (v : Text) : Text × Text :=
  ("typeof" ++ ' ' :: v, "typeof" ++ '(' :: (v ++ [')']))

theorem wrapping_eq (v : Text) : wrapping v = ("typeof" ++ ' ' :: v, "typeof" ++ '(' :: (v ++ [')'])) :=
  rfl

theorem callTypeof_plain (hv : ' ' ∉ v) (t : Text) :
    callTypeof t ("typeof" ++ ' ' :: v) = .ok (replace (wrapping v).1 (wrapping v).2 t) := by
  have hfields : fields ' ' ("typeof".toList ++ ' ' :: v) = ["typeof".toList, v] := by
    rw [fields_append_cons (by decide), fields_of_not_mem hv]
  rw [callTypeof, hfields]
  rfl

theorem foldlM_plain (hnames : ∀ v ∈ names, ' ' ∉ v) (t : Text) :
    (names.map ("typeof" ++ ' ' :: ·)).foldlM callTypeof t = .ok (replaceEach (names.map wrapping) t) := by
  induction names generalizing t with
  | nil => rfl
  | cons v names ih =>
    rw [forall_mem_cons] at hnames
    rw [map_cons, foldlM_cons, callTypeof_plain hnames.1, map_cons, replaceEach_cons]
    exact ih hnames.2 _

theorem use_ne_nil (u : Text) : (wrapping u).1 ≠ [] := by
  simp [wrapping_eq]

theorem use_infix_of_comparison (hequals : '=' ∉ u) (h : (wrapping u).1 <:+: x ++ " == 1") :
    (wrapping u).1 <:+: x ++ [' '] := by
  have hold : '=' ∉ (wrapping u).1 := by
    simp [wrapping_eq, hequals]
  have hlength : 2 < (wrapping u).1.length := by
    simp [wrapping_eq]
  have hcut : x ++ " == 1" = (x ++ [' ']) ++ '=' :: ([] ++ '=' :: [' ', '1']) := by
    rw [append_assoc]
    rfl
  rw [hcut, infix_append_cons_iff hold, infix_append_cons_iff hold] at h
  rcases h with h | h | h
  · exact h
  · exact absurd (infix_nil.mp h) (use_ne_nil u)
  · exact absurd h.length_le (Nat.not_le_of_lt hlength)

theorem use_not_in_called (hx : ' ' ∉ x) (hu : u ≠ []) (hequals : '=' ∉ u) : ¬(wrapping u).1 <:+: x ++ " == 1" := by
  intro h
  have hspace := use_infix_of_comparison hequals h
  rw [wrapping_eq] at hspace
  exact hu (prefix_nil.mp ((infix_around_iff hx not_mem_nil).mp hspace).2)

theorem use_not_in_plain (hv : ' ' ∉ v) (hu : u ≠ []) (hspace : ' ' ∉ u) (hequals : '=' ∉ u) (hpre : ¬u <+: v) :
    ¬(wrapping u).1 <:+: plainLine v := by
  intro h
  have hline : plainLine v = ("typeof" ++ ' ' :: v) ++ " == 1" := by
    rw [plainLine_eq, append_assoc]
    rfl
  rw [hline] at h
  obtain ⟨a, b, hab⟩ := use_infix_of_comparison hequals h
  have hcut : (a ++ "typeof") ++ ' ' :: (u ++ b) = "typeof" ++ ' ' :: (v ++ [' ']) := by
    simpa [wrapping_eq] using hab
  rcases cut_eq_or_behind (by decide) hcut with ⟨-, heq⟩ | ⟨mid, -, heq⟩
  · exact hpre (prefix_of_prefix_append_cons hspace ⟨b, heq⟩)
  · obtain ⟨mid', -, hnil⟩ := cut_right hv heq
    have hlength := congrArg length hnil
    have hpos : 0 < u.length := length_pos_iff.mpr hu
    simp only [length_append, length_cons, length_nil] at hlength
    omega

theorem replaceEach_plain (hnames : ∀ w ∈ names, w ≠ [] ∧ ' ' ∉ w ∧ '=' ∉ w) (hv : ' ' ∉ v)
    (hu : names.find? (·.isPrefixOf v) = some u) :
    ∃ rest, v = u ++ rest ∧ replaceEach (names.map wrapping) (plainLine v) =
      "typeof" ++ '(' :: (u ++ ')' :: (rest ++ " == 1")) := by
  induction names with
  | nil => cases hu
  | cons w names ih =>
    rw [forall_mem_cons] at hnames
    obtain ⟨⟨hne, hspace, hequals⟩, hnames⟩ := hnames
    rw [map_cons, replaceEach_cons]
    by_cases hpre : w <+: v
    · have hfirst := @find?_cons_of_pos Text (·.isPrefixOf v) w names (List.isPrefixOf_iff_prefix.mpr hpre)
      obtain rfl := Option.some.inj (hfirst.symm.trans hu)
      obtain ⟨rest, rfl⟩ := hpre
      rw [mem_append, not_or] at hv
      refine ⟨rest, rfl, ?_⟩
      have hline : plainLine (w ++ rest) = (wrapping w).1 ++ (rest ++ " == 1") := by
        rw [plainLine_eq, wrapping_eq, append_assoc, append_assoc]
        rfl
      have hcalled : (wrapping w).2 ++ (rest ++ " == 1") = ("typeof" ++ '(' :: (w ++ ')' :: rest)) ++ " == 1" := by
        simp [wrapping_eq]
      rw [hline, replace_append (use_ne_nil w),
        replace_of_not_occurs (use_ne_nil w) (use_not_in_called hv.2 hne hequals), hcalled, replaceEach_of_not_occurs]
      · simp
      · intro r hr
        obtain ⟨y, -, rfl⟩ := mem_map.mp hr
        exact use_ne_nil y
      · intro r hr
        obtain ⟨y, hy, rfl⟩ := mem_map.mp hr
        refine use_not_in_called ?_ (hnames y hy).1 (hnames y hy).2.2
        simp [hspace, hv.2]
    · have hrest := @find?_cons_of_neg Text (·.isPrefixOf v) w names fun h =>
        hpre (List.isPrefixOf_iff_prefix.mp h)
      rw [replace_of_not_occurs (use_ne_nil w) (use_not_in_plain hv hne hspace hequals hpre)]
      exact ih hnames (hrest.symm.trans hu)

end

/-! ### What gets into parentheses -/

section
variable {t t' use operand : Text} {uses : List Text}

def isOperandChar (c : Char) : Bool :=
  (nameSet.has c || isSpace c) && c != ' '

def Wrapped (t : Text) : Prop :=
  ∀ s, '(' :: s <:+ t → ∃ r rest, s = r ++ ')' :: rest ∧ ∀ c ∈ r, isOperandChar c

theorem wrapped_of_not_mem (h : '(' ∉ t) : Wrapped t := fun _ hs =>
  absurd (hs.subset mem_cons_self) h

theorem Wrapped.suffix {s : Text} (h : Wrapped t) (hs : s <:+ t) : Wrapped s := fun r hr =>
  h r (hr.trans hs)

theorem not_mem_of_isOperandChar {r : Text} (h : ∀ c ∈ r, isOperandChar c)
    (hd : isOperandChar d = false) : d ∉ r := fun hmem => by
  rw [h d hmem] at hd
  cases hd

/-- A replacement of a use with a space puts parentheses around the operand and leaves all others as they are. -/
theorem Wrapped.replace (ht : Wrapped t) (hspace : ' ' ∈ use) (hclose : ')' ∉ use)
    (hoperand : ∀ c ∈ operand, isOperandChar c) :
    Wrapped (replace use ("typeof(" ++ operand ++ ")") t) := by
  have huse : use ≠ [] := ne_nil_of_mem hspace
  induction t using replace_induction huse with
  | nil =>
    rw [replace_nil huse]
    exact ht
  | hit t ih =>
    rw [replace_append huse]
    rintro s ⟨x, hx⟩
    have hcut : x ++ '(' :: s = "typeof" ++ '(' :: (operand ++ ')' ::
        Text.replace use ("typeof(" ++ operand ++ ")") t) := by
      simpa using hx
    rcases cut_eq_or_behind (by decide) hcut with ⟨-, rfl⟩ | ⟨mid, -, heq⟩
    · exact ⟨operand, _, rfl, hoperand⟩
    · have hopen : '(' ∉ operand ++ [')'] := by
        simpa using not_mem_of_isOperandChar hoperand (by decide : isOperandChar '(' = false)
      obtain ⟨mid', -, hmid⟩ := cut_right hopen (by simpa using heq)
      exact ih (ht.suffix (suffix_append _ _)) s ⟨mid', hmid.symm⟩
  | miss d t hpre ih =>
    rw [replace_cons huse hpre]
    intro s hs
    rcases suffix_cons_iff.mp hs with heq | hs
    · obtain ⟨rfl, rfl⟩ := cons.inj heq
      obtain ⟨r, rest, rfl, hr⟩ := ht t (suffix_refl _)
      have hkept : ¬use <:+: r := fun h =>
        not_mem_of_isOperandChar hr (by decide : isOperandChar ' ' = false) (h.subset hspace)
      exact ⟨r, _, by rw [replace_append_cons huse hclose, replace_of_not_occurs huse hkept], hr⟩
    · exact ih (ht.suffix (suffix_cons _ _)) s hs

theorem exists_of_callTypeof (h : callTypeof t use = .ok t') : ∃ operand, ' ' ∈ use ∧ ' ' ∉ operand ∧ operand ⊆ use ∧
    t' = replace use ("typeof(" ++ operand ++ ")") t := by
  unfold callTypeof at h
  split at h
  · next x operand rest hfields =>
    have hmem : operand ∈ fields ' ' use := by simp [hfields]
    refine ⟨operand, ?_, not_mem_of_mem_fields hmem, fun c hc => mem_of_mem_fields hmem hc, (Except.ok.inj h).symm⟩
    by_contra hspace
    rw [fields_of_not_mem hspace] at hfields
    cases hfields
  · cases h

/-- Where the conversion does not stop every use has a space, and what stands in parentheses are characters of uses. -/
theorem ok_of_foldlM (h : uses.foldlM callTypeof t = .ok t') : (∀ use ∈ uses, ' ' ∈ use) ∧
    ((∀ use ∈ uses, ∀ c ∈ use, nameSet.has c ∨ isSpace c) → Wrapped t → Wrapped t') := by
  induction uses generalizing t with
  | nil =>
    obtain rfl := Except.ok.inj h
    exact ⟨by simp, fun _ ht => ht⟩
  | cons use uses ih =>
    rw [foldlM_cons] at h
    obtain ⟨t₁, hcall, h⟩ := ok_of_bind h
    obtain ⟨hspaces, hwrapped⟩ := ih h
    obtain ⟨operand, hspace, hother, hsubset, rfl⟩ := exists_of_callTypeof hcall
    refine ⟨forall_mem_cons.mpr ⟨hspace, hspaces⟩, fun hchars ht => ?_⟩
    rw [forall_mem_cons] at hchars
    refine hwrapped hchars.2 (ht.replace hspace (fun hclose => ?_) fun c hc => ?_)
    · exact absurd (hchars.1 _ hclose) (by decide)
    · have hne : c ≠ ' ' := fun h => hother (h ▸ hc)
      rcases hchars.1 c (hsubset hc) with h | h <;> simp [isOperandChar, h, hne]

theorem chars_of_mem_findAll (hopen : '(' ∉ t) (hclose : ')' ∉ t) (h : use ∈ typeofUse.findAll t) :
    ∀ c ∈ use, nameSet.has c ∨ isSpace c := by
  obtain ⟨m, hm, rfl⟩ := mem_map.mp h
  obtain ⟨u, depth, moving, hu, hmatch⟩ := mem_occurrences hm
  obtain ⟨b, p, r, q, hb, hp, hr, hq, hover, htext⟩ := use_of_matchAt hmatch
  have hmem : ∀ c ∈ m.text, c ∈ t := by
    intro c hc
    have hall : t = u ++ m.start.after := hu.after
    rw [hall, hover.after, ← htext]
    simp [hc]
  intro c hc
  have hc' := hmem c hc
  rw [htext] at hc
  simp only [mem_append] at hc
  have hkey : "typeof".toList.all nameSet.has := by decide
  rcases hc with (hc | hc) | (hc | hc) | hc
  · exact .inl (all_eq_true.mp hkey c hc)
  · exact .inr (hb c hc)
  · exact absurd (hp c hc ▸ hc') hopen
  · exact .inl (hr c hc)
  · exact absurd (hq c hc ▸ hc') hclose

end

/-! ### Lists of operands -/

section
variable {names : List Text} {v : Text}

theorem map_fst_convertTypeof (t : Text) :
    (convertTypeof t).map Prod.fst = (typeofUse.findAll t).foldlM callTypeof t := by
  unfold convertTypeof
  split
  · next h =>
    rw [h]
    rfl
  · cases (typeofUse.findAll t).foldlM callTypeof t <;> rfl

theorem not_mem_plain (hnames : ∀ v ∈ names, d ∉ v) (hd : d ∉ "typeof == 1\n".toList) :
    d ∉ unlines (names.map plainLine) := by
  intro h
  rcases mem_join h with h | ⟨t, ht, h⟩
  · exact hd (by simp [mem_singleton.mp h])
  · obtain ⟨v, hv, rfl⟩ := mem_map.mp ht
    rw [plainLine_eq, mem_append, mem_cons, mem_append] at h
    rcases h with h | h | h | h
    · exact hd ((by decide : "typeof".toList ⊆ "typeof == 1\n".toList) h)
    · exact hd (by simp [h])
    · exact hnames v hv h
    · exact hd ((by decide : " == 1".toList ⊆ "typeof == 1\n".toList) h)

theorem eq_of_unlines_map {f g : Text → Text} (hf : ∀ v ∈ names, '\n' ∉ f v) (hg : ∀ v ∈ names, '\n' ∉ g v)
    (h : unlines (names.map f) = unlines (names.map g)) : ∀ v ∈ names, f v = g v := by
  by_cases hnil : names = []
  · simp [hnil]
  · have hfields := congrArg (fields '\n') h
    rw [unlines, unlines, fields_join (by simpa using hnil) (by simpa using hf),
      fields_join (by simpa using hnil) (by simpa using hg)] at hfields
    exact map_inj_left.mp hfields

theorem convert_plain (hnames : ∀ v ∈ names, IsVariable v) (hset : ∀ v ∈ names, ∀ c ∈ v, nameSet.has c) :
    (typeofUse.findAll (unlines (names.map plainLine))).foldlM callTypeof (unlines (names.map plainLine)) =
      .ok (unlines (names.map fun v => replaceEach (names.map wrapping) (plainLine v))) := by
  have hspace : ∀ v ∈ names, ' ' ∉ v := fun v hv => (hnames v hv).name.not_mem rfl (by decide)
  rw [findAll_plain hnames hset, foldlM_plain hspace, unlines, replaceEach_join, map_map]
  · rfl
  · intro r hr
    obtain ⟨v, hv, rfl⟩ := mem_map.mp hr
    have hline : '\n' ∉ v := (hnames v hv).name.not_mem rfl (by decide)
    exact ⟨use_ne_nil v, by simp [wrapping_eq, hline]⟩

/-- A line is written as a call of its operand if and only if the operand itself is the first of the names that it
starts with. -/
theorem line_called_iff (hnames : ∀ v ∈ names, IsVariable v) (hv : v ∈ names) :
    '\n' ∉ replaceEach (names.map wrapping) (plainLine v) ∧
      (replaceEach (names.map wrapping) (plainLine v) = callLine v ↔ names.find? (·.isPrefixOf v) = some v) := by
  have hsome : (names.find? (·.isPrefixOf v)).isSome :=
    find?_isSome.mpr ⟨v, hv, isPrefixOf_iff_prefix.mpr prefix_rfl⟩
  obtain ⟨u, hu⟩ := Option.isSome_iff_exists.mp hsome
  have hname := fun w hw => (hnames w hw).name
  have hfree : ∀ w ∈ names, w ≠ [] ∧ ' ' ∉ w ∧ '=' ∉ w := fun w hw =>
    ⟨(hname w hw).1, (hname w hw).not_mem rfl (by decide), (hname w hw).not_mem rfl (by decide)⟩
  obtain ⟨rest, hrest, hline⟩ := replaceEach_plain hfree (hfree v hv).2.1 hu
  have hnewline : '\n' ∉ v := (hname v hv).not_mem rfl (by decide)
  have hclose : ')' ∉ v := (hname v hv).not_mem rfl (by decide)
  rw [hline, hu, callLine_eq]
  constructor
  · rw [hrest, mem_append, not_or] at hnewline
    simp [hnewline]
  · constructor
    · intro heq
      have hcut := (cons.inj (append_cancel_left heq)).2
      rcases cut_eq_or_behind hclose hcut with ⟨rfl, -⟩ | ⟨mid, hmid, -⟩
      · rfl
      · exact absurd (by rw [hrest, hmid]; simp) hclose
    · intro heq
      obtain rfl := Option.some.inj heq
      rw [self_eq_append_right.mp hrest, nil_append]

end

section
variable {os : List Operand} {o : Operand}

theorem map_line_of_plain (hplain : ∀ o ∈ os, o.called = false) :
    os.map Operand.line = (os.map Operand.name).map plainLine := by
  rw [map_map]
  refine map_congr_left fun o ho => ?_
  rw [Operand.line, hplain o ho]
  rfl

theorem isOperandChar_of_wrapped (h : Wrapped (unlines (os.map fun o => callLine o.name))) (ho : o ∈ os) :
    ∀ c ∈ o.name, isOperandChar c := by
  obtain ⟨front, back, hscript⟩ := infix_join_of_mem (mem_map_of_mem (f := fun o => callLine o.name) ho)
  have hclose : ')' ∉ o.name := o.isVariable.name.not_mem rfl (by decide)
  obtain ⟨r, rest, hr, hchars⟩ := h (o.name ++ ')' :: (" == 1" ++ back))
    ⟨front ++ "typeof", by rw [unlines, ← hscript, callLine_eq]; simp⟩
  rcases cut_eq_or_behind hclose hr.symm with ⟨rfl, -⟩ | ⟨mid, rfl, -⟩
  · exact hchars
  · exact absurd (hchars ')' (by simp)) (by decide)

/-- The operands are all put in parentheses if and only if none is already, they are made of characters of `nameSet`,
and each is the first of the names that it starts with. -/
theorem typeof_called_iff (os : List Operand) :
    (convertTypeof (unlines (os.map Operand.line))).map Prod.fst = .ok (unlines (os.map fun o => callLine o.name)) ↔
      (∀ o ∈ os, o.called = false) ∧ (∀ o ∈ os, ∀ c ∈ o.name, nameSet.has c) ∧
        ∀ o ∈ os, (os.map Operand.name).find? (·.isPrefixOf o.name) = some o.name := by
  have hnames : ∀ v ∈ os.map Operand.name, IsVariable v := forall_mem_map.mpr fun o _ => o.isVariable
  have hcalls : os.map (fun o => callLine o.name) = (os.map Operand.name).map callLine := by
    rw [map_map]
    rfl
  rw [map_fst_convertTypeof]
  constructor
  · intro h
    obtain ⟨hspaces, hwrapped⟩ := ok_of_foldlM h
    have hplain : ∀ o ∈ os, o.called = false := by
      intro o ho
      by_contra hcalled
      obtain ⟨use, huse, hspace⟩ := exists_use_of_called ho (by simpa using hcalled)
      exact hspace (hspaces use huse)
    rw [map_line_of_plain hplain] at h hwrapped
    have hparen : ∀ d, isWord d = false → d ≠ '$' → d ∉ "typeof == 1\n".toList →
        d ∉ unlines ((os.map Operand.name).map plainLine) :=
      fun d hword hdollar => not_mem_plain fun v hv => (hnames v hv).name.not_mem hword hdollar
    have hopen := hparen '(' (by decide) (by decide) (by decide)
    have hclose := hparen ')' (by decide) (by decide) (by decide)
    have hset : ∀ o ∈ os, ∀ c ∈ o.name, nameSet.has c := by
      intro o ho c hc
      have hresult := hwrapped (fun _ => chars_of_mem_findAll hopen hclose) (wrapped_of_not_mem hopen)
      have hchar := isOperandChar_of_wrapped hresult ho c hc
      rw [isOperandChar, o.isVariable.not_isSpace c hc, Bool.or_false, Bool.and_eq_true] at hchar
      exact hchar.1
    refine ⟨hplain, hset, ?_⟩
    rw [convert_plain hnames (forall_mem_map.mpr hset), hcalls] at h
    have hlines := eq_of_unlines_map (fun v hv => (line_called_iff hnames hv).1) ?_ (Except.ok.inj h)
    · exact fun o ho => (line_called_iff hnames (mem_map_of_mem ho)).2.mp (hlines _ (mem_map_of_mem ho))
    · intro v hv
      simp [callLine_eq, (hnames v hv).name.not_mem (c := '\n') (by decide) (by decide)]
  · rintro ⟨hplain, hset, hfirst⟩
    rw [map_line_of_plain hplain, convert_plain hnames (forall_mem_map.mpr hset), hcalls]
    refine congrArg (fun ts => Except.ok (unlines ts)) (map_congr_left fun v hv => ?_)
    obtain ⟨o, ho, rfl⟩ := mem_map.mp hv
    exact (line_called_iff hnames hv).2.mpr (hfirst o ho)

def operandV (called : Bool) : Operand where
  name := ['v']
  called := called
  isVariable := ⟨⟨by decide, forall_mem_singleton.mpr (by decide)⟩, forall_mem_singleton.mpr (by decide)⟩

/-- With `typeof(v)` behind `typeof v` in a script, the calls are not returned; `typeof v` alone becomes a call. -/
theorem called_operand_spoiled :
    (convertTypeof (unlines ([operandV false].map Operand.line))).map Prod.fst = .ok (unlines [callLine ['v']]) ∧
      (convertTypeof (unlines ([operandV false, operandV true].map Operand.line))).map Prod.fst ≠
        .ok (unlines [callLine ['v'], callLine ['v']]) := by
  constructor
  · exact (typeof_called_iff [operandV false]).mpr (by simp [operandV]; decide)
  · intro h
    have hplain := ((typeof_called_iff [operandV false, operandV true]).mp h).1 (operandV true) (by simp)
    cases hplain

end

end Geoscript.Script
