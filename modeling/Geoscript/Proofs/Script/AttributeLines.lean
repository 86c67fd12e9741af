import Geoscript.Proofs.Script.AttributeAccess
import Geoscript.Proofs.Text.Growth

/-! Attributes on two lines. Every attribute that is found is rewritten in the whole text (`convertAttribute_eq`), so
that of one line may be rewritten with that of the other, as a whole or in part (`bothKeyed_iff`). -/

namespace Geoscript.Script
open List Pattern
open Text hiding count
variable {c : Char} {t : Text}

namespace Access
variable {x y : Access}

/-! ### One attribute -/

theorem mem_word (h : c ∈ x.word) : c.isAlpha ∨ c = '.' := by
  simp only [word, mem_append, mem_cons] at h
  rcases h with h | h | h
  · exact .inl (x.words.2.1.letters c h)
  · exact .inr h
  · exact .inl (x.words.2.2.letters c h)

theorem dropUnderscores_eq {prev : Option Char} (hprev : prev ≠ some '_') (h : '_' ∉ t) :
    Numeral.dropUnderscores prev t = some t := by
  induction t generalizing prev with
  | nil => simp [Numeral.dropUnderscores, hprev]
  | cons d t ih =>
    rw [mem_cons, not_or] at h
    rw [Numeral.dropUnderscores.eq_3 _ _ _ fun heq => h.1 heq.symm, ih (by simpa using Ne.symm h.1) h.2]
    simp [hprev]

theorem isNumeral_word (x : Access) : isNumeral x.word = false := by
  obtain ⟨d, object, hobject⟩ := exists_cons_of_ne_nil x.words.2.1.ne_nil
  have hd := x.words.2.1.letters d (by simp [hobject])
  have hother (c : Char) (hc : c.isAlpha = false) : d ≠ c := fun h => by
    rw [h, hc] at hd
    cases hd
  have htrim {t : Text} (h : ∀ c ∈ t, isSpace c = false) : t.dropWhile isSpace = t := by
    cases t with
    | nil => rfl
    | cons c t => simp [h c mem_cons_self]
  have hsolid : ∀ c ∈ x.word, isSpace c = false := fun c hc => by
    rcases mem_word hc with h | rfl
    · exact (letter_facts h).2.2.1
    · decide
  have hplain : x.word.map Numeral.plainDigit = x.word := by
    refine (map_congr_left fun c hc => ?_).trans (map_id _)
    rcases mem_word hc with h | rfl
    · exact (letter_facts h).2.2.2.1
    · decide
  have hunderscore : '_' ∉ x.word := fun h => (mem_word h).elim (by decide) (by decide)
  have hsign : Numeral.readSign x.word = (false, x.word) := by
    rw [word, hobject]
    exact Numeral.readSign.eq_3 _ (fun _ h => hother '-' rfl (cons.inj h).1)
      fun _ h => hother '+' rfl (cons.inj h).1
  have hdot (w : Text) (hw : '.' ∉ w) : x.word.map Char.toLower ≠ w := fun h =>
    hw (h ▸ mem_map.mpr ⟨'.', by simp [word], rfl⟩)
  have hdigits : Numeral.readDigits false x.word = none := by
    have hword : x.word = d :: (object ++ '.' :: x.key) := by simp [word, hobject]
    rw [Numeral.readDigits, hword, takeWhile_cons_of_neg (by simp [(letter_facts hd).2.2.2.2]),
      dropWhile_cons_of_neg (by simp [(letter_facts hd).2.2.2.2])]
    split
    next fraction rest heq =>
      split at heq
      · next h => exact absurd (cons.inj h).1 (hother '.' rfl)
      · cases heq
        rfl
  have hread : Numeral.readPlain x.word = none := by
    rw [Numeral.readPlain, hsign]
    dsimp only
    rw [if_neg (not_or.mpr ⟨hdot _ (by decide), hdot _ (by decide)⟩), if_neg (hdot _ (by decide)), hdigits]
  rw [isNumeral, Numeral.read?, htrim hsolid, htrim (by simpa using hsolid), reverse_reverse, hplain,
    dropUnderscores_eq (by simp) hunderscore, Option.bind_some, hread]
  rfl

theorem inQuotes_line (x : Access) (w : Text) : Script.inQuotes x.line w = false := by
  have hnone : quoted.search? x.line = none := by
    rw [Option.eq_none_iff_forall_ne_some]
    intro m hm
    obtain ⟨u, R, hu, m₁, ⟨_, ⟨d, hd, hover, -⟩, -⟩, -⟩ := reads_of_search? hm
    have hmem : d ∈ x.line := by
      rw [hu, hover.after]
      simp
    have hquote : d = '"' ∨ d = '\'' := by
      simpa [CharSet.of, CharSet.has, CharClass.covers] using hd
    rcases hquote with rfl | rfl
    · exact x.not_mem_line rfl (by decide) hmem
    · exact x.not_mem_line rfl (by decide) hmem
  rw [Script.inQuotes, hnone]

def step (x : Access) (t : Text) : Text :=
  if ['M', 'a', 't', 'h'] <:+ x.object then replace (x.word ++ [';']) (lower (x.word ++ [';'])) t
  else if ['e', 'e'] <:+ x.object then t
  else replace x.word x.byKey t

theorem convertAttribute_eq (x : Access) (t : Text) : convertAttribute x.line t (x.word ++ [';']) = .ok (x.step t) := by
  have hdot : '.' ∉ x.object ∧ '.' ∉ x.key := ⟨x.words.2.1.not_mem rfl, x.words.2.2.not_mem rfl⟩
  have hends (w more : Text) (hmore : '.' ∉ more) :
      has (w ++ ['.']) (x.object ++ '.' :: (x.key ++ more)) = decide (w <:+ x.object) := by
    have hkey : '.' ∉ x.key ++ more := by simp [hdot.2, hmore]
    rw [Bool.eq_iff_iff, has_iff, infix_around_iff hdot.1 hkey, decide_eq_true_iff]
    exact and_iff_left nil_prefix
  have hmath : has "Math." (x.word ++ [';']) = decide (['M', 'a', 't', 'h'] <:+ x.object) := by
    rw [← hends _ [';'] (by decide), word, append_assoc]
    rfl
  have hserver : has "ee." x.word = decide (['e', 'e'] <:+ x.object) := by
    rw [← hends _ [] (by decide), append_nil]
    rfl
  have hfields : fields '.' x.word = [x.object, x.key] := by
    rw [word, fields_append_cons hdot.1, fields_of_not_mem hdot.2]
  have hkey : without isSpace x.key = x.key :=
    without_isSpace fun c hc => (letter_facts (x.words.2.2.letters c hc)).2.2.1
  simp only [convertAttribute, dropLast_concat, isNumeral_word, hmath, hserver, hfields, hkey,
    replaceOutsideQuotes, inQuotes_line, step]
  by_cases hm : ['M', 'a', 't', 'h'] <:+ x.object
  · simp [hm]
  · by_cases he : ['e', 'e'] <:+ x.object
    · simp [hm, he]
    · simp [hm, he, byKey]

/-! ### Both lines -/

theorem step_append (x : Access) (s t : Text) : x.step (s ++ '\n' :: t) = x.step s ++ '\n' :: x.step t := by
  have hword : '\n' ∉ x.word := fun h => (mem_word h).elim (by decide) (by decide)
  have hne : x.word ≠ [] := by simp [word]
  unfold step
  split
  · exact replace_append_cons (by simp) (by simp [hword])
  · split
    · rfl
    · exact replace_append_cons hne hword

theorem step_of_no_dot (h : '.' ∉ t) : x.step t = t := by
  have hocc (more : Text) : ¬x.word ++ more <:+: t := fun hocc => h (hocc.subset (by simp [word]))
  unfold step
  split
  · exact replace_of_not_occurs (by simp) (hocc [';'])
  · split
    · rfl
    · exact replace_of_not_occurs (by simp [word]) (by simpa using hocc [])

/-- An object whose attributes are read by key. -/
def Keyed (x : Access) : Prop :=
  ¬['e', 'e'] <:+ x.object ∧ ¬['M', 'a', 't', 'h'] <:+ x.object

/-- The attribute occurs on the line of another. -/
def Within (x y : Access) : Prop :=
  x.object <:+ y.object ∧ x.key <+: y.key

theorem within_iff : x.word <:+: y.line ↔ Within x y := by
  rw [line_eq, word, infix_around_iff y.dot_not_mem.1 y.dot_not_mem.2]
  constructor
  · rintro ⟨hobject, hkey⟩
    have hlead : y.lead ++ y.object = (y.target ++ [' ', '=']) ++ ' ' :: y.object := by simp [lead]
    rw [hlead, ← reverse_prefix, reverse_append, reverse_cons, append_assoc] at hobject
    have hblank : ' ' ∉ x.object.reverse := by simpa using x.words.2.1.not_mem rfl
    exact ⟨List.reverse_prefix.mp (prefix_of_prefix_append_cons hblank hobject),
      prefix_of_prefix_append_cons (x.words.2.2.not_mem rfl) hkey⟩
  · rintro ⟨hobject, hkey⟩
    exact ⟨hobject.trans (suffix_append _ _), hkey.trans (prefix_append _ _)⟩

theorem dot_mem_line (x : Access) : '.' ∈ x.line := by
  simp [line, word]

theorem dot_not_mem_keyedLine (x : Access) : '.' ∉ x.keyedLine := by
  have h := x.dot_not_mem
  simp_all [keyedLine, byKey]

theorem line_ne_keyedLine (x : Access) : x.line ≠ x.keyedLine := fun h =>
  x.dot_not_mem_keyedLine (h ▸ x.dot_mem_line)

theorem step_of_not_within (hx : Keyed x) (h : ¬Within x y) : x.step y.line = y.line := by
  rw [step, if_neg hx.2, if_neg hx.1]
  exact replace_of_not_occurs (by simp [word]) (mt within_iff.mp h)

/-- An attribute on the line of another: it is rewritten there, which is right only for the same key. -/
theorem step_of_within (hx : Keyed x) (h : Within x y) :
    '.' ∉ x.step y.line ∧ (x.step y.line = y.keyedLine ↔ x.key = y.key) := by
  obtain ⟨⟨u, hu⟩, ⟨v, hv⟩⟩ := h
  have hdots := y.dot_not_mem
  have hline : y.line = ((y.lead ++ u) ++ x.object) ++ '.' :: (x.key ++ (v ++ [';'])) := by
    simp [line_eq, ← hu, ← hv]
  rw [← hu, ← hv] at hdots
  have hstep : x.step y.line = (y.lead ++ u) ++ x.byKey ++ (v ++ [';']) := by
    rw [step, if_neg hx.2, if_neg hx.1, hline]
    exact replace_around (by simpa using hdots.1) (by simpa using hdots.2)
  rw [hstep]
  simp only [mem_append, not_or] at hdots
  refine ⟨by simp [byKey, hdots], fun heq => ?_, fun heq => ?_⟩
  · -- The rest of the other key stands behind the bracket.
    have hrest : '"' :: ']' :: (v ++ [';']) = v ++ ['"', ']', ';'] := by
      simpa [keyedLine, byKey, ← hu, ← hv] using heq
    cases v with
    | nil => simpa using hv
    | cons d v =>
      have hquote : '"' ∉ y.key := y.words.2.2.not_mem rfl
      exact absurd (by rw [← hv, ← (cons.inj hrest).1]; simp) hquote
  · obtain rfl : v = [] := by simpa [heq] using hv
    simp [keyedLine, byKey, ← hu, heq]

theorem step_self (hx : Keyed x) : x.step x.line = x.keyedLine :=
  (step_of_within hx ⟨suffix_refl _, prefix_refl _⟩).2.mpr rfl

/-! ### Functions of the mathematics object -/

theorem capital_not_mem_lowerFrom {before : Text} (h : ∀ c ∈ t, c.toNat < 128) : 'M' ∉ lowerFrom before t := by
  induction t generalizing before with
  | nil => exact not_mem_nil
  | cons c t ih =>
    rw [forall_mem_cons] at h
    have hall := @char_of_code c (fun c => lowerChar c != 'M' && c != 'İ' && c != 'Σ') true (range 128)
      (by decide +kernel) (mem_range.mpr h.1)
    simp only [Bool.and_eq_true, bne_iff_ne] at hall
    simp [lowerFrom, hall.1.2, hall.2, Ne.symm hall.1.1, ih h.2]

theorem capital_not_mem_lower (x : Access) : 'M' ∉ lower (x.word ++ [';']) := by
  refine capital_not_mem_lowerFrom fun c hc => ?_
  rcases mem_append.mp hc with hc | hc
  · rcases mem_word hc with h | rfl
    · have hcode := letter_code h
      simp only [mem_append, mem_range'_1] at hcode
      omega
    · decide
  · rw [mem_singleton.mp hc]
    decide

theorem count_step_le (x : Access) (t : Text) : (x.step t).count 'M' ≤ t.count 'M' := by
  have hword : count 'M' x.byKey ≤ count 'M' x.word := by simp [byKey, word]
  unfold step
  split
  · refine countP_replace_le (by simp) ?_
    exact (Nat.le_of_eq (count_eq_zero.mpr x.capital_not_mem_lower)).trans (Nat.zero_le _)
  · split
    · exact Nat.le_refl _
    · exact countP_replace_le (by simp [word]) hword

theorem count_step_lt (h : ['M', 'a', 't', 'h'] <:+ x.object) : count 'M' (x.step x.line) < count 'M' x.keyedLine := by
  have hkeyed : count 'M' x.keyedLine = count 'M' x.line := by simp [keyedLine, line, byKey, word]
  have hfewer : count 'M' (lower (x.word ++ [';'])) < count 'M' (x.word ++ [';']) := by
    rw [count_eq_zero.mpr x.capital_not_mem_lower]
    exact count_pos_iff.mpr (by simp [word, h.subset (show 'M' ∈ _ by simp)])
  rw [hkeyed, step, if_pos h]
  exact (countP_replace_lt hfewer).2 ⟨x.lead, [], by simp [line]⟩

theorem math_of_not_keyed (hx : ¬Keyed x) (hee : ¬['e', 'e'] <:+ x.object) : ['M', 'a', 't', 'h'] <:+ x.object := by
  by_contra hmath
  exact hx ⟨hee, hmath⟩

theorem step_of_server (hx : ['e', 'e'] <:+ x.object) : x.step t = t := by
  have hmath : ¬['M', 'a', 't', 'h'] <:+ x.object := by
    rintro ⟨q, hq⟩
    obtain ⟨p, hp⟩ := hx
    have hlast : (p ++ ['e']) ++ ['e'] = (q ++ ['M', 'a', 't']) ++ ['h'] := by simpa using hp.trans hq.symm
    exact absurd (append_singleton_inj.mp hlast).2 (by decide)
  rw [step, if_neg hmath, if_pos hx]

theorem step_self_iff : x.step x.line = x.keyedLine ↔ Keyed x := by
  refine ⟨fun h => ?_, step_self⟩
  by_contra hx
  by_cases hee : ['e', 'e'] <:+ x.object
  · rw [step_of_server hee] at h
    exact x.line_ne_keyedLine h
  · have hlt := count_step_lt (math_of_not_keyed hx hee)
    rw [h] at hlt
    exact Nat.lt_irrefl _ hlt

/-! ### Both lines -/

/-- Both lines end up with their attributes read by key if that of the first is rewritten first: it is read by key and
occurs on the other line with its whole key or not at all, and in the latter case the other one is read by key as well;
or it is left alone as one of the server, and the other one occurs on its line with the whole key. -/
def BothKeyed (x y : Access) : Prop :=
  Keyed x ∧ (Within x y → x.key = y.key) ∧ (¬Within x y → Keyed y) ∨
    ['e', 'e'] <:+ x.object ∧ Keyed y ∧ Within y x ∧ y.key = x.key

theorem bothKeyed_iff : BothKeyed x y ↔
    y.step (x.step x.line) = x.keyedLine ∧ y.step (x.step y.line) = y.keyedLine := by
  by_cases hx : Keyed x
  · have hfirst : y.step (x.step x.line) = x.keyedLine := by
      rw [step_self hx, step_of_no_dot x.dot_not_mem_keyedLine]
    by_cases hw : Within x y
    · obtain ⟨hdot, hiff⟩ := step_of_within hx hw
      rw [step_of_no_dot hdot, hiff]
      simp [BothKeyed, hx, hx.1, hw, hfirst]
    · rw [step_of_not_within hx hw, step_self_iff]
      simp [BothKeyed, hx, hx.1, hw, hfirst]
  · by_cases hee : ['e', 'e'] <:+ x.object
    · rw [step_of_server hee, step_of_server hee, step_self_iff]
      by_cases hy : Keyed y
      · by_cases hw : Within y x
        · simp [BothKeyed, hx, hee, hy, hw, (step_of_within hy hw).2]
        · simp [BothKeyed, hx, hee, hy, hw, step_of_not_within hy hw, x.line_ne_keyedLine]
      · simp [BothKeyed, hx, hy]
    · have hlost : y.step (x.step x.line) ≠ x.keyedLine := by
        intro h
        have hlt := count_step_lt (math_of_not_keyed hx hee)
        rw [← h] at hlt
        exact Nat.lt_irrefl _ (Nat.lt_of_lt_of_le hlt (y.count_step_le _))
      simp [BothKeyed, hx, hee, hlost]

theorem mergeSort_pair {α : Type} (le : α → α → Bool) (a b : α) :
    [a, b].mergeSort le = if le a b then [a, b] else [b, a] := by
  simp [mergeSort, merge]

/-- The attributes of two lines are rewritten in the whole text, in descending order of the lines. -/
theorem convertAttributes_lines (hx : ¬"http" <:+: x.line) (hy : ¬"http" <:+: y.line) :
    convertAttributes (x.line ++ '\n' :: y.line) =
      .ok (if textLe y.line x.line then y.step (x.step (x.line ++ '\n' :: y.line))
        else x.step (y.step (x.line ++ '\n' :: y.line))) := by
  have hline (z : Access) (t : Text) : (if z.line.head? == some '#' then .ok t
      else (attributesOf z.line).foldlM (convertAttribute z.line) t) = .ok (z.step t) := by
    have hhead : (z.line.head? == some '#') = false := by
      rw [← Bool.not_eq_true, beq_iff_eq]
      intro h
      exact z.not_mem_line rfl (by decide) (mem_of_head? h)
    rw [hhead, attributesOf_line, foldlM_cons, convertAttribute_eq]
    rfl
  rw [convertAttributes, findAll_lines hx hy, mergeSort_pair]
  split
  · simp only [foldlM_cons, foldlM_nil, hline]
    rfl
  · simp only [foldlM_cons, foldlM_nil, hline]
    rfl

theorem keyedLines_iff {s t : Text} :
    s ++ '\n' :: t = x.keyedLine ++ '\n' :: y.keyedLine ↔ s = x.keyedLine ∧ t = y.keyedLine := by
  have hkeyed (z : Access) : '\n' ∉ z.keyedLine := by
    have hbreak (w : Text) (hw : IsWord w) : '\n' ∉ w := hw.not_mem rfl
    simp [keyedLine, lead, byKey, hbreak _ z.words.1, hbreak _ z.words.2.1, hbreak _ z.words.2.2]
  refine ⟨fun h => ?_, fun h => by rw [h.1, h.2]⟩
  rcases cut_eq_or_behind (hkeyed x) h with h | ⟨mid, -, hmid⟩
  · exact h
  · exact absurd (hmid ▸ mem_append_right mid mem_cons_self) (hkeyed y)

/-- Two lines, each with one attribute, come out with both attributes read by key exactly if the later of them in the
order of texts allows it when it is rewritten first. -/
theorem attributes_keyed_iff (x y : Access) (hx : ¬"http" <:+: x.line) (hy : ¬"http" <:+: y.line) :
    convertAttributes (x.line ++ '\n' :: y.line) = .ok (x.keyedLine ++ '\n' :: y.keyedLine) ↔
      if textLe y.line x.line then BothKeyed x y else BothKeyed y x := by
  rw [convertAttributes_lines hx hy, Except.ok.injEq]
  split
  · rw [step_append, step_append, keyedLines_iff, bothKeyed_iff]
  · rw [step_append, step_append, keyedLines_iff, bothKeyed_iff, and_comm]

/-- The key of `o.k` starts that of `o.kx`, on the line rewritten after it. -/
theorem shorter_key_spoils_longer : ∃ x y : Access,
    x.line ++ '\n' :: y.line = "b = o.k;\na = o.kx;" ∧ ¬"http" <:+: x.line ∧ ¬"http" <:+: y.line ∧
      convertAttributes (x.line ++ '\n' :: y.line) ≠ .ok (x.keyedLine ++ '\n' :: y.keyedLine) := by
  refine ⟨⟨['b'], ['o'], ['k'], isWord_of_all rfl, isWord_of_all rfl, isWord_of_all rfl⟩,
    ⟨['a'], ['o'], ['k', 'x'], isWord_of_all rfl, isWord_of_all rfl, isWord_of_all rfl⟩, by decide, by decide,
    by decide, fun h => ?_⟩
  have hboth := (attributes_keyed_iff _ _ (by decide) (by decide)).mp h
  rw [if_pos (by decide)] at hboth
  rcases hboth with ⟨-, hsame, -⟩ | ⟨hee, -⟩
  · exact absurd (hsame ⟨suffix_refl _, ['x'], rfl⟩) (by decide)
  · exact absurd hee (by decide)

end Access

end Geoscript.Script
