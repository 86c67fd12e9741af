import Geoscript.Proofs.Script.OpenLines

/-! Chains of calls. A line that begins with a dot, or an empty line in front of it, goes on with the line before it
(`goesOn`), and loses only blanks. Of two empty lines before a dot the first does not go on, and what is written there
begins with the dot (`Stray`). -/

namespace Geoscript.Script
open List hiding all count
open Text Slot
variable {t l line : Text} {ls rest : List Text}

/-! ### Which lines go on -/

theorem startsWithDot_eq (t : Text) : startsWithDot t = ((ink t).head? == some '.') := by
  rw [startsWithDot, head?_trim]

theorem startsWithDot_iff : startsWithDot line ↔ BeginsWith '.' line := by
  rw [startsWithDot_eq, beq_iff_eq, beginsWith_iff rfl]

theorem startsWithDot_trimEnd (line : Text) : startsWithDot (trimEnd line) = startsWithDot line := by
  rw [startsWithDot_eq, ink_trimEnd, ← startsWithDot_eq]

/-- Whether a line goes on with the one before it: it begins with a dot, or it is empty and the next one does. -/
def goesOn (l : Text) (rest : List Text) : Bool :=
  if l.isEmpty then rest.head?.any startsWithDot else startsWithDot l

def dots : List Text → List Bool
  | [] => []
  | l :: rest => goesOn l rest :: dots rest

theorem dotFlags_eq (ls : List Text) : dotFlags ls = (dots ls).map flag := by
  induction ls with
  | nil => rfl
  | cons l ls ih => rw [dotFlags, ih]; rfl

theorem length_dots (ls : List Text) : (dots ls).length = ls.length := by
  induction ls with
  | nil => rfl
  | cons l ls ih => exact congrArg (· + 1) ih

theorem goesOn_of_startsWithDot (h : startsWithDot l) (rest : List Text) : goesOn l rest := by
  cases l with
  | nil => cases h
  | cons c l => exact h

theorem goesOn_nil_iff : goesOn [] rest ↔ ∃ m more, rest = m :: more ∧ startsWithDot m := by
  cases rest <;> simp [goesOn]

theorem goesOn_trimEnd (h : ¬Blank l) (rest : List Text) : goesOn (trimEnd l) rest = startsWithDot l := by
  rw [← startsWithDot_trimEnd]
  cases hl : trimEnd l with
  | nil => exact absurd (trimEnd_eq_nil_iff.mp hl) h
  | cons c l => rfl

theorem true_mem_dots (h : l ∈ ls) (hl : startsWithDot l) : true ∈ dots ls := by
  induction ls with
  | nil => cases h
  | cons m ls ih =>
    rcases mem_cons.mp h with rfl | h
    · exact mem_cons.mpr (.inl (goesOn_of_startsWithDot hl ls).symm)
    · exact mem_cons_of_mem _ (ih h)

/-! ### What a chain begins with -/

theorem ink_chained (g : List Text) : ink (chained g) = ink g.flatten := by
  cases g with
  | nil => rfl
  | cons l g =>
    have htrim : ink ∘ trim = ink := funext ink_trim
    rw [chained, ink_append, ink_flatten, map_map, htrim, flatten_cons, ink_append, ink_flatten]

theorem ink_chained_cons (l : Text) (g : List Text) : ink (chained (l :: g)) = ink l ++ ink (chained g) := by
  rw [ink_chained, flatten_cons, ink_append, ← ink_chained]

theorem startsWithDot_chained_nil (g : List Text) : startsWithDot (chained ([] :: g)) = startsWithDot (chained g) := by
  rw [startsWithDot_eq, ink_chained_cons, startsWithDot_eq]
  rfl

theorem startsWithDot_chained (h : ink l ≠ []) (g : List Text) : startsWithDot (chained (l :: g)) = startsWithDot l := by
  obtain ⟨c, more, hink⟩ := exists_cons_of_ne_nil h
  rw [startsWithDot_eq, ink_chained_cons, startsWithDot_eq, hink]
  rfl

theorem ink_ne_nil_of_startsWithDot (h : startsWithDot l) : ink l ≠ [] := by
  intro hink
  rw [startsWithDot_eq, hink] at h
  cases h

theorem startsWithDot_of_goesOn (h : goesOn l rest) :
    ∃ g gs, grouped (dots rest) (l :: rest) = (l :: g) :: gs ∧ startsWithDot (chained (l :: g)) := by
  cases l with
  | nil =>
    obtain ⟨m, more, rfl, hm⟩ := goesOn_nil_iff.mp h
    obtain ⟨g, gs, hgroups⟩ := grouped_cons (dots more) m more
    refine ⟨m :: g, gs, ?_, ?_⟩
    · rw [dots, goesOn_of_startsWithDot hm, grouped_true, hgroups]
      rfl
    · rw [startsWithDot_chained_nil, startsWithDot_chained (ink_ne_nil_of_startsWithDot hm), hm]
  | cons c l =>
    obtain ⟨g, gs, hgroups⟩ := grouped_cons (dots rest) (c :: l) rest
    have hdot : startsWithDot (c :: l) := h
    exact ⟨g, gs, hgroups, (startsWithDot_chained (ink_ne_nil_of_startsWithDot hdot) g).trans hdot⟩

/-! ### Chains without a line to go on with -/

/-- Behind the empty line two lines of a chain: another empty line and one that begins with a dot. -/
def StrayAt (l : Text) (rest : List Text) : Prop :=
  l = [] ∧ ∃ m more, rest = [] :: m :: more ∧ startsWithDot m

def Stray (ls : List Text) : Prop :=
  ∃ m, [[], [], m] <:+: ls ∧ startsWithDot m

theorem stray_cons : Stray (l :: rest) ↔ StrayAt l rest ∨ Stray rest := by
  constructor
  · rintro ⟨m, hinfix, hm⟩
    rcases infix_cons_iff.mp hinfix with ⟨more, hmore⟩ | hinfix
    · obtain ⟨rfl, rfl⟩ := cons.inj hmore
      exact .inl ⟨rfl, m, more, rfl, hm⟩
    · exact .inr ⟨m, hinfix, hm⟩
  · rintro (⟨rfl, m, more, rfl, hm⟩ | ⟨m, hinfix, hm⟩)
    · exact ⟨m, ⟨[], more, rfl⟩, hm⟩
    · exact ⟨m, infix_cons hinfix, hm⟩

theorem not_strayAt_of_goesOn (h : goesOn l rest) : ¬StrayAt l rest := by
  rintro ⟨rfl, m, more, rfl, -⟩
  cases h

theorem strayAt_nil_iff (hline : goesOn [] rest = false) :
    StrayAt [] rest ↔ ∃ m more, rest = m :: more ∧ goesOn m more := by
  constructor
  · rintro ⟨-, m, more, rfl, hm⟩
    exact ⟨[], m :: more, rfl, goesOn_nil_iff.mpr ⟨m, more, rfl, hm⟩⟩
  · rintro ⟨m, more, rfl, hgo⟩
    cases m with
    | nil =>
      obtain ⟨c, more', rfl, hc⟩ := goesOn_nil_iff.mp hgo
      exact ⟨rfl, c, more', rfl, hc⟩
    | cons c m =>
      -- The empty line goes on if this line begins with a dot, as this line itself does.
      exact absurd (hline.symm.trans hgo) Bool.false_ne_true

variable {g : List Text} {gs : List (List Text)}

theorem startsWithDot_tail_iff (hgroups : grouped (dots rest) (l :: rest) = (l :: g) :: gs) :
    startsWithDot (chained g) ↔ ∃ m more, rest = m :: more ∧ goesOn m more := by
  cases rest with
  | nil =>
    obtain rfl := (cons.inj (cons.inj hgroups).1).2
    refine iff_of_false Bool.false_ne_true ?_
    rintro ⟨m, more, hnil, -⟩
    cases hnil
  | cons m more =>
    cases hgo : goesOn m more with
    | true =>
      obtain ⟨g', gs', hgroups', hdot⟩ := startsWithDot_of_goesOn hgo
      rw [dots, hgo, grouped_true, hgroups'] at hgroups
      obtain rfl := (cons.inj (cons.inj hgroups).1).2
      exact iff_of_true hdot ⟨m, more, rfl, hgo⟩
    | false =>
      rw [dots, hgo, grouped_false] at hgroups
      obtain rfl := (cons.inj (cons.inj hgroups).1).2
      refine iff_of_false Bool.false_ne_true ?_
      rintro ⟨m', more', hcons, hgo'⟩
      obtain ⟨rfl, rfl⟩ := cons.inj hcons
      exact Bool.false_ne_true (hgo.symm.trans hgo')

/-- The group of a line that does not go on begins with a dot only if the line is empty, and so is the next one. -/
theorem startsWithDot_group_iff (htidy : ink l = [] → l = []) (hline : goesOn l rest = false)
    (hgroups : grouped (dots rest) (l :: rest) = (l :: g) :: gs) :
    startsWithDot (chained (l :: g)) ↔ StrayAt l rest := by
  cases l with
  | nil => rw [startsWithDot_chained_nil, startsWithDot_tail_iff hgroups, strayAt_nil_iff hline]
  | cons c l =>
    have hink : ink (c :: l) ≠ [] := fun hink => cons_ne_nil c l (htidy hink)
    have hdot : startsWithDot (c :: l) = false := hline
    rw [startsWithDot_chained hink, hdot]
    exact iff_of_false Bool.false_ne_true fun h => cons_ne_nil c l h.1

theorem not_stray_cons_iff (htidy : ink l = [] → l = []) (hline : goesOn l rest = false)
    (htail : (∀ g ∈ (grouped (dots rest) (l :: rest)).tail, startsWithDot (chained g) = false) ↔ ¬Stray rest) :
    (∀ g ∈ grouped (dots rest) (l :: rest), startsWithDot (chained g) = false) ↔ ¬Stray (l :: rest) := by
  obtain ⟨g, gs, hgroups⟩ := grouped_cons (dots rest) l rest
  rw [hgroups, tail_cons] at htail
  rw [hgroups, forall_mem_cons, htail, ← Bool.not_eq_true, startsWithDot_group_iff htidy hline hgroups, stray_cons,
    not_or]

theorem not_stray_iff_tail (htidy : ∀ m ∈ rest, ink m = [] → m = []) (l : Text) :
    (∀ g ∈ (grouped (dots rest) (l :: rest)).tail, startsWithDot (chained g) = false) ↔ ¬Stray rest := by
  induction rest generalizing l with
  | nil => simp [dots, grouped, Stray]
  | cons m more ih =>
    rw [forall_mem_cons] at htidy
    have htail := ih htidy.2 m
    rw [dots]
    cases hgo : goesOn m more with
    | true =>
      obtain ⟨g, gs, hgroups⟩ := grouped_cons (dots more) m more
      rw [hgroups] at htail
      rw [grouped_true, hgroups, stray_cons, not_or]
      exact htail.trans (iff_and_self.mpr fun _ => not_strayAt_of_goesOn hgo)
    | false => exact not_stray_cons_iff htidy.1 hgo htail

/-! ### The pass -/

theorem joinDotLines_eq (hsize : (lines t).length ≤ flagLimit) : joinDotLines t =
    if (dots ((lines t).map trimEnd)).any id then
      ((withPrevious ((dots ((lines t).map trimEnd)).map flag)).mapM (chainText ((lines t).map trimEnd))).map unlines
    else .ok t := by
  have hmarks : (dots ((lines t).map trimEnd)).length ≤ flagLimit := by rwa [length_dots, length_map]
  have hany : anyFlagged ((dots ((lines t).map trimEnd)).map flag) = .ok ((dots ((lines t).map trimEnd)).any id) :=
    anyFlagged_map id hmarks
  rw [joinDotLines, dotFlags_eq, hany]
  cases (dots ((lines t).map trimEnd)).any id with
  | false => rfl
  | true =>
    cases (withPrevious ((dots ((lines t).map trimEnd)).map flag)).mapM (chainText ((lines t).map trimEnd)) <;> rfl

/-- A first line that does not go on: the lines are written in the groups that start with such lines. -/
theorem joinDotLines_of_first {first : Text} (hsize : (lines t).length ≤ flagLimit) (hlines : lines t = first :: rest)
    (hfirst : goesOn (trimEnd first) (rest.map trimEnd) = false) : joinDotLines t =
      if (dots ((lines t).map trimEnd)).any id then
        .ok (unlines ((grouped (dots (rest.map trimEnd)) (trimEnd first :: rest.map trimEnd)).map chained))
      else .ok t := by
  have hlen : (trimEnd first :: rest.map trimEnd).length = (false :: dots (rest.map trimEnd)).length := by
    rw [length_cons, length_cons, length_dots]
  rw [joinDotLines_eq hsize, hlines, map_cons, dots, hfirst, chains_withPrevious_false hlen]
  rfl

theorem exists_joinDotLines (hsize : (lines t).length ≤ flagLimit) : ∃ r, joinDotLines t = .ok r := by
  obtain ⟨first, rest, hlines⟩ := exists_cons_of_ne_nil (show lines t ≠ [] from fields_ne_nil)
  cases hfirst : goesOn (trimEnd first) (rest.map trimEnd) with
  | false =>
    rw [joinDotLines_of_first hsize hlines hfirst]
    split <;> exact ⟨_, rfl⟩
  | true =>
    have hlen : (trimEnd first :: rest.map trimEnd).length = (true :: dots (rest.map trimEnd)).length := by
      rw [length_cons, length_cons, length_dots]
    have hlast := getLast?_eq_some_getLast (cons_ne_nil (trimEnd first) (rest.map trimEnd))
    rw [joinDotLines_eq hsize, hlines, map_cons, dots, hfirst, chains_withPrevious_true hlen hlast]
    exact ⟨_, rfl⟩

/-- Writing chains on one line changes blanks only, if the first line is neither blank nor part of a chain. -/
theorem chains_keep_ink (t : Text) (hsize : (lines t).length ≤ 4300) (first : Text)
    (hfirst : (lines t).head? = some first) (hblank : ¬Blank first) (hdot : ¬BeginsWith '.' first) :
    ∃ r, joinDotLines t = .ok r ∧ ink r = ink t := by
  obtain ⟨rest, hlines⟩ := head?_eq_some_iff.mp hfirst
  have hgo : goesOn (trimEnd first) (rest.map trimEnd) = false := by
    rw [goesOn_trimEnd hblank, ← Bool.not_eq_true, startsWithDot_iff]
    exact hdot
  rw [joinDotLines_of_first hsize hlines hgo]
  split
  · refine ⟨_, rfl, ?_⟩
    rw [ink_unlines_map ink_chained, flatten_grouped, ← ink_unlines_trimEnd t, hlines]
    rfl
  · exact ⟨t, rfl, rfl⟩

theorem broken_chain_kept : joinDotLines "a = b\n\n  .c()\nd\n .e" = .ok "a = b.c()\nd.e" ∧
    ink "a = b.c()\nd.e" = ink "a = b\n\n  .c()\nd\n .e" := by
  have htext : joinDotLines "a = b\n\n  .c()\nd\n .e" = .ok "a = b.c()\nd.e" := rfl
  obtain ⟨r, hr, hink⟩ := chains_keep_ink "a = b\n\n  .c()\nd\n .e" (by decide) "a = b" rfl
    (by simp [Blank, isBlank, isSpace]) (by rw [beginsWith_iff rfl]; decide)
  obtain rfl := Except.ok.inj (htext.symm.trans hr)
  exact ⟨htext, hink⟩

/-! ### Lines that still begin with a dot -/

theorem not_mem_chained {c : Char} (h : ∀ l ∈ g, c ∉ l) : c ∉ chained g := by
  cases g with
  | nil => exact not_mem_nil
  | cons l g =>
    rw [forall_mem_cons] at h
    simp only [chained, mem_append, mem_flatten, mem_map, not_or]
    refine ⟨h.1, ?_⟩
    rintro ⟨_, ⟨m, hm, rfl⟩, hc⟩
    exact h.2 m hm (trim_subset m hc)

theorem lines_chained {marks : List Bool} (h : ∀ m ∈ l :: rest, '\n' ∉ m) :
    lines (unlines ((grouped marks (l :: rest)).map chained)) = (grouped marks (l :: rest)).map chained := by
  refine fields_join ?_ ?_
  · obtain ⟨g, gs, hgroups⟩ := grouped_cons marks l rest
    rw [hgroups]
    exact cons_ne_nil _ _
  · intro line hline
    obtain ⟨g, hg, rfl⟩ := mem_map.mp hline
    refine not_mem_chained fun m hm => h m ?_
    rw [← flatten_grouped marks (l :: rest)]
    exact mem_flatten.mpr ⟨g, hg, hm⟩

theorem stray_trimEnd_iff : Stray (ls.map trimEnd) ↔
    ∃ a b c, [a, b, c] <:+: ls ∧ Blank a ∧ Blank b ∧ BeginsWith '.' c := by
  constructor
  · rintro ⟨m, hinfix, hm⟩
    obtain ⟨abc, habc, hmap⟩ := infix_map_iff.mp hinfix
    obtain ⟨a, bc, rfl, ha, htail⟩ := map_eq_cons_iff.mp hmap.symm
    obtain ⟨b, cs, rfl, hb, hlast⟩ := map_eq_cons_iff.mp htail
    obtain ⟨c, rfl, rfl⟩ := map_eq_singleton_iff.mp hlast
    rw [startsWithDot_trimEnd] at hm
    exact ⟨a, b, c, habc, trimEnd_eq_nil_iff.mp ha, trimEnd_eq_nil_iff.mp hb, startsWithDot_iff.mp hm⟩
  · rintro ⟨a, b, c, habc, ha, hb, hc⟩
    refine ⟨trimEnd c, infix_map_iff.mpr ⟨[a, b, c], habc, ?_⟩, ?_⟩
    · rw [map_cons, map_cons, trimEnd_eq_nil_iff.mpr ha, trimEnd_eq_nil_iff.mpr hb]
      rfl
    · rw [startsWithDot_trimEnd, startsWithDot_iff]
      exact hc

theorem goesOn_first {first : Text} (hlines : lines t = first :: rest)
    (h : ∀ line, (lines t).find? (¬Blank ·) = some line → ¬BeginsWith '.' line) :
    goesOn (trimEnd first) (rest.map trimEnd) = false := by
  rw [← Bool.not_eq_true, hlines] at *
  by_cases hblank : Blank first
  · rw [trimEnd_eq_nil_iff.mpr hblank]
    intro hgo
    obtain ⟨m', more', hmap, hm⟩ := goesOn_nil_iff.mp hgo
    obtain ⟨m, more, rfl, rfl, -⟩ := map_eq_cons_iff.mp hmap
    rw [startsWithDot_trimEnd] at hm
    have hfull : ¬Blank m := fun hb => ink_ne_nil_of_startsWithDot hm (ink_eq_nil_iff.mpr hb)
    exact h m (by simp [hblank, hfull]) (startsWithDot_iff.mp hm)
  · rw [goesOn_trimEnd hblank, startsWithDot_iff]
    exact h first (by simp [hblank])

/-- If the first line that is not blank does not begin with a dot, then no line begins with one once the chains are
written on one line, unless a line that begins with a dot stands behind two blank lines. -/
theorem chains_on_one_line_iff (t : Text) (hsize : (lines t).length ≤ 4300)
    (hfirst : ∀ line, (lines t).find? (¬Blank ·) = some line → ¬BeginsWith '.' line) :
    ∃ r, joinDotLines t = .ok r ∧ ((∀ line ∈ lines r, ¬BeginsWith '.' line) ↔
      ¬∃ a b c, [a, b, c] <:+: lines t ∧ Blank a ∧ Blank b ∧ BeginsWith '.' c) := by
  obtain ⟨first, rest, hlines⟩ := exists_cons_of_ne_nil (show lines t ≠ [] from fields_ne_nil)
  have hgo := goesOn_first hlines hfirst
  rw [joinDotLines_of_first hsize hlines hgo]
  cases hany : (dots ((lines t).map trimEnd)).any id with
  | false =>
    have hnone : ∀ line ∈ lines t, ¬BeginsWith '.' line := by
      intro line hline hdot
      rw [← startsWithDot_iff, ← startsWithDot_trimEnd] at hdot
      exact any_eq_false.mp hany true (true_mem_dots (mem_map_of_mem hline) hdot) rfl
    refine ⟨t, rfl, iff_of_true hnone ?_⟩
    rintro ⟨a, b, c, habc, -, -, hc⟩
    exact hnone c (habc.subset (by simp)) hc
  | true =>
    refine ⟨_, rfl, ?_⟩
    have hfree : ∀ m ∈ trimEnd first :: rest.map trimEnd, '\n' ∉ m := by
      intro m hm
      rw [← map_cons, ← hlines] at hm
      obtain ⟨line, hline, rfl⟩ := mem_map.mp hm
      exact fun hc => not_mem_of_mem_fields hline (trimEnd_subset line hc)
    have htidy : ∀ m ∈ trimEnd first :: rest.map trimEnd, ink m = [] → m = [] := by
      intro m hm hink
      rw [← map_cons] at hm
      obtain ⟨line, -, rfl⟩ := mem_map.mp hm
      rw [ink_trimEnd, ink_eq_nil_iff] at hink
      exact trimEnd_eq_nil_iff.mpr hink
    rw [forall_mem_cons] at htidy
    have hstray := not_stray_cons_iff htidy.1 hgo (not_stray_iff_tail htidy.2 _)
    rw [← map_cons, ← hlines, stray_trimEnd_iff] at hstray
    rw [lines_chained hfree, forall_mem_map, ← hstray]
    simp only [← startsWithDot_iff, Bool.not_eq_true]
    rw [hlines]
    rfl

theorem chain_left_behind_two_blank_lines : joinDotLines "a\n \n\n.b\n\n.c" = .ok "a\n.b.c" ∧
    ¬∀ line ∈ lines "a\n.b.c", ¬BeginsWith '.' line := by
  have htext : joinDotLines "a\n \n\n.b\n\n.c" = .ok "a\n.b.c" := rfl
  have hfirst : (lines "a\n \n\n.b\n\n.c").find? (¬Blank ·) = some ['a'] := by decide
  obtain ⟨r, hr, hiff⟩ := chains_on_one_line_iff "a\n \n\n.b\n\n.c" (by decide) (by
    intro line hline
    rw [hfirst] at hline
    obtain rfl := Option.some.inj hline
    rw [beginsWith_iff rfl]
    decide)
  obtain rfl := Except.ok.inj (htext.symm.trans hr)
  rw [hiff, not_not]
  refine ⟨htext, [' '], [], ".b", ⟨[['a']], [[], ".c"], by decide⟩, by decide, by decide, ?_⟩
  exact (beginsWith_iff rfl).mpr (by decide)

/-! ### Long texts -/

theorem joinDotLines_of_long (h : flagLimit < (lines t).length) : joinDotLines t = .error .tooManyLines := by
  have hany : anyFlagged (dotFlags ((lines t).map trimEnd)) = .error .tooManyLines := by
    rw [anyFlagged, dotFlags_eq, length_map, length_dots, length_map, if_pos h]
  rw [joinDotLines, hany]
  rfl

theorem joinHeaders_of_long (h : flagLimit < (lines t).length) : joinHeaders t = .error .tooManyLines := by
  have hany : anyFlagged ((lines t).map fun line => flag (opensHeader line)) = .error .tooManyLines := by
    rw [anyFlagged, length_map, if_pos h]
  rw [joinHeaders, hany]
  rfl

theorem ok_iff_of_limit {pass : Text → Except Fault Text} (t : Text)
    (hshort : (lines t).length ≤ flagLimit → ∃ r, pass t = .ok r)
    (hlong : flagLimit < (lines t).length → pass t = .error .tooManyLines) :
    (∃ r, pass t = .ok r) ↔ (lines t).length ≤ flagLimit := by
  refine ⟨?_, hshort⟩
  rintro ⟨r, hr⟩
  by_contra hsize
  rw [hlong (Nat.lt_of_not_le hsize)] at hr
  cases hr

/-- Chains and headers are written on one line in the texts of at most 4300 lines and in no others, whatever is in the
lines: a longer text is refused. -/
theorem accepted_iff_few_lines (t : Text) : ((∃ r, joinDotLines t = .ok r) ↔ (lines t).length ≤ 4300) ∧
    ((∃ r, joinHeaders t = .ok r) ↔ (lines t).length ≤ 4300) ∧
    (4300 < (lines t).length → joinDotLines t = .error .tooManyLines ∧ joinHeaders t = .error .tooManyLines) :=
  ⟨ok_iff_of_limit t exists_joinDotLines joinDotLines_of_long,
    ok_iff_of_limit t (fun hsize => ⟨_, joinHeaders_eq hsize⟩) joinHeaders_of_long,
    fun hlong => ⟨joinDotLines_of_long hlong, joinHeaders_of_long hlong⟩⟩

theorem length_lines (t : Text) : (lines t).length = count '\n' t + 1 := by
  induction t with
  | nil => rfl
  | cons c t ih =>
    by_cases h : c = '\n'
    · have hcount : count '\n' (c :: t) = count '\n' t + 1 := by rw [h, count, count_cons_self, count]
      rw [lines, fields_cons_sep h, length_cons, hcount]
      exact congrArg (· + 1) ih
    · obtain ⟨first, rest, ht, hcons⟩ := fields_cons_of_ne h t
      have hcount : count '\n' (c :: t) = count '\n' t := count_cons_of_ne h
      rw [lines, ht, length_cons] at ih
      rw [lines, hcons, length_cons, hcount, ih]

theorem first_text_refused : (∃ r, joinDotLines (replicate 4299 '\n') = .ok r) ∧
    joinDotLines (replicate 4300 '\n') = .error .tooManyLines ∧
    joinHeaders (replicate 4300 '\n') = .error .tooManyLines := by
  have hlength (n : Nat) : (lines (replicate n '\n')).length = n + 1 := by
    rw [length_lines, count, count_replicate_self]
  refine ⟨(accepted_iff_few_lines _).1.mpr ?_, (accepted_iff_few_lines _).2.2 ?_⟩
  · exact Nat.le_of_eq (hlength 4299)
  · exact Nat.lt_of_lt_of_eq (Nat.lt_succ_self 4300) (hlength 4300).symm

end Geoscript.Script
