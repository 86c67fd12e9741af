import Geoscript.Proofs.Pattern.Enclosed
import Geoscript.Proofs.Script.Name
import Geoscript.Proofs.Script.OneLine
import Geoscript.Proofs.Script.Operator
import Geoscript.Proofs.Text.Growth

/-! Conditional expressions are rewritten by three patterns. The condition ends at the last question mark and the
first value at the last colon (`search?_choices`), so a colon in the second value moves the cut. -/

namespace Geoscript.Script
open List hiding all count
open Text Pattern

/-! ### The patterns of a line -/

section
variable {target value x y z : Text}

theorem search?_assignment (hline : '\n' ∉ target) (hequals : '=' ∉ target)
    (hlast : ∀ c ∈ target.getLast?, isSpace c = false) (hvalue : '=' ∉ value) :
    ∃ m, assignment.search? (target ++ ' ' :: '=' :: ' ' :: value) = some m ∧ m.group 1 = target := by
  have hsome : (assignment.matchAt ((target ++ ' ' :: '=' :: ' ' :: value).length + 1) false
      (.start (target ++ ' ' :: '=' :: ' ' :: value))).isSome := by
    refine matchAt_isSome ?_
    simp only [assignment, all, matcher_seq, matcher_group, rest, Pattern.star, plus]
    exact run_isSome (Nat.zero_le _) (inLine_of_not_mem hline) rfl
      (run_isSome (u := [' ']) (Nat.le_refl 1) space_has_blank rfl
        (lit_isSome (t := ['=']) rfl (run_isSome (u := [' ']) (Nat.le_refl 1) space_has_blank rfl rfl)))
  obtain ⟨m, hm⟩ := Option.isSome_iff_exists.mp hsome
  have hfirst := search?_of_first (.refl _) hm fun v w _ hvw hw => absurd (append_eq_nil_iff.mp hvw.symm).2 hw
  refine ⟨m, hfirst, ?_⟩
  -- Any way to read the line cuts it at the equals sign, and the blanks before it are the one blank.
  obtain ⟨hstart, m₁, ⟨caps, ⟨u, -, -, hu, hcaps⟩, hm₁⟩, m₂, ⟨s, hlen, hs, hover, hm₂⟩, m₃, ⟨heq, hm₃⟩,
    z, -, -, -, hz⟩ := reads_of_matchAt hm
  have hgroup : m.group 1 = u := by
    have hcaptures : m.captures = m₁.2 := by rw [← hm₂, ← hm₃]; exact hz
    rw [Match.group, hcaptures, hm₁]
    exact hu.upTo
  rw [hgroup]
  have hcut : u ++ s ++ '=' :: m₃.1.after = target ++ [' '] ++ '=' :: ' ' :: value := by
    have hall : target ++ ' ' :: '=' :: ' ' :: value = u ++ m₁.1.after := hu.after
    rw [append_assoc target, singleton_append, hall, hover.after, heq.after]
    simp
  have hbefore : u ++ s = target ++ [' '] := by
    rcases cut_eq_or_behind (by simpa using hequals) hcut with ⟨h, -⟩ | ⟨mid, -, h⟩
    · exact h
    · have hmem : '=' ∈ ' ' :: value := by rw [h]; simp
      simp [hvalue] at hmem
  obtain ⟨s, d, rfl⟩ := (eq_nil_or_concat' s).resolve_left (length_pos_iff.mp hlen)
  rw [← append_assoc] at hbefore
  obtain ⟨htarget, -⟩ := append_inj' hbefore rfl
  rcases eq_nil_or_concat' s with rfl | ⟨s, e, rfl⟩
  · simpa using htarget
  · have he : isSpace e := by
      rw [← space_has]
      exact hs e (by simp)
    have hnot := hlast e (by rw [← htarget]; simp)
    rw [he] at hnot
    cases hnot

theorem matchAt_choices {c : Cursor} (depth : Nat) (hline : '\n' ∉ x ++ (y ++ z)) (hmark : '?' ∉ y ++ z)
    (hcolon : ':' ∉ z) (hafter : c.after = '=' :: (x ++ '?' :: (y ++ ':' :: z))) :
    ∃ m, choices.matchAt depth false c = some m ∧ m.group 1 = x ∧ m.group 2 = y ∧ m.group 3 = z := by
  obtain ⟨hx, hyz⟩ : '\n' ∉ x ∧ '\n' ∉ y ++ z := by simpa using hline
  obtain ⟨hy, hz⟩ : '\n' ∉ y ∧ '\n' ∉ z := by simpa using hyz
  have hmark : '?' ∉ y ++ ':' :: z := by simpa using hmark
  have hsecond : ∀ calls (d : Cursor) caps (k : Continuation), d.after = z →
      (∀ c' caps', (k c' caps').isSome) → (matcher calls .forward (.group 3 .rest) d caps k).isSome := by
    intro calls d caps k hd hk
    rw [matcher_group]
    exact run_isSome (Nat.zero_le _) (inLine_of_not_mem hz) (hd.trans (append_nil z).symm) (hk _ _)
  have hfirst : ∀ calls (d : Cursor) caps (k : Continuation), d.after = y ++ ':' :: z →
      (∀ c' caps', (k c' caps').isSome) → (matcher calls .forward (.group 2 .rest) d caps fun c' caps' =>
        matcher calls .forward (.lit [':']) c' caps' fun c' caps' =>
          matcher calls .forward (.group 3 .rest) c' caps' k).isSome := by
    intro calls d caps k hd hk
    rw [matcher_group]
    exact run_isSome (Nat.zero_le _) (inLine_of_not_mem hy) hd
      (lit_isSome (t := [':']) rfl (hsecond _ _ _ _ rfl hk))
  obtain ⟨e, he, hgroups⟩ : ∃ e, matcher (calls choices depth) .forward choices c [] (stopAt false c.pos) = some e ∧
      Match.group ⟨c, e.stop, e.captures⟩ 1 = x ∧ Match.group ⟨c, e.stop, e.captures⟩ 2 = y ∧
      Match.group ⟨c, e.stop, e.captures⟩ 3 = z := by
    have hform : choices = .seq (.lit ['=']) (.seq (.group 1 .rest) (.seq (.lit ['?'])
        (.seq (.group 2 .rest) (.seq (.lit [':']) (.group 3 .rest))))) := rfl
    generalize calls choices depth = inner
    rw [hform]
    simp only [matcher_seq]
    rw [lit_of_after (t := ['=']) hafter, group_rest_of_last rfl hx hmark (hfirst _ _ _ _ rfl (by simp)),
      group_rest_of_last rfl hy hcolon (hsecond _ _ _ _ rfl (by simp)), matcher_group, rest, Pattern.star,
      longest_of_after (Nat.zero_le _) (inLine_of_not_mem hz) (by simp) (append_nil z).symm rfl]
    refine ⟨_, rfl, ?_, ?_, ?_⟩
    · show (x ++ '?' :: (y ++ ':' :: z)).take (c.pos + 1 + x.length - (c.pos + 1)) = x
      rw [Nat.add_sub_cancel_left, take_left]
    · show (y ++ ':' :: z).take (c.pos + 1 + x.length + 1 + y.length - (c.pos + 1 + x.length + 1)) = y
      rw [Nat.add_sub_cancel_left, take_left]
    · show z.take (c.pos + 1 + x.length + 1 + y.length + 1 + z.length - (c.pos + 1 + x.length + 1 + y.length + 1)) = z
      rw [Nat.add_sub_cancel_left, take_length]
  exact ⟨_, matchAt_of_matcher he, hgroups⟩

theorem search?_choices (htarget : '=' ∉ target) (hline : '\n' ∉ x ++ (y ++ z)) (hmark : '?' ∉ y ++ z)
    (hcolon : ':' ∉ z) :
    ∃ m, choices.search? (target ++ '=' :: (x ++ '?' :: (y ++ ':' :: z))) = some m ∧
      m.group 1 = x ∧ m.group 2 = y ∧ m.group 3 = z := by
  obtain ⟨c, hc, hafter⟩ :=
    Cursor.exists_over (c := .start (target ++ '=' :: (x ++ '?' :: (y ++ ':' :: z)))) (u := target) rfl
  obtain ⟨m, hm, hgroups⟩ := matchAt_choices _ hline hmark hcolon hafter
  refine ⟨m, search?_of_first hc hm fun v w c₁ hvw hw hc₁ => ?_, hgroups⟩
  rw [Option.eq_none_iff_forall_ne_some]
  intro m' hm'
  obtain ⟨-, d, ⟨hd, -⟩, -⟩ := reads_of_matchAt hm'
  obtain ⟨e, w, rfl⟩ := exists_cons_of_ne_nil hw
  have hcut : v ++ (e :: w ++ '=' :: (x ++ '?' :: (y ++ ':' :: z))) = v ++ '=' :: d.1.after := by
    have hall : target ++ '=' :: (x ++ '?' :: (y ++ ':' :: z)) = v ++ c₁.after := hc₁.after
    rw [← append_assoc, ← hvw, hall, hd.after]
    rfl
  obtain ⟨rfl, -⟩ := cons.inj (append_cancel_left hcut)
  exact htarget (by rw [hvw]; simp)

end

/-! ### Lines -/

/-- The parts of a line that assigns one of two values. The condition and the second value are any texts without a
question mark, an equals sign and a line break. -/
structure Alternative where
  indent : Text
  target : Text
  condition : Text
  first : Text
  second : Text
  indent_blank : ∀ c ∈ indent, isSpace c ∧ c ≠ '\n'
  target_name : IsVariable target
  condition_free : ∀ c ∈ condition, c ≠ '?' ∧ c ≠ '=' ∧ c ≠ '\n'
  first_name : IsVariable first
  second_ne_nil : second ≠ []
  second_trim : trim second = second
  second_free : ∀ c ∈ second, c ≠ '?' ∧ c ≠ '=' ∧ c ≠ '\n'

namespace Alternative
variable (a : Alternative)

/-- The line with a question mark and a colon. -/
def line : Text :=
  a.indent ++ a.target ++ " = (" ++ a.condition ++ ") ? " ++ a.first ++ " : " ++ a.second

/-- The line with the first value before the condition. -/
def choice : Text :=
  a.indent ++ a.target ++ " = " ++ a.first ++ " if (" ++ a.condition ++ ") else " ++ a.second

theorem not_mem_target {c : Char} (hspace : isSpace c = false ∨ c = '\n') (hword : isWord c = false)
    (hdollar : c ≠ '$') : c ∉ a.indent ++ a.target := by
  rw [mem_append]
  rintro (h | h)
  · obtain ⟨hblank, hne⟩ := a.indent_blank c h
    rcases hspace with hspace | hline
    · rw [hspace] at hblank
      cases hblank
    · exact hne hline
  · exact a.target_name.name.not_mem hword hdollar h

theorem target_last : ∀ c ∈ (a.indent ++ a.target).getLast?, isSpace c = false := by
  obtain ⟨front, d, hfront⟩ := (eq_nil_or_concat' a.target).resolve_left a.target_name.name.1
  have hd : isSpace d = false := a.target_name.not_isSpace d (by rw [hfront]; simp)
  rw [hfront, ← append_assoc]
  simpa using hd

theorem newline_not_mem : '\n' ∉ a.line := by
  have hcondition : '\n' ∉ a.condition := fun h => (a.condition_free _ h).2.2 rfl
  have hsecond : '\n' ∉ a.second := fun h => (a.second_free _ h).2.2 rfl
  have htarget := a.not_mem_target (.inr rfl) (by decide : isWord '\n' = false) (by decide)
  have hfirst := a.first_name.name.not_mem (by decide : isWord '\n' = false) (by decide)
  simp only [mem_append] at htarget
  simp [line, hcondition, hsecond, htarget, hfirst]

theorem mark_not_mem_front : '?' ∉ a.indent ++ a.target ++ " = (" ++ a.condition ++ ") " := by
  have hcondition : '?' ∉ a.condition := fun h => (a.condition_free _ h).1 rfl
  have htarget := a.not_mem_target (.inl rfl) (by decide : isWord '?' = false) (by decide)
  simp only [mem_append] at htarget
  simp [hcondition, htarget]

theorem mark_not_mem_back : '?' ∉ ' ' :: (a.first ++ ' ' :: ':' :: ' ' :: a.second) := by
  have hsecond : '?' ∉ a.second := fun h => (a.second_free _ h).1 rfl
  have hfirst := a.first_name.name.not_mem (by decide : isWord '?' = false) (by decide)
  simp [hsecond, hfirst]

theorem indentOf_line : indentOf a.line = a.indent := by
  obtain ⟨d, back, hback⟩ := exists_cons_of_ne_nil a.target_name.name.1
  have hd : isSpace d = false := a.target_name.not_isSpace d (by rw [hback]; simp)
  rw [indentOf, line, hback]
  simp only [append_assoc]
  rw [takeWhile_append_of_pos fun c hc => (a.indent_blank c hc).1]
  simp [hd]

theorem found_iff : conditional.found a.line ↔ ∀ c ∈ a.first, isWord c := by
  constructor
  · intro h
    obtain ⟨u, depth, m, hover, hm⟩ := exists_of_found h
    obtain ⟨-, m₁, ⟨hopen, -⟩, m₂, ⟨x, -, -, hx, -⟩, m₃, ⟨hclose, -⟩, m₄, ⟨s₁, -, hs₁, -⟩, m₅, ⟨hmark, -⟩,
      m₆, ⟨s₂, -, hs₂, -⟩, m₇, ⟨w, -, hw, hwover, -⟩, m₈, ⟨s₃, hspace, hs₃, -⟩, -⟩ := reads_of_matchAt hm
    have hcut : u ++ "(" ++ x ++ ")" ++ [s₁] ++ '?' :: s₂ :: (w ++ s₃ :: m₈.1.after) =
        a.indent ++ a.target ++ " = (" ++ a.condition ++ ") " ++
          '?' :: ' ' :: (a.first ++ ' ' :: ':' :: ' ' :: a.second) := by
      have hall : a.line = u ++ m.start.after := hover.after
      have hx : m₁.1.after = x ++ m₂.1.after := hx.after
      have hw : m₆.1.after = w ++ m₇.1.after := hwover.after
      rw [hopen.after, hx, hclose.after, hs₁.after, hmark.after, hs₂.after, hw, hs₃.after] at hall
      simpa [line] using hall.symm
    have hword : w ++ s₃ :: m₈.1.after = a.first ++ ' ' :: ':' :: ' ' :: a.second := by
      rcases cut_eq_or_behind a.mark_not_mem_front hcut with ⟨-, h⟩ | ⟨mid, -, h⟩
      · exact (cons.inj h).2
      · exact absurd (by rw [h]; simp) a.mark_not_mem_back
    -- A longer first value has the blank behind the word, and a shorter one has its own in the word.
    rcases cut_or hword with ⟨mid, rfl, -⟩ | ⟨mid, hmid, hrest⟩
    · exact absurd (hw ' ' (by simp)) (by decide)
    · cases mid with
      | nil =>
        rw [append_nil] at hmid
        exact fun c hc => (has_word c).symm.trans (hw c (hmid ▸ hc))
      | cons d mid =>
        obtain ⟨rfl, -⟩ := cons.inj hrest
        have hsolid := a.first_name.not_isSpace s₃ (by rw [hmid]; simp)
        rw [← space_has, hspace] at hsolid
        cases hsolid
  · intro h
    have hline : a.line = (a.indent ++ a.target ++ " = ") ++
        '(' :: (a.condition ++ ')' :: ' ' :: '?' :: ' ' :: (a.first ++ ' ' :: ':' :: ' ' :: a.second)) := by
      simp [line]
    obtain ⟨c, hc, hafter⟩ := Cursor.exists_over (c := .start a.line) hline
    refine found_of_matchAt hc fun depth => matchAt_isSome ?_
    have hcondition : '\n' ∉ a.condition := fun h => (a.condition_free _ h).2.2 rfl
    have hsecond : '\n' ∉ ' ' :: a.second := by simpa using fun h => (a.second_free _ h).2.2 rfl
    have hwords : ∀ c ∈ a.first, CharSet.word.has c := fun c hc => (has_word c).trans (h c hc)
    simp only [conditional, str, all, matcher_seq]
    exact lit_isSome (t := ['(']) hafter (run_isSome (Nat.zero_le _) (inLine_of_not_mem hcondition) rfl
      (lit_isSome (t := [')']) rfl (one_isSome rfl rfl (lit_isSome (t := ['?']) rfl (one_isSome rfl rfl
        (run_isSome (length_pos_iff.mpr a.first_name.name.1) hwords rfl (one_isSome rfl rfl
          (lit_isSome (t := [':']) rfl (run_isSome (Nat.zero_le _) (inLine_of_not_mem hsecond)
            (append_nil _).symm rfl)))))))))

theorem line_eq : a.line = a.indent ++ a.target ++ ' ' :: '=' :: ' ' :: ('(' :: (a.condition ++ ')' :: ' ' :: '?' ::
    ' ' :: (a.first ++ ' ' :: ':' :: ' ' :: a.second))) := by
  simp [line]

theorem equals_not_mem_target : '=' ∉ a.indent ++ a.target :=
  a.not_mem_target (.inl rfl) rfl (by decide)

theorem search?_target : ∃ m, assignment.search? a.line = some m ∧ m.group 1 = a.indent ++ a.target := by
  have hcondition : '=' ∉ a.condition := fun h => (a.condition_free _ h).2.1 rfl
  have hsecond : '=' ∉ a.second := fun h => (a.second_free _ h).2.1 rfl
  have hfirst := a.first_name.name.not_mem (by decide : isWord '=' = false) (by decide)
  rw [line_eq]
  exact search?_assignment (a.not_mem_target (.inr rfl) rfl (by decide)) a.equals_not_mem_target a.target_last
    (by simp [hcondition, hsecond, hfirst])

theorem trim_target : trim (a.indent ++ a.target) = a.target := by
  have hindent : Blank a.indent := fun c hc => isBlank_of_isSpace (a.indent_blank c hc).1
  have htrim := a.target_name.trim_around hindent (forall_mem_nil _)
  rwa [append_nil] at htrim

theorem trim_condition : trim (" (" ++ a.condition ++ ") ") = "(" ++ a.condition ++ ")" := by
  have hblank : Blank [' '] := forall_mem_singleton.mpr rfl
  have hlast : ("(" ++ a.condition ++ ")").getLast? = some ')' := getLast?_concat
  have htrim := @trim_around ("(" ++ a.condition ++ ")") [' '] [' '] hblank hblank (by simp)
    (fun c hc => by obtain rfl := Option.some.inj hc; rfl)
    (fun c hc => by obtain rfl := Option.some.inj (hlast.symm.trans hc); rfl)
  rw [← htrim]
  simp

theorem search?_values {y z : Text} (hcut : ' ' :: (a.first ++ ' ' :: ':' :: ' ' :: a.second) = y ++ ':' :: z)
    (hcolon : ':' ∉ z) : ∃ m, choices.search? a.line = some m ∧
      m.group 1 = " (" ++ a.condition ++ ") " ∧ m.group 2 = y ∧ m.group 3 = z := by
  have hline : a.line = a.indent ++ a.target ++ [' '] ++ '=' :: (" (" ++ a.condition ++ ") " ++ '?' ::
      (y ++ ':' :: z)) := by
    rw [← hcut]
    simp [line]
  have hmark : '?' ∉ y ++ ':' :: z := hcut ▸ a.mark_not_mem_back
  have hnewline := a.newline_not_mem
  rw [hline] at hnewline ⊢
  refine search?_choices (by simpa using a.equals_not_mem_target) (fun h => hnewline ?_) (fun h => hmark ?_) hcolon
  · simp only [mem_append, mem_cons] at h ⊢
    tauto
  · simp only [mem_append, mem_cons] at h ⊢
    tauto

theorem convertConditionals_line (h : conditional.found a.line) {y z : Text}
    (hcut : ' ' :: (a.first ++ ' ' :: ':' :: ' ' :: a.second) = y ++ ':' :: z) (hcolon : ':' ∉ z) :
    convertConditionals a.line = .ok (a.indent ++ a.target ++ " = " ++ trim y ++ " if (" ++ a.condition ++
      ") else " ++ trim z) := by
  obtain ⟨m, hm, htarget⟩ := a.search?_target
  obtain ⟨m', hm', hgroup₁, hgroup₂, hgroup₃⟩ := a.search?_values hcut hcolon
  have hne : a.line ≠ [] := by
    rw [line_eq]
    simp
  have hhas : has " = " a.line := by
    rw [line_eq, has_iff]
    exact ⟨a.indent ++ a.target, _, by simp; rfl⟩
  rw [convertConditionals, lines_of_not_mem a.newline_not_mem, filter_cons_of_pos h, filter_nil]
  simp only [convertConditionalLines, conditionalLine, hhas, hm, hm', if_true, bind, Except.bind, pure, Except.pure,
    htarget, hgroup₁, hgroup₂, hgroup₃, trim_target, trim_condition, indentOf_line, replace_whole hne]
  simp

theorem choice_ne_line : a.choice ≠ a.line := by
  intro h
  obtain ⟨d, back, hback⟩ := exists_cons_of_ne_nil a.first_name.name.1
  have hcut : a.indent ++ a.target ++ " = " ++ d :: (back ++ " if (" ++ a.condition ++ ") else " ++
      a.second) = a.indent ++ a.target ++ " = " ++ '(' :: (a.condition ++ ')' :: ' ' :: '?' :: ' ' :: (a.first ++
        ' ' :: ':' :: ' ' :: a.second)) := by
    rw [choice, line_eq, hback] at h
    simpa [hback] using h
  obtain ⟨rfl, -⟩ := cons.inj (append_cancel_left hcut)
  exact a.first_name.name.not_mem (by decide : isWord '(' = false) (by decide) (by rw [hback]; simp)

theorem convertConditionals_of_colon (h : conditional.found a.line) (hcolon : ':' ∈ a.second) :
    ∃ rest, convertConditionals a.line = .ok (a.indent ++ a.target ++ " = " ++ a.first ++ " :" ++ rest) := by
  obtain ⟨z, x, hreverse, hz⟩ := eq_append_cons_of_mem (mem_reverse.mpr hcolon)
  have hsecond : a.second = x.reverse ++ ':' :: z.reverse := by
    rw [← reverse_reverse a.second, hreverse]
    simp
  obtain ⟨d, back, hback⟩ := exists_cons_of_ne_nil a.first_name.name.1
  have htrim : trim (' ' :: (a.first ++ ' ' :: ':' :: ' ' :: x.reverse)) =
      a.first ++ [' '] ++ ':' :: trimEnd (' ' :: x.reverse) := by
    have hblank : Blank [' '] := forall_mem_singleton.mpr rfl
    have hd : isBlank d = false := a.first_name.solid d (by rw [hback]; simp)
    rw [← trimEnd_append_cons (by decide : isBlank ':' = false), hback]
    refine (trim_append_left hblank _).trans (congrArg trimEnd ?_)
    exact (trimStart_cons hd _).trans (by simp)
  rw [a.convertConditionals_line h (y := ' ' :: (a.first ++ ' ' :: ':' :: ' ' :: x.reverse)) (z := z.reverse)
    (by simp [hsecond]) (by simpa using hz), htrim]
  exact ⟨_, by simp; rfl⟩

/-- The three parts are kept if and only if the first value is made of word characters and the second has no colon. -/
theorem parts_kept_iff : convertConditionals a.line = .ok a.choice ↔ (∀ c ∈ a.first, isWord c) ∧ ':' ∉ a.second := by
  constructor
  · intro h
    have hfound : conditional.found a.line := by
      rw [← Bool.not_eq_false]
      intro hnot
      rw [convertConditionals_of_one a.newline_not_mem hnot] at h
      exact a.choice_ne_line (Except.ok.inj h).symm
    refine ⟨a.found_iff.mp hfound, fun hcolon => ?_⟩
    obtain ⟨rest, hrest⟩ := a.convertConditionals_of_colon hfound hcolon
    rw [h, choice, Except.ok.injEq] at hrest
    simp at hrest
  · rintro ⟨hwords, hsecond⟩
    have hblank : Blank [' '] := forall_mem_singleton.mpr rfl
    have hvalue : trim (' ' :: (a.first ++ [' '])) = a.first := a.first_name.trim_around hblank hblank
    have hsecond' : trim (' ' :: a.second) = a.second := (trim_append_left hblank _).trans a.second_trim
    rw [a.convertConditionals_line (a.found_iff.mpr hwords) (y := ' ' :: (a.first ++ [' '])) (z := ' ' :: a.second)
      (by simp) (by simpa using hsecond), hvalue, hsecond']
    rfl

end Alternative

def keyedAlternative : Alternative where
  indent := []
  target := ['m']
  condition := ['c']
  first := ['t']
  second := "\x7ba: 1\x7d"
  indent_blank := by simp
  target_name := ⟨⟨by simp, by simp; decide⟩, by simp; decide⟩
  condition_free := by simp
  first_name := ⟨⟨by simp, by simp; decide⟩, by simp; decide⟩
  second_ne_nil := by simp
  second_trim := by decide
  second_free := by simp

theorem keyed_alternative_spoiled : convertConditionals keyedAlternative.line ≠ .ok keyedAlternative.choice := fun h =>
  (keyedAlternative.parts_kept_iff.mp h).2 (by decide)

end Geoscript.Script
