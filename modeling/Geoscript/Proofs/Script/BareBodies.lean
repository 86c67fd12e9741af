import Geoscript.Proofs.Script.JoinedLines
import Geoscript.Proofs.Script.Parenthesized
import Geoscript.Proofs.Text.Ink

/-! Bodies without braces. A `for` header with nothing behind it (`BareHeader`) flags the next line as well, and flags
that meet make one run, so a line between two such headers is also written together with the one behind it. -/

namespace Geoscript
open List

namespace Text

theorem length_gather {marks : List Bool} {ls : List Text} (h : ls.length = marks.length + 1) :
    (gather marks ls).length + marks.count true = ls.length := by
  induction marks generalizing ls with
  | nil => exact Nat.add_zero _
  | cons mark marks ih =>
    match ls, h with
    | line :: next :: ls, h =>
      obtain ⟨new, others, hrest, hgather⟩ := gather_cons mark marks line next ls
      have hlength := ih (Nat.succ.inj h)
      rw [hrest] at hlength
      rw [hgather]
      cases mark <;>
        simp only [if_true, Bool.false_eq_true, if_false, length_cons, count_cons_self,
          count_cons_of_ne Bool.false_ne_true] at hlength ⊢ <;> omega

end Text

namespace Script
open Text Slot Pattern
variable {line t : Text}

/-! ### The header -/

/-- A line with a `for` header and nothing but blanks behind its first closing parenthesis: that is the one that closes
the header, and no other parenthesis stands in the header. -/
def BareHeader (line : Text) : Prop :=
  ∃ front blanks inside back, line = (front ++ "for" ++ blanks ++ '(' :: inside) ++ ')' :: back ∧
    (∀ c ∈ blanks, isSpace c) ∧ inside ≠ [] ∧ '(' ∉ inside ∧ ')' ∉ front ++ inside ∧
    ∀ c ∈ back, isBlank c

theorem Pieces.open_not_mem (h : Pieces t) (hclose : ')' ∉ t) : '(' ∉ t := by
  induction h with
  | nil => exact not_mem_nil
  | char hopen _ _ ih =>
    rw [mem_cons, not_or] at hclose ⊢
    exact ⟨Ne.symm hopen, ih hclose.2⟩
  | group _ _ _ _ => simp at hclose

theorem header_of_found (h : forInside.found line) :
    ∃ front blanks inside back, line = (front ++ "for" ++ blanks ++ '(' :: inside) ++ ')' :: back ∧
      (∀ c ∈ blanks, isSpace c) ∧ inside ≠ [] ∧ Pieces inside := by
  obtain ⟨u, depth, m, hu, hm⟩ := exists_of_found h
  change (insideOf (.str "for") .blanks).matchAt _ _ _ = some m at hm
  obtain ⟨-, inside, hinside, hpieces, hclose⟩ := pieces_of_matchAt hm
  have hne := inside_ne_nil_of_matchAt hm
  obtain ⟨back, hback⟩ := head?_eq_some_iff.mp hclose
  have hword : ∃ blanks before, m.start.before = '(' :: (blanks ++ ("for".toList.reverse ++ before)) ∧
      ∀ c ∈ blanks, CharSet.space.has c := by
    unfold matchAt at hm
    split at hm
    · next e he =>
      change matcher _ .forward (.seq (.behind (.all [.lit "for", .star .space, .str "("])) parenthesized)
        _ [] _ = some e at he
      rw [matcher_seq] at he
      exact word_of_behind (Option.isSome_iff_exists.mpr ⟨e, he⟩)
    · cases hm
  obtain ⟨blanks, before, hbefore, hblanks⟩ := hword
  refine ⟨before.reverse, blanks.reverse, inside, back, ?_, ?_, ?_, hpieces⟩
  · have hfront : u.reverse = '(' :: (blanks ++ ("for".toList.reverse ++ before)) := by
      rw [← hbefore, hu.before]
      exact (append_nil _).symm
    have hline : line = u ++ (inside ++ ')' :: back) := by
      rw [← hback, ← hinside.after]
      exact hu.after
    rw [hline, ← reverse_reverse u, hfront]
    simp
  · intro c hc
    rw [← space_has]
    exact hblanks c (mem_reverse.mp hc)
  · rintro rfl
    rw [← hinside.eq_of_nil] at hne
    exact hne hclose

theorem found_of_header {front blanks inside back : Text} (hblanks : ∀ c ∈ blanks, isSpace c)
    (hne : inside ≠ []) (hinside : Shallow inside) :
    forInside.found ((front ++ "for" ++ blanks ++ '(' :: inside) ++ ')' :: back) := by
  obtain ⟨c, hc, hafter⟩ := Cursor.exists_over (u := front ++ "for" ++ blanks ++ ['('])
    (c := .start ((front ++ "for" ++ blanks ++ '(' :: inside) ++ ')' :: back))
    (show _ = _ ++ (inside ++ ')' :: back) by simp [Cursor.start])
  have hbefore : c.before = '(' :: (blanks.reverse ++ ("for".toList.reverse ++ front.reverse)) := by
    rw [hc.before]
    simp [Cursor.start]
  have hspaces : ∀ ch ∈ blanks.reverse, CharSet.space.has ch := fun ch hch => by
    rw [space_has]
    exact hblanks ch (mem_reverse.mp hch)
  refine found_of_matchAt hc fun depth => ?_
  obtain ⟨c', -, -, hmatch⟩ : ∃ c', c.Over inside c' ∧ c'.after = ')' :: back ∧
      (insideOf (.str "for") .blanks).matchAt depth false c = some ⟨c, c', []⟩ :=
    matchAt_shallow depth hinside hne (fun calls k => matcher_wordBehind calls hspaces hbefore) hafter
  exact Option.isSome_iff_exists.mpr ⟨_, hmatch⟩

theorem drop_behind_close {a b : Text} (ha : ')' ∉ a) : ((a ++ ')' :: b).dropWhile (· != ')')).drop 1 = b := by
  have hbefore : ∀ c ∈ a, (c != ')') := fun c hc => bne_iff_ne.mpr fun h => ha (h ▸ hc)
  rw [dropWhile_append_of_pos hbefore]
  rfl

theorem endsAfterHeader_iff : endsAfterHeader line ↔ BareHeader line := by
  rw [endsAfterHeader, Bool.and_eq_true, List.isEmpty_iff, trim_eq_nil_iff]
  constructor
  · rintro ⟨hfound, hblank⟩
    obtain ⟨front, blanks, inside, back, hline, hblanks, hne, hpieces⟩ := header_of_found hfound
    -- The header is closed by the first closing parenthesis, for only blanks follow that one.
    obtain ⟨a, b, hab, ha⟩ := eq_append_cons_of_mem (show ')' ∈ line by simp [hline])
    rw [hab, drop_behind_close ha] at hblank
    rcases cut_eq_or_behind ha (hline.symm.trans hab) with ⟨hfront, rfl⟩ | ⟨mid, -, rfl⟩
    · rw [← hfront] at ha
      have hclose : ')' ∉ front ++ inside := by
        simp only [mem_append, mem_cons, not_or] at ha ⊢
        exact ⟨ha.1.1.1, ha.2.2⟩
      have hopen := hpieces.open_not_mem fun h => hclose (mem_append_right front h)
      exact ⟨front, blanks, inside, back, hline, hblanks, hne, hopen, hclose, hblank⟩
    · exact absurd (hblank ')' (by simp)) (by decide)
  · rintro ⟨front, blanks, inside, back, rfl, hblanks, hne, hopen, hclose, hblank⟩
    rw [mem_append, not_or] at hclose
    have hblanksclose : ')' ∉ blanks := fun h => absurd (hblanks _ h) (by decide)
    rw [drop_behind_close (by simp [hclose.1, hclose.2, hblanksclose])]
    exact ⟨found_of_header hblanks hne (.of_not_mem hopen hclose.2), hblank⟩

instance : DecidablePred BareHeader := fun line =>
  decidable_of_iff (endsAfterHeader line) endsAfterHeader_iff

theorem endsAfterHeader_eq (line : Text) : endsAfterHeader line = decide (BareHeader line) := by
  rw [Bool.eq_iff_iff, endsAfterHeader_iff, decide_eq_true_iff]

/-! ### Flags -/

/-- The flags with the one behind each set flag set, too; `last` is the flag before them. -/
def raised : Bool → List Bool → List Bool
  | _, [] => []
  | last, f :: fs => (f || last) :: raised f fs

/-- How many flags that are not set stand between two that are. -/
def enclosed : List Bool → Nat
  | a :: b :: c :: fs => (if a && !b && c then 1 else 0) + enclosed (b :: c :: fs)
  | _ => 0

theorem replace_flags (fs : List Bool) : replace "10" "11" (fs.map flag) = (raised false fs).map flag := by
  match fs with
  | [] => rfl
  | [true] => rfl
  | [false] => rfl
  | true :: false :: fs =>
    have hreplace : replace "10" "11" ((true :: false :: fs).map flag) =
        '1' :: '1' :: replace "10" "11" (fs.map flag) :=
      @replace_append "10" "11" (by decide) (fs.map flag)
    rw [hreplace, replace_flags fs]
    rfl
  | true :: true :: fs =>
    have hpre : ¬"10" <+: flag true :: (true :: fs).map flag := by
      simp [flag]
    rw [map_cons, replace_cons (by decide) hpre, replace_flags (true :: fs)]
    rfl
  | false :: f :: fs =>
    have hpre : ¬"10" <+: flag false :: (f :: fs).map flag := by
      simp [flag]
    rw [map_cons, replace_cons (by decide) hpre, replace_flags (f :: fs)]
    rfl

/-- Whether each line is written together with the one behind it: where its flag is set, or where it stands between
two whose flags are set. The flag before the lines is `last`. -/
def joinedOn : Bool → List Bool → List Bool
  | last, f :: g :: fs => (f || last && g) :: joinedOn f (g :: fs)
  | _, _ => []

theorem joins_flags (a b : Bool) (fs : List Bool) : joins (flag a) (flag b) (fs.map flag).head? = (a == b) := by
  cases fs with
  | nil => cases a <;> cases b <;> rfl
  | cons f fs => cases a <;> cases b <;> cases f <;> rfl

theorem marks_raised (last : Bool) (fs : List Bool) : marks ((raised last fs).map flag) = joinedOn last fs := by
  match fs with
  | [] => rfl
  | [_] => rfl
  | f :: g :: fs =>
    have hmark := joins_flags (f || last) (g || f) (raised g fs)
    have hrest := marks_raised f (g :: fs)
    rw [raised, map_cons] at hrest
    rw [raised, raised, map_cons, map_cons, marks_cons, hmark, hrest, joinedOn]
    cases f <;> cases last <;> cases g <;> rfl

theorem length_joinedOn (last f : Bool) (fs : List Bool) : (f :: fs).length = (joinedOn last (f :: fs)).length + 1 := by
  induction fs generalizing last f with
  | nil => rfl
  | cons g fs ih => exact congrArg (· + 1) (ih f g)

/-- Lines are written together where a flag is set, and where one that is not set stands between two that are. -/
theorem count_joinedOn (last : Bool) (fs : List Bool) :
    (joinedOn last fs).count true = fs.dropLast.count true + enclosed (last :: fs) := by
  match fs with
  | [] => rfl
  | [_] => rfl
  | f :: g :: fs =>
    rw [joinedOn, dropLast_cons_cons, enclosed, count_cons, count_cons, count_joinedOn f (g :: fs)]
    cases f <;> cases last <;> cases g <;> simp <;> omega

theorem joinedOn_eq_dropLast {last : Bool} {fs : List Bool} (h : enclosed (last :: fs) = 0) :
    joinedOn last fs = fs.dropLast := by
  match fs with
  | [] => rfl
  | [_] => rfl
  | f :: g :: fs =>
    rw [enclosed, Nat.add_eq_zero_iff] at h
    rw [joinedOn, dropLast_cons_cons, joinedOn_eq_dropLast h.2]
    cases f <;> cases last <;> cases g <;> simp_all

theorem enclosed_cons_false (fs : List Bool) : enclosed (false :: fs) = enclosed fs := by
  match fs with
  | [] => rfl
  | [_] => rfl
  | _ :: _ :: _ => exact Nat.zero_add _

theorem enclosed_map_eq_zero_iff {p : Text → Bool} {ls : List Text} : enclosed (ls.map p) = 0 ↔
    ∀ a b c, [a, b, c] <:+: ls → p a → p c → p b := by
  match ls with
  | [] => simp [enclosed]
  | [_] => simp [enclosed, infix_cons_iff]
  | [_, _] => simp [enclosed, infix_cons_iff]
  | a :: b :: c :: ls =>
    have hrest := @enclosed_map_eq_zero_iff p (b :: c :: ls)
    have hfirst : (if p a && !p b && p c then 1 else 0) = 0 ↔ (p a → p c → p b) := by
      cases p a <;> cases p b <;> cases p c <;> simp
    rw [map_cons, map_cons] at hrest
    rw [map_cons, map_cons, map_cons, enclosed, Nat.add_eq_zero_iff, hfirst, hrest]
    constructor
    · rintro ⟨hstart, hlater⟩ x y z hxyz
      rcases infix_cons_iff.mp hxyz with hpre | hxyz
      · simp only [cons_prefix_cons, nil_prefix, and_true] at hpre
        obtain ⟨rfl, rfl, rfl⟩ := hpre
        exact hstart
      · exact hlater x y z hxyz
    · intro h
      exact ⟨h a b c ⟨[], ls, rfl⟩, fun x y z hxyz => h x y z (infix_cons hxyz)⟩

/-! ### The lines -/

/-- Which of the lines are headers with nothing behind them. -/
def bareHeaders (ls : List Text) : List Bool :=
  ls.map (decide <| BareHeader ·)

theorem joinBareBodies_gather (t : Text) :
    joinBareBodies t = .ok (unlines (gather (joinedOn false (bareHeaders (lines t))) (lines t))) := by
  have hflags : (lines t).map (fun line => flag (endsAfterHeader line)) = (bareHeaders (lines t)).map flag := by
    rw [bareHeaders, map_map]
    exact map_congr_left fun line _ => congrArg flag (endsAfterHeader_eq line)
  rw [joinBareBodies_eq, hflags, replace_flags, marks_raised]

theorem count_bareHeaders (ls : List Text) :
    (bareHeaders ls).dropLast.count true = ls.dropLast.countP (BareHeader ·) := by
  rw [bareHeaders, ← map_dropLast, List.count, countP_map]
  exact countP_congr fun line _ => by simp

/-- How many lines there are when headers are brought together with their bodies, and other lines with what follows. -/
theorem length_gather_joinedOn {ls : List Text} (hne : ls ≠ []) :
    (gather (joinedOn false (bareHeaders ls)) ls).length + ls.dropLast.countP (BareHeader ·) +
      enclosed (bareHeaders ls) = ls.length := by
  obtain ⟨line, rest, rfl⟩ := exists_cons_of_ne_nil hne
  have hmarks := length_joinedOn false (decide (BareHeader line)) (bareHeaders rest)
  have hlength : (line :: rest).length = (joinedOn false (bareHeaders (line :: rest))).length + 1 := by
    rw [← length_map]
    exact hmarks
  have hcount := count_joinedOn false (bareHeaders (line :: rest))
  rw [enclosed_cons_false, count_bareHeaders] at hcount
  have hgather := length_gather hlength
  omega

theorem enclosed_bareHeaders_eq_zero_iff {ls : List Text} : enclosed (bareHeaders ls) = 0 ↔
    ∀ a b c, [a, b, c] <:+: ls → BareHeader a → BareHeader c → BareHeader b := by
  rw [bareHeaders, enclosed_map_eq_zero_iff]
  simp only [decide_eq_true_iff]

/-- A body is brought behind its header, and the text then has as many lines less as it has headers with nothing behind
them before its last line, and as it has other lines that stand between two such headers. So each header is written
together with exactly the line behind it, and no other line is lost, if and only if between two such headers there is
no single line of another kind. -/
theorem bare_headers_joined_iff (t : Text) : ∃ r, joinBareBodies t = .ok r ∧
    (lines r).length + (lines t).dropLast.countP (BareHeader ·) + enclosed (bareHeaders (lines t)) = (lines t).length ∧
    ((lines r).length = (lines t).length - (lines t).dropLast.countP (BareHeader ·) ↔
      ∀ a b c, [a, b, c] <:+: lines t → BareHeader a → BareHeader c → BareHeader b) ∧
    (r = unlines (gather (bareHeaders (lines t)) (lines t)) ↔
      ∀ a b c, [a, b, c] <:+: lines t → BareHeader a → BareHeader c → BareHeader b) := by
  have hne : lines t ≠ [] := fields_ne_nil
  have hlength := length_gather_joinedOn hne
  have hlines := lines_gather (joinedOn false (bareHeaders (lines t))) t
  rw [← hlines] at hlength
  refine ⟨_, joinBareBodies_gather t, hlength, ?_, ?_⟩
  · rw [← enclosed_bareHeaders_eq_zero_iff]
    omega
  · have hdrop : gather (bareHeaders (lines t)).dropLast (lines t) = gather (bareHeaders (lines t)) (lines t) :=
      gather_dropLast (length_map _)
    rw [← enclosed_bareHeaders_eq_zero_iff, ← hdrop]
    constructor
    · -- With the headers alone as marks, only they make the lines fewer.
      intro htext
      have hshort : (lines t).length = (bareHeaders (lines t)).dropLast.length + 1 := by
        rw [length_dropLast, bareHeaders, length_map]
        have := length_pos_iff.mpr hne
        omega
      have hcount := length_gather hshort
      rw [count_bareHeaders, ← lines_gather, ← htext] at hcount
      omega
    · intro hzero
      rw [joinedOn_eq_dropLast (by rw [enclosed_cons_false, hzero])]

/-- The body of the first loop is the only line between the headers, and both loops become one line; with one more
line between them each becomes a line of its own. -/
theorem lone_body_between_headers_not_kept : BareHeader "for (a)" ∧ ¬BareHeader "b" ∧ BareHeader "for (c)" ∧
    joinBareBodies "for (a)\nb\nfor (c)\nd" = .ok "for (a)bfor (c)d" ∧
    (lines "for (a)bfor (c)d").length ≠ (lines "for (a)\nb\nfor (c)\nd").length -
      (lines "for (a)\nb\nfor (c)\nd").dropLast.countP (BareHeader ·) ∧
    joinBareBodies "for (a)\nb\n\nfor (c)\nd" = .ok "for (a)b\n\nfor (c)d" := by
  have hfirst : BareHeader "for (a)" := by decide +kernel
  have hbody : ¬BareHeader "b" := by decide +kernel
  have hsecond : BareHeader "for (c)" := by decide +kernel
  have htext : joinBareBodies "for (a)\nb\nfor (c)\nd" = .ok "for (a)bfor (c)d" := by decide +kernel
  obtain ⟨r, hr, -, hlines, -⟩ := bare_headers_joined_iff "for (a)\nb\nfor (c)\nd"
  obtain rfl := Except.ok.inj (htext.symm.trans hr)
  refine ⟨hfirst, hbody, hsecond, htext, fun hcount => hbody ?_, by decide +kernel⟩
  exact hlines.mp hcount _ _ _ ⟨[], ["d"], by decide⟩ hfirst hsecond

end Script

end Geoscript
