import Geoscript.Proofs.Pattern.Scan
import Geoscript.Proofs.Script.FlagRuns
import Geoscript.Proofs.Script.OneLine
import Geoscript.Proofs.Text.Gather

/-! Headers and bodies on one line: the lines of one run of flags are written together (`Slot.texts_ofFlags`). A round
that changes something leaves fewer lines, so the rounds come to an end, and then no header is open but in the last
line. There is not always room for that many rounds (`rounds_openedHeader`). -/

namespace Geoscript
open List hiding all count

namespace Slot
variable {flags : Text}

/-! ### What the slots make of lines -/

def IsFlag (c : Char) : Prop :=
  c = '0' ∨ c = '1' ∨ c = '2'

theorem IsFlag.digit {c : Char} (h : IsFlag c) : (Text.digit? c).isSome := by
  rcases h with rfl | rfl | rfl <;> rfl

open Text in
theorem gather_eq (marks : List Bool) (ls : List Text) : gather marks ls = (grouped marks ls).map flatten := by
  induction ls generalizing marks with
  | nil => cases marks <;> rfl
  | cons l ls ih =>
    cases marks with
    | nil => exact (congrArg₂ cons (append_nil l).symm (ih []))
    | cons mark marks =>
      cases ls with
      | nil => cases mark <;> simp [gather, grouped, attach]
      | cons m ls =>
        obtain ⟨new, others, hrest, hgather⟩ := gather_cons mark marks l m ls
        obtain ⟨g, gs, hgroups⟩ := grouped_cons marks m ls
        rw [ih, hgroups] at hrest
        obtain ⟨rfl, rfl⟩ := cons.inj hrest
        rw [hgather, grouped, hgroups]
        cases mark <;> simp [attach]

open Text in
theorem texts_ofFlags {ls : List Text} (hlen : flags.length = ls.length) (h : ∀ c ∈ flags, IsFlag c) :
    ∃ slots, ofFlags flags = .ok slots ∧ texts ls slots = .ok (gather (marks flags) ls) := by
  have hplaces : Forall₂ (fun x y => elementAt ls x.2 = .ok y) (flags.zip (numbers 0 flags.length)) ls := by
    have hall := forall₂_elementAt [] ls []
    rw [nil_append, append_nil] at hall
    rw [← @forall₂_map_left_iff _ _ _ (fun i y => elementAt ls i = .ok y) Prod.snd, map_snd_zip_numbers, hlen]
    exact hall
  refine ⟨_, ofFlags_eq fun c hc => (h c hc).digit, ?_⟩
  rw [gather_eq]
  refine mapM_eq_ok ?_
  rw [forall₂_map_left_iff, forall₂_map_right_iff]
  refine (forall₂_grouped hplaces (marks flags)).imp fun g ys hg => text_of_indices ?_
  rwa [indices_ofFlagged, forall₂_map_left_iff]

end Slot

namespace Script
open Text Slot Pattern
variable {t : Text}

/-! ### Headers over several lines -/

theorem replace_marks_cons (c : Char) (flags : Text) : ∃ rest, replace "10" "12" (c :: flags) = c :: rest := by
  by_cases hpre : "10" <+: c :: flags
  · obtain ⟨rest, hrest⟩ := hpre
    have hc : c = '1' := (cons.inj hrest).1.symm
    rw [← hrest, replace_append (by decide), hc]
    exact ⟨_, rfl⟩
  · exact ⟨_, replace_cons (by decide) hpre⟩

/-- With the flag behind a set one counted too, every line that is flagged is marked; the last one has no line behind
it. -/
theorem marks_replace (fs : List Bool) : marks (replace "10" "12" (fs.map flag)) = fs.dropLast := by
  match fs with
  | [] => rfl
  | [true] => rfl
  | [false] => rfl
  | first :: second :: fs =>
    by_cases hset : first ∧ second = false
    · obtain ⟨rfl, rfl⟩ := hset
      have ih := marks_replace fs
      have hreplace : replace "10" "12" ((true :: false :: fs).map flag) =
          '1' :: '2' :: replace "10" "12" (fs.map flag) :=
        @replace_append "10" "12" (by decide) (fs.map flag)
      rw [hreplace]
      cases fs with
      | nil => rfl
      | cons b fs =>
        obtain ⟨rest, hrest⟩ := replace_marks_cons (flag b) (fs.map flag)
        rw [map_cons, hrest] at ih
        rw [map_cons, hrest, dropLast_cons_cons, dropLast_cons_cons, ← ih]
        rfl
    · have ih := marks_replace (second :: fs)
      have hpre : ¬"10" <+: flag first :: flag second :: fs.map flag := by
        cases first <;> cases second <;> simp_all [flag]
      obtain ⟨rest, hrest⟩ := replace_marks_cons (flag second) (fs.map flag)
      rw [map_cons, hrest] at ih
      rw [map_cons, map_cons, replace_cons (by decide) hpre, hrest, marks_cons, ih, dropLast_cons_cons]
      cases first <;> cases second <;> simp_all [flag, joins]

theorem isFlag_flag (b : Bool) : IsFlag (flag b) := by
  cases b
  · exact .inl rfl
  · exact .inr (.inl rfl)

theorem isFlag_replace {new flags : Text} (hnew : ∀ c ∈ new, IsFlag c) (h : ∀ c ∈ flags, IsFlag c) :
    ∀ c ∈ replace "10" new flags, IsFlag c := fun c hc =>
  (mem_replace (by decide) hc).elim (h c) (hnew c)

/-- What the flags of a pass make of the lines, where the pass counts the flag behind a set one in its own way. -/
theorem texts_of_flagged (p : Text → Bool) (new : Text) (hnew : ∀ c ∈ new, IsFlag c) (hlen : new.length = 2)
    (ls : List Text) : ∃ slots, ofFlags (replace "10" new (ls.map fun l => flag (p l))) = .ok slots ∧
      texts ls slots = .ok (gather (marks (replace "10" new (ls.map fun l => flag (p l)))) ls) := by
  refine texts_ofFlags ?_ (isFlag_replace hnew ?_)
  · rw [length_replace (by decide) hlen, length_map]
  · intro c hc
    obtain ⟨l, -, rfl⟩ := mem_map.mp hc
    exact isFlag_flag _

theorem anyFlagged_map {α : Type} (p : α → Bool) {ls : List α} (h : ls.length ≤ flagLimit) :
    anyFlagged (ls.map fun l => flag (p l)) = .ok (ls.any p) := by
  have hflag (b : Bool) : (flag b != '0') = b := by cases b <;> rfl
  rw [anyFlagged, if_neg (by rw [length_map]; omega), any_map]
  simp only [Function.comp_def, hflag]

theorem joinHeaders_eq (h : (lines t).length ≤ flagLimit) :
    joinHeaders t = .ok (unlines (gather ((lines t).map opensHeader) (lines t))) := by
  simp only [joinHeaders, anyFlagged_map opensHeader h, bind, Except.bind]
  cases hany : (lines t).any opensHeader with
  | false =>
    rw [gather_of_unmarked opensHeader hany]
    exact congrArg Except.ok (unlines_lines_eq t).symm
  | true =>
    obtain ⟨slots, hslots, htexts⟩ := texts_of_flagged opensHeader "12" (by simp [IsFlag]) rfl (lines t)
    have hmarks := marks_replace ((lines t).map opensHeader)
    rw [map_map] at hmarks
    simp only [Function.comp_def] at hmarks
    rw [hmarks, gather_dropLast (length_map _)] at htexts
    simp only [if_true, hslots, htexts]
    rfl

/-- A text that begins with the header of a loop. -/
def StartsHeader (t : Text) : Prop :=
  ∃ blanks rest : Text, (∀ c ∈ blanks, isSpace c) ∧ t = "for" ++ (blanks ++ '(' :: rest)

theorem found_forStart_iff : forStart.found t ↔ StartsHeader t := by
  constructor
  · intro h
    obtain ⟨u, depth, m, hu, hm⟩ := exists_of_found h
    obtain ⟨-, m₁, ⟨rfl, hbefore⟩, m₂, ⟨hfor, -⟩, m₃, ⟨blanks, -, hblanks, hover, -⟩, hopen, -⟩ := reads_of_matchAt hm
    have hnil : u = [] := by
      have hreverse := hu.before
      rw [hbefore] at hreverse
      simpa [Cursor.start] using hreverse.symm
    subst hnil
    refine ⟨blanks, m.stop.after, fun c hc => ?_, ?_⟩
    · simpa [CharSet.has, CharSet.space, CharClass.covers] using hblanks c hc
    · have hstart : t = m.start.after := hu.after
      rw [hstart, hfor.after, hover.after, hopen.after]
      rfl
  · rintro ⟨blanks, rest, hblanks, rfl⟩
    refine found_of_matchAt (.refl _) fun depth => matchAt_isSome ?_
    simp only [forStart, Pattern.all, matcher_seq]
    have hstart (calls : Nat → Matcher) (t : Text) (k : Continuation) :
        matcher calls .forward .textStart (.start t) [] k = k (.start t) [] := rfl
    rw [hstart]
    refine lit_isSome rfl (run_isSome (u := blanks) (Nat.zero_le _) (fun c hc => ?_) rfl ?_)
    · simpa [CharSet.has, CharSet.space, CharClass.covers] using hblanks c hc
    · exact @lit_isSome _ _ _ _ _ rest rfl rfl

theorem opensHeader_iff {line : Text} :
    opensHeader line ↔ StartsHeader (trim line) ∧ count '(' (trim line) ≠ count ')' (trim line) := by
  rw [opensHeader, Bool.and_eq_true, found_forStart_iff, parensBalanced, Bool.not_eq_true', beq_eq_false_iff_ne]
  exact and_congr_right' ne_comm

/-! ### Rounds -/

/-- Lines are joined in rounds, the last of which changes nothing. -/
inductive Rounds : Nat → Text → Text → Prop where
  | last {t : Text} (h : joinHeaders t = .ok t) : Rounds 1 t t
  | next {n : Nat} {t new r : Text} (h : joinHeaders t = .ok new) (hnew : new ≠ t) (rest : Rounds n new r) :
      Rounds (n + 1) t r

variable {n : Nat} {r : Text}

theorem Rounds.joinHeadersUpTo (h : Rounds n t r) (limit : Nat) :
    joinHeadersUpTo limit t = if n ≤ limit then .ok r else .error .tooDeep := by
  induction h generalizing limit with
  | last h =>
    cases limit with
    | zero => rfl
    | succ limit =>
      rw [if_pos (Nat.succ_le_succ (Nat.zero_le limit))]
      simp only [Script.joinHeadersUpTo, h, bind, Except.bind, if_true]
      rfl
  | next h hnew _ ih =>
    cases limit with
    | zero => rfl
    | succ limit =>
      simp only [Script.joinHeadersUpTo, h, bind, Except.bind, if_neg hnew, ih, Nat.succ_le_succ_iff]

theorem Rounds.joinHeaders_self (h : Rounds n t r) : joinHeaders r = .ok r := by
  induction h with
  | last h => exact h
  | next _ _ _ ih => exact ih

theorem lines_gather (marks : List Bool) (t : Text) :
    lines (unlines (gather marks (lines t))) = gather marks (lines t) :=
  fields_join (gather_ne_nil fields_ne_nil) fun _ hl => not_mem_gather (fun _ => not_mem_of_mem_fields) _ hl

theorem exists_rounds (h : (lines t).length ≤ flagLimit) :
    ∃ n r, n ≤ (lines t).length ∧ Rounds n t r ∧ Joined t r ∧ (lines r).length ≤ (lines t).length := by
  induction hn : (lines t).length using Nat.strongRecOn generalizing t with
  | ind k ih =>
    have hround := joinHeaders_eq h
    have hlines := lines_gather ((lines t).map opensHeader) t
    have hjoined := joined_gather ((lines t).map opensHeader) (lines t)
    rw [unlines_lines_eq] at hjoined
    rcases gather_eq_or_lt ((lines t).map opensHeader) (lines t) with heq | hlt
    · rw [heq, unlines_lines_eq] at hround
      refine ⟨1, t, ?_, .last hround, .refl t, Nat.le_of_eq hn⟩
      rw [← hn]
      exact length_pos_iff.mpr fields_ne_nil
    · rw [← hlines] at hlt
      obtain ⟨n, r, hle, hrounds, hrest, hfewer⟩ := ih _ (hn ▸ hlt) (Nat.le_trans (Nat.le_of_lt hlt) h) rfl
      refine ⟨n + 1, r, by omega, .next hround ?_ hrounds, hjoined.trans hrest, by omega⟩
      intro hsame
      rw [hsame] at hlt
      exact Nat.lt_irrefl _ hlt

theorem not_opensHeader_of_joined (hsize : (lines t).length ≤ flagLimit) (h : joinHeaders t = .ok t) {line : Text}
    (hline : line ∈ (lines t).dropLast) : opensHeader line = false := by
  have hlines := lines_gather ((lines t).map opensHeader) t
  rw [joinHeaders_eq hsize] at h
  rw [Except.ok.inj h] at hlines
  rw [← Bool.not_eq_true]
  intro hopens
  have hlt := length_gather_lt hline hopens
  rw [← hlines] at hlt
  exact Nat.lt_irrefl _ hlt

/-- Bodies are brought behind their headers as the flags mark the lines, with the flag behind a set one set, too. -/
theorem joinBareBodies_eq (t : Text) : joinBareBodies t = .ok (unlines (gather (marks (replace "10" "11"
    ((lines t).map fun line => flag (endsAfterHeader line)))) (lines t))) := by
  obtain ⟨slots, hslots, htexts⟩ :=
    texts_of_flagged endsAfterHeader "11" (by simp [IsFlag]) rfl (lines t)
  simp only [joinBareBodies, hslots, htexts, bind, Except.bind]
  rfl

theorem exists_joinBareBodies (t : Text) : ∃ r, joinBareBodies t = .ok r ∧ Joined t r := by
  have hjoined := joined_gather (marks (replace "10" "11"
    ((lines t).map fun line => flag (endsAfterHeader line)))) (lines t)
  rw [unlines_lines_eq] at hjoined
  exact ⟨_, joinBareBodies_eq t, hjoined⟩

/-! ### Long headers -/

/-- A header that is not closed in the given number of lines below it. -/
def openedHeader (k : Nat) : Text :=
  unlines ("for(" :: replicate k [])

theorem lines_openedHeader (k : Nat) : lines (openedHeader k) = "for(".toList :: replicate k [] := by
  refine fields_join (cons_ne_nil _ _) fun l hl => ?_
  rcases mem_cons.mp hl with rfl | hl
  · decide
  · rw [(mem_replicate.mp hl).2]
    exact not_mem_nil

theorem length_openedHeader (k : Nat) : (lines (openedHeader k)).length = k + 1 := by
  rw [lines_openedHeader, length_cons, length_replicate]

theorem joinHeaders_openedHeader {k : Nat} (h : k + 2 ≤ flagLimit) :
    joinHeaders (openedHeader (k + 1)) = .ok (openedHeader k) := by
  have hrest : (replicate (k + 1) ([] : Text)).any opensHeader = false := by
    rw [any_eq_false]
    intro l hl
    rw [(mem_replicate.mp hl).2]
    decide +kernel
  have hfirst : opensHeader "for(" := by decide +kernel
  obtain ⟨new, others, hnew, hgather⟩ := gather_cons true ((replicate (k + 1) ([] : Text)).map opensHeader) "for(" []
    (replicate k [])
  rw [joinHeaders_eq (by rw [length_openedHeader]; exact h), lines_openedHeader, map_cons, hfirst]
  rw [replicate_succ] at hrest hnew hgather ⊢
  rw [gather_of_unmarked opensHeader hrest] at hnew
  obtain ⟨rfl, rfl⟩ := cons.inj hnew
  rw [hgather]
  rfl

/-- The header takes in one line in each round. -/
theorem rounds_openedHeader {k : Nat} (h : k + 1 ≤ flagLimit) : Rounds (k + 1) (openedHeader k) "for(" := by
  induction k with
  | zero => exact .last (joinHeaders_eq (by decide))
  | succ k ih =>
    refine .next (joinHeaders_openedHeader h) (fun hsame => ?_) (ih (by omega))
    have hlength := congrArg (fun t => (lines t).length) hsame
    simp only [length_openedHeader] at hlength
    omega

/-- Bringing the headers of a text onto one line each takes no more rounds than the text has lines. If there is room for
them, it leaves out line breaks and changes nothing else; another round has nothing to do, and no line but the last one
has a header that is left open. If not, it fails, and there is a text of few enough lines for which there is no room.
Bringing a body behind its header leaves out line breaks as well. -/
theorem header_lines_joined (t : Text) (hsize : (lines t).length ≤ 4300) : (∃ n r, n ≤ (lines t).length ∧ Rounds n t r ∧
      (∀ limit, joinHeadersUpTo limit t = if n ≤ limit then .ok r else .error .tooDeep) ∧
      Joined t r ∧ joinHeaders r = .ok r ∧
      ∀ line ∈ (lines r).dropLast, StartsHeader (trim line) → count '(' (trim line) = count ')' (trim line)) ∧
    (∀ limit < 4300, ∃ long, (lines long).length = limit + 1 ∧ joinHeadersUpTo limit long = .error .tooDeep) ∧
    ∀ y, ∃ r, joinBareBodies y = .ok r ∧ Joined y r := by
  refine ⟨?_, fun limit hlimit => ?_, exists_joinBareBodies⟩
  · obtain ⟨n, r, hn, hrounds, hjoined, hfewer⟩ := exists_rounds hsize
    have hself := hrounds.joinHeaders_self
    refine ⟨n, r, hn, hrounds, hrounds.joinHeadersUpTo, hjoined, hself, ?_⟩
    intro line hline hstarts
    have hclosed := not_opensHeader_of_joined (Nat.le_trans hfewer hsize) hself hline
    by_contra hcount
    rw [opensHeader_iff.mpr ⟨hstarts, hcount⟩] at hclosed
    cases hclosed
  · refine ⟨openedHeader limit, length_openedHeader limit, ?_⟩
    rw [(rounds_openedHeader hlimit).joinHeadersUpTo, if_neg (Nat.not_succ_le_self limit)]

/-- Two breaks are left out of the first header, and the second one stays open in the last line. There has to be room
for three rounds. -/
theorem three_lines_joined : (lines "for (a;\nb;\nc) \x7b\nfor (d").length ≤ 4300 ∧
    (∃ n, n ≤ 4 ∧ Rounds n "for (a;\nb;\nc) \x7b\nfor (d" "for (a;b;c) \x7b\nfor (d") ∧
    joinAllHeaders "for (a;\nb;\nc) \x7b\nfor (d" = .ok "for (a;b;c) \x7b\nfor (d" ∧
    joinHeadersUpTo 2 "for (a;\nb;\nc) \x7b\nfor (d" = .error .tooDeep ∧
    (∃ long, (lines long).length = roundLimit + 1 ∧ joinAllHeaders long = .error .tooDeep) ∧
    Joined "for (a;\nb;\nc) \x7b\nfor (d" "for (a;b;c) \x7b\nfor (d" ∧
    joinHeaders "for (a;b;c) \x7b\nfor (d" = .ok "for (a;b;c) \x7b\nfor (d" ∧
    opensHeader "for (d" := by
  have hsize : (lines "for (a;\nb;\nc) \x7b\nfor (d").length ≤ 4300 := by decide
  have htext : joinHeadersUpTo 3 "for (a;\nb;\nc) \x7b\nfor (d" = .ok "for (a;b;c) \x7b\nfor (d" := by
    decide +kernel
  have hshort : joinHeadersUpTo 2 "for (a;\nb;\nc) \x7b\nfor (d" = .error .tooDeep := by decide +kernel
  obtain ⟨⟨n, r, hn, hrounds, hr, hjoined, hself, -⟩, hlong, -⟩ := header_lines_joined _ hsize
  have hthree : n ≤ 3 := by
    by_contra hmore
    rw [hr, if_neg hmore] at htext
    cases htext
  rw [hr, if_pos hthree] at htext
  obtain rfl := Except.ok.inj htext
  refine ⟨hsize, ⟨n, hn, hrounds⟩, ?_, hshort, hlong roundLimit (by decide), hjoined, hself, by decide +kernel⟩
  rw [joinAllHeaders, hr, if_pos (Nat.le_trans hthree (by decide))]

end Script

end Geoscript
