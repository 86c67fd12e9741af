import Geoscript.Proofs.Script.JoinedLines
import Geoscript.Proofs.Text.Ink

/-! Lines that end with a plus or an equals sign are written together with the line behind them. The rule takes the
first line once more if it ends with the sign, and fails if the last one does. -/

namespace Geoscript.Script
open List Text Slot
variable {c : Char} {t first last : Text}

def isOpen (c : Char) (line : Text) : Bool :=
  line.getLast? == some c

theorem isOpen_trimEnd_iff (hc : isBlank c = false) {line : Text} : isOpen c (trimEnd line) ↔ EndsWith c line := by
  rw [isOpen, beq_iff_eq, getLast?_trimEnd, endsWith_iff hc]

theorem joinOpenLines_eq (hsize : (lines t).length ≤ flagLimit) : joinOpenLines c t =
    if ((lines t).map trimEnd).any (isOpen c) then
      (texts ((lines t).map trimEnd) (withNext ((((lines t).map trimEnd).map (isOpen c)).map flag))).map unlines
    else .ok t := by
  have hmarks : ((lines t).map trimEnd).length ≤ flagLimit := by rwa [length_map]
  have hany : anyFlagged (((lines t).map trimEnd).map fun line => flag (line.getLast? == some c)) =
      .ok (((lines t).map trimEnd).any (isOpen c)) := anyFlagged_map (isOpen c) hmarks
  have hflags : ((lines t).map trimEnd).map (fun line => flag (line.getLast? == some c)) =
      (((lines t).map trimEnd).map (isOpen c)).map flag := by
    simp only [map_map]
    rfl
  rw [joinOpenLines, hany, hflags]
  cases ((lines t).map trimEnd).any (isOpen c) with
  | false => rfl
  | true => cases texts ((lines t).map trimEnd) (withNext ((((lines t).map trimEnd).map (isOpen c)).map flag)) <;> rfl

theorem joinOpenLines_of_open (hc : isBlank c = false) (hsize : (lines t).length ≤ flagLimit)
    (hlast : (lines t).getLast? = some last) (h : EndsWith c last) : joinOpenLines c t = .error .outOfRange := by
  have hopen := (isOpen_trimEnd_iff hc).mpr h
  have hany : ((lines t).map trimEnd).any (isOpen c) :=
    any_eq_true.mpr ⟨_, mem_map_of_mem (mem_of_getLast? hlast), hopen⟩
  rw [joinOpenLines_eq hsize, hany, if_pos rfl]
  obtain ⟨first, rest, hlines⟩ := exists_cons_of_ne_nil (@fields_ne_nil '\n' t)
  have hmarks : (((lines t).map trimEnd).map (isOpen c)).getLast? = some true := by
    rw [getLast?_map, getLast?_map, hlast]
    exact congrArg some hopen
  rw [lines, hlines] at hmarks ⊢
  have hfails : texts (trimEnd first :: rest.map trimEnd) _ = _ := texts_withNext_of_open_end (by simp) hmarks
  rw [map_cons, map_cons, hfails]
  rfl

/-- With a last line that is not open, nothing is lost, and an open first line is there once more. -/
theorem joinOpenLines_of_closed (hc : isBlank c = false) (hsize : (lines t).length ≤ flagLimit)
    (hfirst : (lines t).head? = some first) (hlast : (lines t).getLast? = some last) (h : ¬EndsWith c last) :
    ∃ r, joinOpenLines c t = .ok r ∧ (EndsWith c first → ink r = ink first ++ ink t) ∧
      (¬EndsWith c first → ink r = ink t) := by
  rw [joinOpenLines_eq hsize]
  cases hany : ((lines t).map trimEnd).any (isOpen c) with
  | false =>
    refine ⟨t, rfl, fun hopen => ?_, fun _ => rfl⟩
    have hnone := any_eq_false.mp hany _ (mem_map_of_mem (mem_of_mem_head? hfirst))
    exact absurd ((isOpen_trimEnd_iff hc).mpr hopen) hnone
  | true =>
    obtain ⟨rest, hlines⟩ := head?_eq_some_iff.mp hfirst
    have hmarks : (((lines t).map trimEnd).map (isOpen c)).getLast? ≠ some true := by
      rw [getLast?_map, getLast?_map, hlast]
      intro hopen
      exact h ((isOpen_trimEnd_iff hc).mp (Option.some.inj hopen))
    have hink := ink_unlines_trimEnd t
    rw [hlines] at hmarks hink ⊢
    have htexts : texts (trimEnd first :: rest.map trimEnd) _ = _ := texts_withNext (by simp) hmarks
    rw [map_cons, map_cons, htexts]
    have hgroups (marks : List Bool) :
        ink (unlines ((grouped marks (trimEnd first :: rest.map trimEnd)).map flatten)) = ink t := by
      rw [ink_unlines_map (fun _ => rfl), flatten_grouped]
      exact hink
    refine ⟨_, rfl, fun hopen => ?_, fun hclosed => ?_⟩
    · rw [if_pos ((isOpen_trimEnd_iff hc).mpr hopen), singleton_append, ink_unlines, map_cons,
        flatten_cons, ← ink_unlines, hgroups, ink_trimEnd]
    · rw [if_neg fun h => hclosed ((isOpen_trimEnd_iff hc).mp h)]
      exact hgroups _

/-- What is written is kept if and only if neither the first nor the last line ends with the sign. -/
theorem joinOpenLines_kept_iff (hc : isBlank c = false) (hsize : (lines t).length ≤ flagLimit) :
    (∃ r, joinOpenLines c t = .ok r ∧ ink r = ink t) ↔
      ∀ line, (lines t).head? = some line ∨ (lines t).getLast? = some line → ¬EndsWith c line := by
  have hne : lines t ≠ [] := fields_ne_nil
  have hfirst : (lines t).head? = some ((lines t).head hne) := head?_eq_some_head hne
  have hlast : (lines t).getLast? = some ((lines t).getLast hne) := getLast?_eq_some_getLast hne
  constructor
  · rintro ⟨r, hr, hink⟩ line (hline | hline) hopen
    · by_cases hend : EndsWith c ((lines t).getLast hne)
      · rw [joinOpenLines_of_open hc hsize hlast hend] at hr
        cases hr
      · obtain ⟨r', hr', htwice, -⟩ := joinOpenLines_of_closed hc hsize hline hlast hend
        obtain rfl := Except.ok.inj (hr.symm.trans hr')
        rw [htwice hopen] at hink
        exact hopen.ink_ne_nil hc (append_left_eq_self.mp hink)
    · rw [joinOpenLines_of_open hc hsize hline hopen] at hr
      cases hr
  · intro hclosed
    obtain ⟨r, hr, -, hink⟩ := joinOpenLines_of_closed hc hsize hfirst hlast (hclosed _ (.inr hlast))
    exact ⟨r, hr, hink (hclosed _ (.inl hfirst))⟩

/-- Joining the lines that end with a plus sign, or with an equals sign, with the lines behind them keeps what is
written, and repeats nothing of it, if and only if neither the first nor the last line ends with the sign. If the last
one does, there is no result; if only the first one does, it is there twice. -/
theorem open_lines_kept_iff (t : Text) (hsize : (lines t).length ≤ 4300) (pass : Text → Except Fault Text) (c : Char)
    (hpass : (pass, c) ∈ [(joinPlusLines, '+'), (joinEqualLines, '=')]) :
    ((∃ r, pass t = .ok r ∧ ink r = ink t) ↔
      ∀ line, (lines t).head? = some line ∨ (lines t).getLast? = some line → ¬EndsWith c line) ∧
    (∀ last, (lines t).getLast? = some last → EndsWith c last → pass t = .error .outOfRange) ∧
    ∀ first last, (lines t).head? = some first → (lines t).getLast? = some last → EndsWith c first →
      ¬EndsWith c last → ∃ r, pass t = .ok r ∧ ink r = ink first ++ ink t := by
  have hjoin : pass = joinOpenLines c ∧ isBlank c = false := by
    simp only [mem_cons, not_mem_nil, or_false, Prod.mk.injEq] at hpass
    rcases hpass with ⟨rfl, rfl⟩ | ⟨rfl, rfl⟩
    · exact ⟨rfl, rfl⟩
    · exact ⟨rfl, rfl⟩
  obtain ⟨rfl, hc⟩ := hjoin
  refine ⟨joinOpenLines_kept_iff hc hsize, fun last hlast => joinOpenLines_of_open hc hsize hlast, ?_⟩
  intro first last hfirst hlast hopen hclosed
  obtain ⟨r, hr, htwice, -⟩ := joinOpenLines_of_closed hc hsize hfirst hlast hclosed
  exact ⟨r, hr, htwice hopen⟩

/-- A sum that goes on in the last line is kept, one that starts in the first line is not, and one that is open at the
end has no result. -/
theorem sum_kept_behind_first_line : joinPlusLines "a\n\"hola\" + \n \"mundo\"" = .ok "a\n\"hola\" + \"mundo\"" ∧
    joinPlusLines "\"hola\" + \n \"mundo\"" = .ok "\"hola\" +\n\"hola\" + \"mundo\"" ∧
    ¬(∃ r, joinPlusLines "\"hola\" + \n \"mundo\"" = .ok r ∧
      ink r = ink "\"hola\" + \n \"mundo\"") ∧
    joinEqualLines "a\nb =" = .error .outOfRange := by
  have hplus (t : Text) (hsize : (lines t).length ≤ 4300) :=
    open_lines_kept_iff t hsize joinPlusLines '+' mem_cons_self
  refine ⟨rfl, rfl, fun h => ?_, ?_⟩
  · refine (hplus _ (by decide)).1.mp h "\"hola\" + " (.inl rfl) ?_
    exact ⟨"\"hola\" ", [' '], rfl, by simp [Blank, isBlank, isSpace]⟩
  · have hequal := open_lines_kept_iff "a\nb =" (by decide) joinEqualLines '=' (by simp)
    exact hequal.2.1 "b =" rfl ⟨"b ", [], rfl, by simp [Blank]⟩

end Geoscript.Script
