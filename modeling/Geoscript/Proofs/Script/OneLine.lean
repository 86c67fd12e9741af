import Geoscript.Proofs.Pattern.Search
import Geoscript.Proofs.Text.Fields
import Geoscript.Proofs.Text.Replace
import Geoscript.Script.Convert

/-! The passes on lines leave a text of one line alone in which they find nothing of what they look for. -/

namespace Geoscript.Script
open List Text Pattern
variable {t : Text}

theorem lines_of_not_mem (h : '\n' ∉ t) : lines t = [t] :=
  fields_of_not_mem h

/-! ### Continued lines -/

theorem anyFlagged_false : anyFlagged [flag false] = .ok false :=
  rfl

section OneLine
variable (hline : '\n' ∉ t)
include hline

theorem joinDotLines_of_one (hne : t ≠ []) (hend : trimEnd t = t)
    (hdot : startsWithDot t = false) : joinDotLines t = .ok t := by
  have hempty : t.isEmpty = false := by
    simpa using hne
  have hflags : dotFlags [t] = [flag false] := by
    simp [dotFlags, hempty, hdot]
  simp only [joinDotLines, lines_of_not_mem hline, map_cons, map_nil, hend, hflags, anyFlagged_false]
  rfl

theorem joinOpenLines_of_one {c : Char} (hend : trimEnd t = t) (hlast : t.getLast? ≠ some c) :
    joinOpenLines c t = .ok t := by
  have hflag : (t.getLast? == some c) = false := by
    simpa using hlast
  simp only [joinOpenLines, lines_of_not_mem hline, map_cons, map_nil, hend, hflag, anyFlagged_false]
  rfl

/-! ### Functions -/

theorem nameExports_of_one (h : functionAssignment.found t = false) : nameExports t = pure t := by
  have hname : nameExport t t = pure t := by
    rw [nameExport, h]
    rfl
  rw [nameExports, lines_of_not_mem hline]
  cases hmention : exportsMention.found t with
  | true =>
    rw [filter_cons_of_pos hmention, filter_nil, foldlM_cons, hname, pure_bind]
    rfl
  | false =>
    rw [filter_cons_of_neg (by simp [hmention]), filter_nil]
    rfl

theorem convertAll_of_one {kind : FunctionKind} (h : kind.header.matchStart? t = none) :
    kind.convertAll t = pure t := by
  have hflags : functionFlags kind.header 0 [t] = ['0'] := by
    simp [functionFlags, h]
  have hgroups : groupFunctions kind.header [t] = .ok [.line t] := by
    rw [groupFunctions, hflags]
    rfl
  simp only [FunctionKind.convertAll, lines_of_not_mem hline, hgroups]
  rfl

/-! ### Loops -/

theorem joinHeaders_of_one (h : opensHeader t = false) : joinHeaders t = .ok t := by
  simp only [joinHeaders, lines_of_not_mem hline, map_cons, map_nil, h, anyFlagged_false]
  rfl

theorem joinAllHeaders_of_one (h : opensHeader t = false) : joinAllHeaders t = .ok t := by
  have hroom : roundLimit = 989 + 1 := rfl
  rw [joinAllHeaders, hroom, joinHeadersUpTo, joinHeaders_of_one hline h]
  simp only [bind, Except.bind, if_true]
  rfl

theorem joinBareBodies_of_one : joinBareBodies t = .ok t := by
  simp only [joinBareBodies, lines_of_not_mem hline, map_cons, map_nil]
  cases endsAfterHeader t with
  | true => exact congrArg Except.ok (append_nil t)
  | false => rfl

omit hline in
theorem lastInside?_of_not_found {p : Pattern} (h : p.found t = false) : lastInside? p t = none := by
  rw [lastInside?, findAll, occurrences_of_not_found h]
  rfl

theorem convertForLoops_of_one (hopen : opensHeader t = false) (h : forInside.found t = false) :
    convertForLoops t = .ok t := by
  simp only [convertForLoops, joinAllHeaders_of_one hline hopen, joinBareBodies_of_one hline, bind, Except.bind,
    lines_of_not_mem hline, mapM_cons, convertForLine, lastInside?_of_not_found h]
  rfl

theorem convertWhileLoops_of_one (h : whileInside.found t = false) : convertWhileLoops t = .ok t := by
  simp only [convertWhileLoops, joinBareBodies_of_one hline, bind, Except.bind,
    lines_of_not_mem hline, mapM_cons, convertWhileLine, lastInside?_of_not_found h]
  rfl

theorem convertSteps_of_one (h : ∀ op ∈ StepOperator.all, has op.symbol t = false) : convertSteps t = .ok t := by
  have hsteps : findSteps [t] 0 = .ok [] := by
    simp only [StepOperator.all, forall_mem_cons] at h
    obtain ⟨h₁, h₂, h₃, h₄, -⟩ := h
    simp [findSteps, StepOperator.all, filterM, filterAuxM, elementAt, bind, Except.bind, pure,
      Except.pure, h₁, h₂, h₃, h₄]
  simp only [convertSteps, lines_of_not_mem hline, hsteps, bind, Except.bind]
  rfl

end OneLine

/-! ### Branches and expressions -/

theorem replaceMatches_of_not_found {p : Pattern} {new : Match → Text} (h : p.found t = false) :
    replaceMatches p new t = t := by
  rw [replaceMatches, occurrences_of_not_found h]
  rfl

theorem convertBranches_of_not_found (helseIf : elseIfHeader.found t = false) (hif : ifHeader.found t = false)
    (helse : elseHeader.found t = false) : convertBranches t = dropUnmatched t := by
  simp only [convertBranches, replaceMatches_of_not_found helseIf, replaceMatches_of_not_found hif,
    replaceMatches_of_not_found helse]

theorem convertConditionals_of_one (hline : '\n' ∉ t) (h : conditional.found t = false) :
    convertConditionals t = .ok t := by
  rw [convertConditionals, lines_of_not_mem hline, filter_cons_of_neg (by simp [h])]
  rfl

theorem convertArrayTests_of_not_found (h : arrayTest.found t = false) : convertArrayTests t = t := by
  rw [convertArrayTests, occurrences_of_not_found h]
  rfl

theorem convertObjectCalls_of_not_found (h : objectCall.found t = false)
    (hdictionary : ¬"ee.Dictionary(**\x7b" <:+: t) : convertObjectCalls t = t := by
  rw [convertObjectCalls, passedInsides, occurrences_of_not_found h]
  exact replace_of_not_occurs (by decide) hdictionary

/-! ### Keys -/

theorem occurrences_keyValue (h : ':' ∉ t) : keyValue.occurrences t = [] := by
  refine eq_nil_iff_forall_not_mem.mpr fun m hm => ?_
  obtain ⟨u, depth, moving, hu, hmatch⟩ := mem_occurrences hm
  obtain ⟨-, m₁, ⟨caps, ⟨x, -, -, hx, -⟩, -⟩, m₂, ⟨hcolon, -⟩, -⟩ := reads_of_matchAt hmatch
  have hall : t = _ := ((hu.trans hx).trans hcolon).after
  exact h (hall ▸ by simp)

theorem foldl_eq_self {α : Type} {f : Text → α → Text} {xs : List α} (h : ∀ x ∈ xs, f t x = t) : xs.foldl f t = t := by
  induction xs with
  | nil => rfl
  | cons x xs ih =>
    rw [forall_mem_cons] at h
    rw [foldl_cons, h.1]
    exact ih h.2

theorem quoteKeys_of_no_key (h : ∀ m ∈ objectLiteral.occurrences t, ':' ∉ m.group 1) : quoteKeys t = t := by
  refine foldl_eq_self fun m hm => foldl_eq_self fun entry hentry => ?_
  rw [occurrences_keyValue fun hc => h m hm (mem_of_mem_fields hentry hc)]
  rfl

end Geoscript.Script
