import Geoscript.Proofs.Script.Assignment
import Geoscript.Proofs.Script.Parenthesized

/-! A loop header on one line, behind spaces and with an opening brace behind it, becomes the loop that its inside
becomes (`convertForLoops_headerLine`, `forLoop_of_parts`). -/

namespace Geoscript.Script
open List Text Pattern
variable {w inside : Text}

/-! ### The header -/

def Indent (w : Text) : Prop :=
  ∀ c ∈ w, c = ' '

theorem Indent.nil : Indent [] :=
  forall_mem_nil _

theorem Indent.not_mem (hw : Indent w) {c : Char} (hc : c ≠ ' ') : c ∉ w := fun h =>
  hc (hw c h)

/-- What can stand in a header: text on one line, whose parentheses are not nested. -/
structure Readable (inside : Text) : Prop where
  ne_nil : inside ≠ []
  shallow : Shallow inside
  no_break : '\n' ∉ inside

def headerLine (w inside : Text) : Text :=
  w ++ "for (" ++ (inside ++ [')', ' ', '{'])

theorem headerLine_eq : headerLine w inside = (w ++ "for ") ++ '(' :: (inside ++ ')' :: [' ', '{']) := by
  simp [headerLine]

theorem open_not_mem_front (hw : Indent w) : '(' ∉ w ++ "for " := by
  simp [hw.not_mem]

theorem lastInside?_headerLine (hw : Indent w) (hinside : Readable inside) :
    lastInside? forInside (headerLine w inside) = some inside := by
  rw [headerLine_eq]
  refine lastInside?_of_shallow hinside.shallow hinside.ne_nil (open_not_mem_front hw) (by decide) ?_
  intro calls c k hbefore
  obtain ⟨before, after, pos⟩ := c
  obtain rfl : before = "( rof" ++ w.reverse := by simpa using hbefore
  rfl

/-! ### The line -/

theorem not_mem_headerLine (hw : Indent w) (hinside : Readable inside) : '\n' ∉ headerLine w inside := by
  simp [headerLine, hw.not_mem, hinside.no_break]

theorem trim_headerLine (hw : Indent w) : trim (headerLine w inside) = headerLine [] inside := by
  have hstart : trimStart (headerLine w inside) = headerLine [] inside := by
    rw [trimStart, headerLine, append_assoc]
    rw [dropWhile_append_of_pos fun c hc => hw c hc ▸ rfl]
    rfl
  have hend := trimEnd_concat (by decide : isBlank '{' = false) ("for (" ++ (inside ++ [')', ' ']))
  rw [trim, hstart]
  simpa [headerLine] using hend

theorem not_opensHeader_headerLine (hw : Indent w) (hinside : Readable inside) :
    opensHeader (headerLine w inside) = false := by
  have hbalanced : parensBalanced (headerLine [] inside) := by
    simp [parensBalanced, headerLine, Text.count, hinside.shallow.closed]
  rw [opensHeader, trim_headerLine hw, hbalanced, Bool.not_true, Bool.and_false]

theorem convertForLoops_headerLine (hw : Indent w) (hinside : Readable inside) :
    convertForLoops (headerLine w inside) = (forLoop w inside).map (w ++ ·) := by
  have hline := not_mem_headerLine hw hinside
  have hindent : (headerLine w inside).takeWhile isSpace = w := by
    rw [headerLine, append_assoc, takeWhile_append_of_pos fun c hc => hw c hc ▸ rfl]
    exact append_nil w
  have hafter : afterHeader (headerLine w inside) = .ok [' ', '{'] := by
    rw [headerLine_eq]
    exact hinside.shallow.balanced.afterHeader (open_not_mem_front hw) _
  have hbody : trim [' ', '{'] = ['{'] := by decide
  have hconvert : convertForLine (headerLine w inside) = (forLoop w inside).map (w ++ ·) := by
    simp only [convertForLine, lastInside?_headerLine hw hinside, hindent, hafter]
    cases forLoop w inside with
    | error e => rfl
    | ok loop =>
      simp only [bind, Except.bind, hbody, if_true]
      rfl
  simp only [convertForLoops, joinAllHeaders_of_one hline (not_opensHeader_headerLine hw hinside),
    joinBareBodies_of_one hline, bind, Except.bind, lines_of_not_mem hline, mapM_cons, hconvert]
  cases forLoop w inside with
  | error e => rfl
  | ok loop => rfl

/-! ### The parts of the inside -/

theorem filter_definitions (parts : List Text) :
    parts.filter (fun part => !(parts.filter isStep ++ parts.filter isCondition).contains part) =
      parts.filter fun part => !isStep part && !isCondition part := by
  refine filter_congr fun part hpart => ?_
  have hmem : (parts.filter isStep ++ parts.filter isCondition).contains part = (isStep part || isCondition part) := by
    rw [Bool.eq_iff_iff, contains_iff_mem, mem_append, mem_filter, mem_filter, Bool.or_eq_true]
    simp only [hpart, true_and]
  rw [hmem, Bool.not_or]

/-- A header of three parts: definitions, a condition, and a step or one more definition. -/
theorem forLoop_of_parts {d c u left right definitions : Text} {op : Comparison} {stepping : Bool}
    (hparts : fields ';' inside = [d, c, u]) (hd : isStep d = false ∧ isCondition d = false)
    (hc : isStep c = false ∧ isCondition c) (hu : isStep u = stepping ∧ isCondition u = false)
    (hop : Comparison.find? (without isSpace c) = some op)
    (hsides : splitOn op.symbol (without isSpace c) = [left, right])
    (hdefinitions : definitionLines (if stepping then [d] else [d, u]) = .ok definitions) :
    forLoop w inside = .ok (dropUnmatched (if stepping then
        definitions ++ "\n".toList ++ w ++ "for ".toList ++ left ++ " in range(".toList ++
          (op.range left right).1 ++ ", ".toList ++ (op.range left right).2 ++ ", ".toList ++
          (if has "++".toList (without isSpace u) then "1".toList else "-1".toList) ++ "):\n".toList
      else definitions ++ "\nwhile ".toList ++ without isSpace c ++ " :\n".toList)) := by
  have hconditions : [d, c, u].filter isCondition = [c] := by simp [hd, hc, hu]
  have hsteps : [d, c, u].filter isStep = if stepping then [u] else [] := by
    cases stepping <;> simp [hd, hc, hu]
  have hothers : [d, c, u].filter (fun part => !isStep part && !isCondition part) =
      if stepping then [d] else [d, u] := by
    cases stepping <;> simp [hd, hc, hu]
  have hcounting : forLoop w inside = countingLoop w [d, c, u] := by
    rw [forLoop, hparts]
  simp only [hcounting, countingLoop, filter_definitions]
  simp only [hconditions, hsteps, hothers, map_singleton, head?_cons, hop, hsides, hdefinitions, bind, Except.bind]
  cases stepping <;> rfl

def dropName (name t : Text) : Text :=
  if has " in " name then t else replace ("var" ++ name) (without (· == ' ') name) t

def dropNames (names : List Text) (t : Text) : Text :=
  names.foldl (fun t name => dropName name t) t

def bareDefinition (t : Text) : Text :=
  without isSpace (dropNames ((declaration.occurrences t).map (·.group 1)) t)

theorem bareDefinition_of_dropVar {t s : Text} (h : dropVar t = .ok s) : bareDefinition t = without isSpace s := by
  rw [dropVar_eq] at h
  exact congrArg (without isSpace) (Except.ok.inj h)

theorem definitionLines_eq (parts : List Text) :
    definitionLines parts = .ok (replace [','] ['\n'] (unlines (parts.map bareDefinition))) := by
  have hbare : (fun part => do return without isSpace (← dropVar part) : Text → Except Fault Text) =
      fun part => pure (bareDefinition part) := by
    funext part
    rw [dropVar_eq]
    rfl
  rw [definitionLines, hbare, mapM_pure]
  rfl

end Geoscript.Script
