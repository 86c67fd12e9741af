import Geoscript.Proofs.Script.LoopHeader

/-! The header of a conditional loop. What follows it is found by counting parentheses, its condition by a pattern
that does not count them and takes neither empty nor nested ones (`lastInside?_whileLine_iff`). -/

namespace Geoscript.Script
open List Text Pattern
variable {w t : Text}

/-! ### The line -/

/-- A line with the header of a conditional loop whose body is in braces. -/
def whileLine (w t : Text) : Text :=
  w ++ "while (" ++ t ++ ") \x7b"

theorem whileLine_eq : whileLine w t = (w ++ "while ") ++ '(' :: (t ++ ')' :: [' ', '{']) := by
  simp [whileLine]

theorem open_not_mem_whileFront (hw : Indent w) : '(' ∉ w ++ "while " := by
  simp [hw.not_mem]

theorem not_mem_whileLine (hw : Indent w) (ht : '\n' ∉ t) : '\n' ∉ whileLine w t := by
  simp [whileLine, hw.not_mem, ht]

theorem convertWhileLoops_whileLine (hw : Indent w) (ht : Balanced t) (hline : '\n' ∉ t) :
    convertWhileLoops (whileLine w t) = .ok (match lastInside? whileInside (whileLine w t) with
      | none => whileLine w t
      | some inside => w ++ "while " ++ replace "var " [] inside ++ ":\n") := by
  have hline := not_mem_whileLine hw hline
  have hindent : (whileLine w t).takeWhile isSpace = w := by
    rw [whileLine, append_assoc, append_assoc, takeWhile_append_of_pos fun c hc => hw c hc ▸ rfl]
    exact append_nil w
  have hafter : afterHeader (whileLine w t) = .ok [' ', '{'] := by
    rw [whileLine_eq]
    exact ht.afterHeader (open_not_mem_whileFront hw) _
  have hbody : trim [' ', '{'] = ['{'] := by decide
  simp only [convertWhileLoops, joinBareBodies_of_one hline, bind, Except.bind, lines_of_not_mem hline,
    mapM_cons, convertWhileLine]
  cases lastInside? whileInside (whileLine w t) with
  | none => rfl
  | some inside =>
    simp only [hindent, hafter, hbody, if_true]
    rfl

/-! ### The condition -/

theorem lastInside?_whileLine (hw : Indent w) (ht : Shallow t) (hne : t ≠ []) :
    lastInside? whileInside (whileLine w t) = some t := by
  rw [whileLine_eq]
  refine lastInside?_of_shallow ht hne (open_not_mem_whileFront hw) (by decide) fun calls c k hbefore => ?_
  have hblank : ∀ ch ∈ [' '], CharSet.inLine.has ch := forall_mem_singleton.mpr rfl
  exact matcher_wordBehind calls hblank (by rw [hbefore, reverse_append]; rfl)

theorem lastInside?_whileLine_iff (hw : Indent w) (ht : Balanced t) (hne : t ≠ []) :
    lastInside? whileInside (whileLine w t) = some t ↔ Shallow t :=
  ⟨fun h => (pieces_of_lastInside? h).1.shallow ht.closed, fun h => lastInside?_whileLine hw h hne⟩

theorem not_infix_whileLine (hw : Indent w) (hvar : ¬"var " <:+: t) : ¬"var " <:+: whileLine w t := by
  rw [whileLine_eq, infix_append_cons_iff (by decide), infix_append_cons_iff (by decide)]
  rintro (hfront | ht | hback)
  · have hmem : 'v' ∈ w ++ "while " := hfront.subset (by decide)
    simp [hw.not_mem] at hmem
  · exact hvar ht
  · exact absurd hback (by decide)

/-- A line with a `while` header and a balanced condition is converted, and the condition is taken over if and only
if none of its parentheses are empty and nowhere in it two are open at once. -/
theorem while_header_converted_iff (hw : Indent w) (ht : Balanced t) (hne : t ≠ []) (hline : '\n' ∉ t)
    (hvar : ¬"var " <:+: t) :
    (∃ r, convertWhileLoops (whileLine w t) = .ok r) ∧
    (convertWhileLoops (whileLine w t) = .ok (w ++ "while " ++ t ++ ":\n") ↔
      ¬"()" <:+: t ∧ ∀ p, p <+: t → List.count '(' p ≤ List.count ')' p + 1) := by
  have hconvert := convertWhileLoops_whileLine hw ht hline
  refine ⟨⟨_, hconvert⟩, ?_⟩
  rw [← shallow_iff ht, ← lastInside?_whileLine_iff hw ht hne, hconvert]
  cases hinside : lastInside? whileInside (whileLine w t) with
  | none =>
    -- The line has no break, and a header ends with one.
    have hdiff : whileLine w t ≠ w ++ "while " ++ t ++ ":\n" := fun h =>
      not_mem_whileLine hw hline (h ▸ by simp)
    exact ⟨fun h => absurd (Except.ok.inj h) hdiff, nofun⟩
  | some inside =>
    have hkept : replace "var " [] inside = inside :=
      replace_of_not_occurs (by decide) fun h =>
        not_infix_whileLine hw hvar (h.trans (pieces_of_lastInside? hinside).2)
    simp only [hkept, Except.ok.injEq, Option.some.injEq, append_cancel_right_eq, append_cancel_left_eq]

/-- Calls with an argument are taken over; one without arguments leaves the line as it is, and one in another is cut
off behind the inner one. -/
theorem argument_kept_empty_and_nested_not : Indent "  " ∧
    Balanced "i < n(2)" ∧
    convertWhileLoops "  while (i < n(2)) \x7b" = .ok "  while i < n(2):\n" ∧
    Balanced "x.next()" ∧
    convertWhileLoops "  while (x.next()) \x7b" ≠ .ok "  while x.next():\n" ∧
    Balanced "f(g(x))" ∧
    convertWhileLoops "  while (f(g(x))) \x7b".toList ≠ .ok "  while f(g(x)):\n".toList := by
  have hindent : Indent "  " := by
    intro c hc
    simpa using hc
  have hkept : Balanced "i < n(2)" := by decide
  have hempty : Balanced "x.next()" := by decide
  have hnested : Balanced "f(g(x))" := by decide
  have hdepth : ∀ p ∈ "i < n(2)".toList.inits, List.count '(' p ≤ List.count ')' p + 1 := by decide
  refine ⟨hindent, hkept, ?_, hempty, fun h => ?_, hnested, fun h => ?_⟩
  · exact (while_header_converted_iff hindent hkept (by decide) (by decide) (by decide)).2.mpr
      ⟨by decide, fun p hp => hdepth p ((mem_inits _ _).mpr hp)⟩
  · have hiff := (while_header_converted_iff hindent hempty (by decide) (by decide) (by decide)).2
    exact (hiff.mp h).1 (by decide)
  · have hiff := (while_header_converted_iff hindent hnested (by decide) (by decide) (by decide)).2
    exact absurd ((hiff.mp h).2 "f(g(" ⟨"x))", rfl⟩) (by decide)

end Geoscript.Script
