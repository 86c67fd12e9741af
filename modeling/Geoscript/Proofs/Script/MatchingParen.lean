import Geoscript.Proofs.Result
import Geoscript.Proofs.Script.GlobalCalls

/-! Four scans for the parenthesis that closes the first one: the rest behind a header, a call behind its dot, the
arguments of a global function and the text in parentheses. They stop at the same place. -/

namespace Geoscript.Script
open List Text Pattern
variable {name p q r t v inner : Text}

theorem NeverClosed.afterHeader (h : NeverClosed r) (hp : '(' ∉ p) :
    afterHeader (p ++ '(' :: r) = .error .openHeader := by
  rw [afterHeader_paren hp, ← append_nil r, (neverClosed_iff.mp h).afterBalance_append]
  rfl

/-- A call that is not closed is read to the end of the text. -/
theorem NeverClosed.throughCall_eq (h : NeverClosed r) (hp : Unparenthesized p) :
    throughCall false 0 (p ++ '(' :: r) = .ok (p ++ '(' :: r) := by
  have hcall : throughCall false 0 ('(' :: r) = .ok ('(' :: r) := by
    rcases eq_nil_or_concat' r with rfl | ⟨s, c, rfl⟩
    · rfl
    · have hs : StaysOpen 1 s := fun u hu => neverClosed_iff.mp h u (hu.trans (prefix_append s [c]))
      have hrest : throughCall true 1 (s ++ [c]) = .ok (s ++ [c]) := by
        rw [hs.throughCall_append (cons_ne_nil c [])]
        simp [throughCall, Except.map]
      simp [throughCall, hrest, Except.map]
  rw [hp.throughCall_append, hcall]
  rfl

theorem Balanced.insideParens_eq (h : Balanced inner) (hp : Unparenthesized p) (hq : Unparenthesized q) :
    insideParens (p ++ '(' :: (inner ++ ')' :: q)) = inner := by
  have hbehind : insideParensFrom 1 (')' :: q) = [] := by
    have hnone := hq.insideParensFrom_append (n := 0) []
    rw [append_nil, if_neg (by decide)] at hnone
    exact hnone
  rw [insideParens, insideParensFrom_outside _ hp, insideParensFrom_append, h.staysOpen.insideParensFrom_eq,
    h.parenSurplus_eq, Int.add_zero, hbehind, append_nil]

/-- The first call found is the one that the text begins with. -/
theorem globalArguments_cons (hplain : isPlain name) (v : Text) :
    ∃ vs, globalArguments name (name ++ '(' :: v) = (v :: vs).mapM (untilClosed 0) := by
  have htext : name ++ '(' :: v = (name ++ ['(']) ++ v := by simp
  have hhit : callHits name none (name ++ '(' :: v) :=
    callHits_iff.mpr ⟨rfl, v, htext.symm⟩
  obtain ⟨m, hm⟩ := Option.isSome_iff_exists.mp
    ((fixed_globalCall name).found ((name ++ '(' :: v).length + 1) false (c := .start _) hhit)
  have hstop : m.stop.after = v :=
    (append_cancel_left (htext.symm.trans (over_of_globalCall hm).2.after)).symm
  have hnone (w w' : Text) (hw : [] = w ++ w') (hne : w' ≠ []) : False :=
    hne (append_eq_nil_iff.mp hw.symm).2
  rw [globalArguments_eq hplain, occurrences,
    matchesFrom_of_first (.refl _) (fun w w' _ hw hne => (hnone w w' hw hne).elim) hm, map_cons, hstop]
  exact ⟨_, rfl⟩

/-- The scans agree on the parenthesis that closes the first one, however the text between the two is nested. Where it
is never closed, the rest and the arguments are missing, and the call is read to the end. -/
theorem paren_scanners_agree (hp : Unparenthesized p) (hname : isPlain name) : (∀ inner q, Balanced inner →
      afterHeader (p ++ '(' :: (inner ++ ')' :: q)) = .ok q ∧
      callAfter (p ++ '(' :: (inner ++ ')' :: q)) (-1) = .ok (p ++ '(' :: (inner ++ [')'])) ∧
      (∀ found, globalArguments name (name ++ '(' :: (inner ++ ')' :: q)) = .ok found → found.head? = some inner) ∧
      (Unparenthesized q → insideParens (p ++ '(' :: (inner ++ ')' :: q)) = inner)) ∧
    ∀ r, NeverClosed r →
      afterHeader (p ++ '(' :: r) = .error .openHeader ∧
      callAfter (p ++ '(' :: r) (-1) = .ok (p ++ '(' :: r) ∧
      globalArguments name (name ++ '(' :: r) = .error .outOfRange := by
  refine ⟨fun inner q hinner => ⟨hinner.afterHeader hp.1 q, hinner.throughCall_eq hp q, ?_, hinner.insideParens_eq hp⟩,
    fun r hr => ⟨hr.afterHeader hp.1, hr.throughCall_eq hp, ?_⟩⟩
  · intro found hfound
    obtain ⟨vs, hvs⟩ := globalArguments_cons hname (inner ++ ')' :: q)
    rw [hvs, mapM_cons, hinner.staysOpen.untilClosed_closed hinner.parenSurplus_eq] at hfound
    obtain ⟨first, hfirst, hfound⟩ := ok_of_bind hfound
    obtain ⟨others, -, hfound⟩ := ok_of_bind hfound
    cases hfirst
    cases hfound
    rfl
  · obtain ⟨vs, hvs⟩ := globalArguments_cons hname r
    rw [hvs, mapM_cons, (neverClosed_iff.mp hr).untilClosed_eq]
    rfl

theorem nested_parens_scanned : Unparenthesized "a.b" ∧ isPlain "parseInt" ∧
    Balanced "c(d)()" ∧ afterHeader "a.b(c(d)())e" = .ok "e" ∧
    callAfter "a.b(c(d)())e" (-1) = .ok "a.b(c(d)())" ∧
    insideParens "a.b(c(d)())e" = "c(d)()" ∧
    NeverClosed "c(d" ∧ afterHeader "a.b(c(d" = .error .openHeader ∧
    globalArguments "parseInt" "parseInt(c(d" = .error .outOfRange := by
  have hp : Unparenthesized "a.b" := by decide
  have hname : isPlain "parseInt" := by decide
  have hinner : Balanced "c(d)()" := by decide
  have hnever : NeverClosed "c(d" := fun u hu =>
    (show ∀ u ∈ "c(d".toList.inits, List.count ')' u ≤ List.count '(' u by decide) u ((mem_inits _ _).mpr hu)
  obtain ⟨hclosed, hopen⟩ := paren_scanners_agree hp hname
  obtain ⟨hafter, hcall, -, hinside⟩ := hclosed _ "e" hinner
  obtain ⟨herror, -, harguments⟩ := hopen _ hnever
  exact ⟨hp, hname, hinner, hafter, hcall, hinside (by decide), hnever, herror, harguments⟩

end Geoscript.Script
