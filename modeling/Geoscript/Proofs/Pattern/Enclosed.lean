import Geoscript.Proofs.Pattern.Between

/-! In a text with one opening, the only match of an opening, as few characters as possible and a closing goes to the
first closing (`occurrences_enclosed`). -/

namespace Geoscript
open List

namespace Text
variable {a o t w : Text} {x y : Char}

/-- In a text that is put before a piece, the piece does not start earlier. -/
def Before (a o t : Text) : Prop :=
  ∀ w, w ≠ [] → w <:+ a → ¬o <+: w ++ (o ++ t)

theorem before_singleton (h : x ∉ a) : Before a [x] t := by
  intro w hw hsuffix hpre
  obtain ⟨d, w, rfl⟩ := exists_cons_of_ne_nil hw
  obtain ⟨rfl, -⟩ := cons_prefix_cons.mp hpre
  exact h (hsuffix.subset mem_cons_self)

theorem before_pair (hxy : x ≠ y) (h : ¬[x, y] <:+: a) : Before a [x, y] t := by
  intro w hw hsuffix hpre
  obtain ⟨d, w, rfl⟩ := exists_cons_of_ne_nil hw
  rw [cons_append, cons_prefix_cons] at hpre
  obtain ⟨rfl, hpre⟩ := hpre
  cases w with
  | nil => exact hxy (cons_prefix_cons.mp hpre).1.symm
  | cons e w =>
    obtain ⟨rfl, -⟩ := cons_prefix_cons.mp hpre
    exact h ((prefix_append [x, y] w).isInfix.trans hsuffix.isInfix)

end Text

namespace Pattern
open Text
variable {c : Cursor} {m : Match} {depth : Nat} {moving : Bool} {a opening closing inner rest : Text}

theorem matchAt_of_matcher {p : Pattern} {e : Ending}
    (h : matcher (calls p depth) .forward p c [] (stopAt moving c.pos) = some e) :
    p.matchAt depth moving c = some ⟨c, e.stop, e.captures⟩ := by
  rw [matchAt, h]

theorem occurrences_eq_singleton {p : Pattern} {t u : Text}
    (hover : (Cursor.start t).Over u c) (hm : p.matchAt (t.length + 1) false c = some m)
    (hbefore : ∀ v w c₁, u = v ++ w → w ≠ [] → (Cursor.start t).Over v c₁ → p.matchAt (t.length + 1) false c₁ = none)
    (hbehind : ∀ v c₁ moving m', m.stop.Over v c₁ → p.matchAt (t.length + 1) moving c₁ ≠ some m') :
    p.occurrences t = [m] := by
  rw [occurrences, matchesFrom_of_first hover hbefore hm, matchesFrom_eq_nil hbehind]

/-- A group that reads as little as possible before a closing ends at the first one, if that is accepted. -/
theorem group_few_of_first {calls : Nat → Matcher} {caps : Captures} {k : Continuation} {i : Nat}
    (hinner : Before inner closing rest) (hafter : c.after = inner ++ (closing ++ rest))
    (hk : (k ⟨closing.reverse ++ (inner.reverse ++ c.before), rest, c.pos + inner.length + closing.length⟩
      ((i, ⟨c, c.pos + inner.length⟩) :: caps)).isSome) :
    (matcher calls .forward (.group i (.starFew .any)) c caps fun c' caps' =>
      matcher calls .forward (.lit closing) c' caps' k) =
      k ⟨closing.reverse ++ (inner.reverse ++ c.before), rest, c.pos + inner.length + closing.length⟩
        ((i, ⟨c, c.pos + inner.length⟩) :: caps) := by
  rw [matcher_group, starFew, matcher_shortest, hafter]
  simp only [Nat.not_lt_zero, if_false, matcher_lit]
  rw [runShortest_eq fun _ _ => rfl]
  · simp
  · intro v w hvw hw
    rw [if_neg]
    rw [List.isPrefixOf_iff_prefix]
    exact hinner w hw ⟨v, hvw.symm⟩
  · simpa using hk

def enclosed (opening closing : Text) : Pattern :=
  .all [.lit opening, .group 1 (.starFew .any), .lit closing]

theorem matchAt_enclosed (hopening : opening ≠ []) (hinner : Before inner closing rest)
    (hafter : c.after = opening ++ (inner ++ (closing ++ rest))) :
    ∃ m, (enclosed opening closing).matchAt depth moving c = some m ∧ m.group 1 = inner ∧
      c.Over (opening ++ (inner ++ closing)) m.stop := by
  have hpos : 0 < opening.length := length_pos_iff.mpr hopening
  have hmoved : (c.pos + opening.length + inner.length + closing.length == c.pos) = false :=
    beq_false_of_ne (by omega)
  have hmatch : matcher (calls (enclosed opening closing) depth) .forward (enclosed opening closing) c []
      (stopAt moving c.pos) = some ⟨⟨closing.reverse ++ (inner.reverse ++ (opening.reverse ++ c.before)), rest,
        c.pos + opening.length + inner.length + closing.length⟩,
        [(1, ⟨⟨opening.reverse ++ c.before, inner ++ (closing ++ rest), c.pos + opening.length⟩,
          c.pos + opening.length + inner.length⟩)]⟩ := by
    refine (matcher_seq _ (.lit opening) _).trans ?_
    rw [lit_of_after hafter]
    refine (matcher_seq _ (.group 1 (.starFew .any)) (.lit closing)).trans ?_
    rw [group_few_of_first hinner rfl]
    · simp [hmoved]
    · simp [hmoved]
  rw [matchAt, hmatch]
  refine ⟨_, rfl, ?_, by simp [hafter], by simp, by simp [Nat.add_assoc]⟩
  simp [Match.group, Span.text, Cursor.upTo]

theorem opening_of_matchAt (h : (enclosed opening closing).matchAt depth moving c = some m) : opening <+: c.after := by
  obtain ⟨-, d, ⟨hd, -⟩, -⟩ := reads_of_matchAt h
  exact ⟨d.1.after, hd.after.symm⟩

theorem occurrences_enclosed (hopening : opening ≠ [])
    (ha : Before a opening (inner ++ (closing ++ rest))) (hinner : Before inner closing rest)
    (hrest : ¬opening <:+: rest) :
    ∃ m, (enclosed opening closing).occurrences (a ++ (opening ++ (inner ++ (closing ++ rest)))) = [m] ∧
      m.group 1 = inner := by
  obtain ⟨c', hc', hafter⟩ := Cursor.exists_over (c := .start _) (u := a) rfl
  obtain ⟨m, hm, hgroup, hover⟩ := @matchAt_enclosed c' _ false opening closing inner rest hopening hinner hafter
  have hstop : m.stop.after = rest := by
    have heq := hover.after
    rw [hafter] at heq
    simpa using heq.symm
  refine ⟨m, occurrences_eq_singleton hc' hm ?_ ?_, hgroup⟩
  · intro v w c₁ hvw hw hc₁
    rw [Option.eq_none_iff_forall_ne_some]
    intro m' hm'
    refine ha w hw ⟨v, hvw.symm⟩ ?_
    have hafter₁ : c₁.after = w ++ (opening ++ (inner ++ (closing ++ rest))) := by
      have heq := hc₁.after
      simp only [Cursor.start, hvw, append_assoc] at heq
      exact (append_cancel_left heq).symm
    rw [← hafter₁]
    exact opening_of_matchAt hm'
  · intro v c₁ moving m' hv hm'
    rw [← hstop, hv.after] at hrest
    exact hrest (infix_append_of_infix_right (opening_of_matchAt hm').isInfix)

end Pattern

end Geoscript
