import Geoscript.Proofs.Script.Assignment
import Mathlib.Data.List.Infix
import Mathlib.Order.Bounds.Basic

/-! Closing braces that close nothing are dropped. How many of them and where is told by how far the closing braces
get ahead of the opening ones (`surplus`, `isGreatest_dropped`). -/

namespace Geoscript.Script
open List
open Text hiding count
variable {t r p : Text} {c d : Char} {depth : Nat}

/-! ### Leaving out one character -/

/-- The second text is the first one with some of its `c` left out. -/
inductive Thinned (c : Char) : Text → Text → Prop where
  | nil : Thinned c [] []
  | keep (d : Char) {t r : Text} (h : Thinned c t r) : Thinned c (d :: t) (d :: r)
  | leaveOut {t r : Text} (h : Thinned c t r) : Thinned c (c :: t) r

theorem Thinned.count_other (h : Thinned c t r) (hd : d ≠ c) : count d r = count d t := by
  induction h with
  | nil => rfl
  | keep e _ ih => rw [count_cons, count_cons, ih]
  | leaveOut _ ih => rw [count_cons_of_ne (Ne.symm hd), ih]

theorem Thinned.count_add_length (h : Thinned c t r) : count c t + r.length = count c r + t.length := by
  induction h with
  | nil => rfl
  | keep e _ ih =>
    rw [count_cons, count_cons, length_cons, length_cons]
    omega
  | leaveOut _ ih =>
    rw [count_cons_self, length_cons]
    omega

/-! ### One character -/

/-- How many more braces a text closes than it opens. -/
def surplus (t : Text) : Int :=
  count '}' t - count '{' t

theorem surplus_le_zero_iff : surplus t ≤ 0 ↔ count '}' t ≤ count '{' t := by
  unfold surplus
  omega

theorem surplus_cons (c : Char) (t : Text) : surplus (c :: t) = surplus [c] + surplus t := by
  have hcons (d : Char) : count d (c :: t) = count d [c] + count d t :=
    @count_append _ _ d [c] t
  simp only [surplus, hcons]
  omega

/-- A closing brace is dropped if no brace is open; every other character is kept, and its own braces are counted. -/
theorem dropUnmatchedFrom_cons_cases (depth : Nat) (c : Char) :
    (c = '}' ∧ depth = 0 ∧ ∀ t, dropUnmatchedFrom depth (c :: t) = dropUnmatchedFrom 0 t) ∨
    ∃ next : Nat, (next : Int) = depth - surplus [c] ∧
      ∀ t, dropUnmatchedFrom depth (c :: t) = c :: dropUnmatchedFrom next t := by
  by_cases hopen : c = '{'
  · subst hopen
    exact .inr ⟨depth + 1, by simp [surplus], dropUnmatchedFrom_open depth⟩
  · by_cases hclose : c = '}'
    · subst hclose
      cases depth with
      | zero => exact .inl ⟨rfl, rfl, dropUnmatchedFrom_unmatched⟩
      | succ depth => exact .inr ⟨depth, by simp [surplus], dropUnmatchedFrom_close depth⟩
    · exact .inr ⟨depth, by simp [surplus, hopen, hclose], dropUnmatchedFrom_cons hopen hclose depth⟩

/-! ### A whole text -/

theorem thinned_dropUnmatchedFrom (depth : Nat) (t : Text) : Thinned '}' t (dropUnmatchedFrom depth t) := by
  induction t generalizing depth with
  | nil => exact .nil
  | cons c t ih =>
    rcases dropUnmatchedFrom_cons_cases depth c with ⟨rfl, -, hstep⟩ | ⟨next, -, hstep⟩
    · rw [hstep]
      exact .leaveOut (ih 0)
    · rw [hstep]
      exact .keep c (ih next)

theorem surplus_le_of_prefix_dropUnmatchedFrom (hp : p <+: dropUnmatchedFrom depth t) : surplus p ≤ depth := by
  induction t generalizing depth p with
  | nil =>
    obtain rfl := prefix_nil.mp hp
    exact Int.natCast_nonneg depth
  | cons c t ih =>
    rcases dropUnmatchedFrom_cons_cases depth c with ⟨-, rfl, hstep⟩ | ⟨next, hnext, hstep⟩
    · rw [hstep] at hp
      exact ih hp
    · rw [hstep] at hp
      rcases prefix_cons_iff.mp hp with rfl | ⟨q, rfl, hq⟩
      · exact Int.natCast_nonneg depth
      · have hrest := ih hq
        rw [surplus_cons]
        omega

theorem dropUnmatchedFrom_append (depth : Nat) (a b : Text) :
    ∃ next : Nat, (next : Int) = depth - surplus (dropUnmatchedFrom depth a) ∧
      dropUnmatchedFrom depth (a ++ b) = dropUnmatchedFrom depth a ++ dropUnmatchedFrom next b := by
  induction a generalizing depth with
  | nil => exact ⟨depth, by simp [dropUnmatchedFrom, surplus], rfl⟩
  | cons c a ih =>
    rcases dropUnmatchedFrom_cons_cases depth c with ⟨-, rfl, hstep⟩ | ⟨depth', hdepth, hstep⟩
    · rw [cons_append, hstep, hstep]
      exact ih 0
    · obtain ⟨next, hnext, hrest⟩ := ih depth'
      rw [cons_append, hstep, hstep, surplus_cons, hrest]
      exact ⟨next, by omega, rfl⟩

/-- No part of a text from its start on has a larger surplus than what is open and what is dropped. -/
theorem surplus_le_dropped (depth : Nat) (hp : p <+: t) :
    surplus p ≤ depth + (t.length - (dropUnmatchedFrom depth t).length) := by
  induction t generalizing depth p with
  | nil =>
    obtain rfl := prefix_nil.mp hp
    exact Int.natCast_nonneg depth
  | cons c t ih =>
    have hlen := (dropUnmatchedFrom_sublist depth (c :: t)).length_le
    rcases prefix_cons_iff.mp hp with rfl | ⟨q, rfl, hq⟩
    · simp only [surplus, count_nil]
      omega
    · rw [surplus_cons]
      rcases dropUnmatchedFrom_cons_cases depth c with ⟨rfl, rfl, hstep⟩ | ⟨next, hnext, hstep⟩
      · have hrest := ih 0 hq
        have hclose : surplus ['}'] = 1 := rfl
        rw [hstep, length_cons]
        omega
      · have hrest := ih next hq
        rw [hstep, length_cons, length_cons]
        omega

theorem exists_surplus_eq_dropped (h : (dropUnmatchedFrom depth t).length ≠ t.length) :
    ∃ p, p <+: t ∧ surplus p = depth + (t.length - (dropUnmatchedFrom depth t).length) := by
  induction t generalizing depth with
  | nil => exact absurd rfl h
  | cons c t ih =>
    rcases dropUnmatchedFrom_cons_cases depth c with ⟨rfl, rfl, hstep⟩ | ⟨next, hnext, hstep⟩
    · have hclose : surplus ['}'] = 1 := rfl
      rw [hstep, length_cons]
      by_cases hrest : (dropUnmatchedFrom 0 t).length = t.length
      · exact ⟨['}'], ⟨t, rfl⟩, by omega⟩
      · obtain ⟨p, hp, heq⟩ := ih hrest
        refine ⟨'}' :: p, cons_prefix_cons.mpr ⟨rfl, hp⟩, ?_⟩
        rw [surplus_cons]
        omega
    · rw [hstep, length_cons, length_cons] at h ⊢
      obtain ⟨p, hp, heq⟩ := ih fun hrest => h (congrArg (· + 1) hrest)
      refine ⟨c :: p, cons_prefix_cons.mpr ⟨rfl, hp⟩, ?_⟩
      rw [surplus_cons]
      omega

/-! ### The largest surplus -/

theorem isGreatest_dropped (t : Text) :
    IsGreatest {d | ∃ p, p <+: t ∧ d = surplus p} (t.length - (dropUnmatched t).length : Int) := by
  constructor
  · by_cases hlen : (dropUnmatched t).length = t.length
    · exact ⟨[], nil_prefix, by rw [hlen, Int.sub_self]; rfl⟩
    · obtain ⟨p, hp, heq⟩ := exists_surplus_eq_dropped hlen
      exact ⟨p, hp, by rw [heq]; exact (Int.zero_add _).symm⟩
  · rintro d ⟨p, hp, rfl⟩
    exact (surplus_le_dropped 0 hp).trans_eq (Int.zero_add _)

theorem surplus_dropUnmatched (t : Text) :
    surplus (dropUnmatched t) = surplus t - (t.length - (dropUnmatched t).length) := by
  have hthin := thinned_dropUnmatchedFrom 0 t
  have hclose := hthin.count_add_length
  have hopen := hthin.count_other (d := '{') (by decide)
  unfold surplus dropUnmatched
  omega

theorem dropUnmatched_eq_self_iff : dropUnmatched t = t ↔ ∀ p, p <+: t → count '}' p ≤ count '{' p := by
  constructor
  · intro h p hp
    rw [← h] at hp
    exact surplus_le_zero_iff.mp (surplus_le_of_prefix_dropUnmatchedFrom hp)
  · intro h
    obtain ⟨⟨p, hp, heq⟩, -⟩ := isGreatest_dropped t
    have hle := surplus_le_zero_iff.mpr (h p hp)
    have hsub := dropUnmatchedFrom_sublist 0 t
    refine hsub.eq_of_length_le ?_
    rw [dropUnmatched] at heq
    omega

/-- A closing brace is dropped if and only if it makes the surplus larger than it was anywhere before. -/
theorem dropUnmatched_concat_close_iff (t : Text) :
    dropUnmatched (t ++ ['}']) = dropUnmatched t ↔ ∀ p, p <+: t → surplus p < surplus (t ++ ['}']) := by
  obtain ⟨⟨q, hq, heq⟩, hgreatest⟩ := isGreatest_dropped t
  obtain ⟨next, hnext, hsplit⟩ := dropUnmatchedFrom_append 0 t ['}']
  have hopen := surplus_dropUnmatched t
  have hconcat : surplus (t ++ ['}']) = surplus t + 1 := by
    simp [surplus]
    omega
  have hdropped : dropUnmatched (t ++ ['}']) = dropUnmatched t ↔ next = 0 := by
    rw [dropUnmatched, dropUnmatched, hsplit]
    cases next <;> simp [dropUnmatchedFrom]
  rw [← dropUnmatched] at hnext
  rw [hdropped, hconcat]
  -- The braces that are open are what the surplus lacks of its largest value.
  constructor
  · rintro rfl p hp
    have hle := hgreatest ⟨p, hp, rfl⟩
    omega
  · intro hless
    have hlargest := hless q hq
    have hall := hgreatest ⟨t, prefix_refl t, rfl⟩
    omega

theorem dropUnmatched_prefix (h : p <+: t) : dropUnmatched p <+: dropUnmatched t := by
  obtain ⟨rest, rfl⟩ := h
  obtain ⟨next, -, hsplit⟩ := dropUnmatchedFrom_append 0 p rest
  exact ⟨_, hsplit.symm⟩

/-- Only closing braces are left out of a text, and what is left closes nowhere more than it opens. As many are left
out as the text is ahead with closing at most, and each of them where it gets further ahead than ever before. Nothing is
left out if and only if the text closes nowhere more than it opens; so a second pass has nothing to do, also not behind
the pass over branches. -/
theorem unmatched_closing_dropped (t : Text) : Thinned '}' t (dropUnmatched t) ∧
    (∀ p, p <+: dropUnmatched t → count '}' p ≤ count '{' p) ∧
    IsGreatest {d | ∃ p, p <+: t ∧ d = surplus p} (t.length - (dropUnmatched t).length : Int) ∧
    (∀ a, a ++ ['}'] <+: t → dropUnmatched a <+: dropUnmatched t ∧
      (dropUnmatched (a ++ ['}']) = dropUnmatched a ↔ ∀ p, p <+: a → surplus p < surplus (a ++ ['}']))) ∧
    (dropUnmatched t = t ↔ ∀ p, p <+: t → count '}' p ≤ count '{' p) ∧
    dropUnmatched (dropUnmatched t) = dropUnmatched t ∧
    dropUnmatched (convertBranches t) = convertBranches t := by
  refine ⟨thinned_dropUnmatchedFrom 0 t, fun p hp => ?_, isGreatest_dropped t, fun a ha => ⟨?_, ?_⟩,
    dropUnmatched_eq_self_iff, dropUnmatchedFrom_idem 0 t, dropUnmatchedFrom_idem 0 _⟩
  · exact surplus_le_zero_iff.mp (surplus_le_of_prefix_dropUnmatchedFrom hp)
  · exact dropUnmatched_prefix ((prefix_append a ['}']).trans ha)
  · exact dropUnmatched_concat_close_iff a

/-- The first brace has nothing to close, and the last one comes second to the one before it. -/
theorem first_and_last_closing_dropped : dropUnmatched "\x7d\x7ba\x7d\x7d" = "\x7ba\x7d" ∧
    IsGreatest {d | ∃ p, p <+: "\x7d\x7ba\x7d\x7d" ∧ d = surplus p} 2 ∧
    dropUnmatched "\x7ba\x7d" = "\x7ba\x7d" := by
  have htext : dropUnmatched "\x7d\x7ba\x7d\x7d" = "\x7ba\x7d" := by decide
  obtain ⟨-, -, hgreatest, -, -, hidem, -⟩ := unmatched_closing_dropped "\x7d\x7ba\x7d\x7d"
  rw [htext] at hgreatest hidem
  exact ⟨htext, hgreatest, hidem⟩

end Geoscript.Script
