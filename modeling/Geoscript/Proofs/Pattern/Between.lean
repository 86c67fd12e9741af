import Geoscript.Proofs.Pattern.Accept
import Geoscript.Proofs.Text.Cut

/-! What stands between the first opening text of a line and the first closing character behind it
(`search?_between`). In several lines every opening is found that no earlier one reaches over. -/

namespace Geoscript
open List

namespace Pattern
variable {c : Cursor} {depth : Nat} {opening line : Text} {closing : Char}

/-- An opening, as few characters of the line as possible, and a closing. -/
def between (opening : Text) (closing : Char) : Pattern :=
  .all [.lit opening, .group 1 .restFew, .lit [closing]]

theorem runShortest_eq {s : CharSet} {k : Nat → Text → Text → Option Ending} {n : Nat} {read u rest : Text}
    (hu : ∀ ch ∈ u, s.has ch)
    (hnone : ∀ v w, u = v ++ w → w ≠ [] → k (n + v.length) (v.reverse ++ read) (w ++ rest) = none)
    (hk : (k (n + u.length) (u.reverse ++ read) rest).isSome) :
    runShortest s none k n read (u ++ rest) = k (n + u.length) (u.reverse ++ read) rest := by
  induction u generalizing n read with
  | nil =>
    obtain ⟨e, he⟩ := Option.isSome_iff_exists.mp hk
    have he' : k n read rest = some e := he
    rw [he, nil_append]
    cases rest with
    | nil => exact he'
    | cons ch rest => rw [runShortest, he']
  | cons ch u ih =>
    have hcount : n + 1 + u.length = n + (ch :: u).length := by
      rw [length_cons]
      omega
    have hread : u.reverse ++ ch :: read = (ch :: u).reverse ++ read := by
      simp
    have hmore := @ih (n + 1) (ch :: read) (fun d hd => hu d (mem_cons_of_mem ch hd))
      (fun v w huv hw => by
        have := hnone (ch :: v) w (by rw [huv]; rfl) hw
        rw [length_cons, reverse_cons, append_assoc, singleton_append] at this
        rwa [Nat.add_right_comm, Nat.add_assoc])
      (by rwa [hcount, hread])
    have hstop : k n read (ch :: (u ++ rest)) = none := hnone [] (ch :: u) rfl (cons_ne_nil _ _)
    rw [cons_append, runShortest, hstop]
    simp only
    rw [if_pos (by simp [hu ch mem_cons_self, allowsMore]), hmore, hcount, hread]

section Closing
variable {caps : Captures} {k : Continuation} {inner rest : Text} (calls : Nat → Matcher)

theorem matcher_closing_none (h : closing ∉ c.after) :
    matcher calls .forward (.seq (.group 1 .restFew) (.lit [closing])) c caps k = none := by
  rw [matcher_seq, matcher_group, ← Option.not_isSome_iff_eq_none]
  intro hsome
  obtain ⟨e, he⟩ := Option.isSome_iff_exists.mp hsome
  obtain ⟨u, c', -, -, hover, hk⟩ := run_of_runMatcher he
  rw [matcher_lit] at hk
  split at hk
  · next hpre =>
    refine h ?_
    rw [hover.after]
    exact mem_append_right u ((List.isPrefixOf_iff_prefix.mp hpre).subset mem_cons_self)
  · cases hk

theorem matcher_closing (hinner : closing ∉ inner) (hline : '\n' ∉ inner)
    (hafter : c.after = inner ++ closing :: rest) (hk : ∀ c' caps', (k c' caps').isSome) :
    matcher calls .forward (.seq (.group 1 .restFew) (.lit [closing])) c caps k =
      k ⟨closing :: (inner.reverse ++ c.before), rest, c.pos + inner.length + 1⟩
        ((1, ⟨c, c.pos + inner.length⟩) :: caps) := by
  rw [matcher_seq, matcher_group]
  show runShortest .inLine none (fun n read rest => if n < 0 then none else
    matcher calls .forward (.lit [closing]) ⟨read, rest, c.pos + n⟩ ((1, ⟨c, c.pos + n⟩) :: caps) k)
      0 c.before c.after = _
  simp only [Nat.not_lt_zero, if_false, matcher_lit]
  rw [hafter, runShortest_eq (inLine_of_not_mem hline)]
  · simp
  · intro v w hvw hw
    cases w with
    | nil => exact absurd rfl hw
    | cons d w =>
      have hd : closing ≠ d := fun h => hinner (by rw [hvw, h]; simp)
      simp [hd]
  · simp [hk]

end Closing

theorem matchAt_between (hline : '\n' ∉ c.after) : ((between opening closing).matchAt depth false c).map (·.group 1) =
      if opening.isPrefixOf c.after then (Text.cutAt? [closing] (c.after.drop opening.length)).map (·.1)
      else none := by
  have hopening : ∀ calls caps k, matcher calls .forward (between opening closing) c caps k =
      if opening.isPrefixOf c.after then
        matcher calls .forward (.seq (.group 1 .restFew) (.lit [closing]))
          ⟨opening.reverse ++ c.before, c.after.drop opening.length, c.pos + opening.length⟩ caps k
      else none := by
    intro calls caps k
    show matcher calls .forward (.seq (.lit opening) (.seq (.group 1 .restFew) (.lit [closing]))) c caps k = _
    rw [matcher_seq, matcher_lit]
  rw [matchAt, hopening]
  by_cases hpre : opening.isPrefixOf c.after
  · rw [if_pos hpre, if_pos hpre]
    rcases Text.cutAt?_singleton_cases closing (c.after.drop opening.length) with
      ⟨hnot, hcut⟩ | ⟨inner, rest, hafter, hinner, hcut⟩
    · rw [hcut, matcher_closing_none _ hnot]
      rfl
    · have hline' : '\n' ∉ inner := fun h =>
        hline (mem_of_mem_drop (hafter ▸ mem_append_left _ h))
      rw [hcut, matcher_closing _ hinner hline' hafter (by simp)]
      simp [Match.group, Span.text, Cursor.upTo, hafter]
  · rw [if_neg hpre, if_neg hpre]
    rfl

theorem searchFrom_between (hopening : opening ≠ []) {before : Text} {pos : Nat} (hline : '\n' ∉ line) :
    ((between opening closing).searchFrom depth false before line pos).map (·.group 1) =
      Text.between? opening closing line := by
  induction line generalizing before pos with
  | nil =>
    have hpre : ¬opening.isPrefixOf [] := by simpa using hopening
    rw [searchFrom, matchAt_between (c := ⟨before, [], pos⟩) hline, if_neg hpre, Text.between?,
      Text.cutAt?_of_not_infix (by simpa using hopening)]
    rfl
  | cons ch line ih =>
    have hmatch := @matchAt_between ⟨before, ch :: line, pos⟩ depth opening closing hline
    have hrest := @ih (ch :: before) (pos + 1) fun h => hline (mem_cons_of_mem ch h)
    rw [searchFrom]
    by_cases hpre : opening.isPrefixOf (ch :: line)
    · rw [if_pos hpre] at hmatch
      have hcut : Text.between? opening closing (ch :: line) =
          (Text.cutAt? [closing] ((ch :: line).drop opening.length)).map (·.1) := by
        rw [Text.between?, Text.cutAt?_at_start (List.isPrefixOf_iff_prefix.mp hpre)]
        rfl
      rw [hcut, ← hmatch]
      cases hm : (between opening closing).matchAt depth false ⟨before, ch :: line, pos⟩ with
      | some m => rfl
      | none =>
        -- Behind an opening without a closing there is no other one with a closing.
        have hnone : Text.between? opening closing line = none := by
          rw [← Option.not_isSome_iff_eq_none]
          intro hsome
          obtain ⟨inner, hinner⟩ := Option.isSome_iff_exists.mp hsome
          obtain ⟨a, b, rfl, -⟩ := Text.between?_eq_some hopening hinner
          rw [hm, ← cons_append, drop_append_of_le_length (by simp; omega)] at hmatch
          have hclosing : [closing] <:+: (ch :: (a ++ opening ++ inner)).drop opening.length ++ closing :: b :=
            ⟨_, b, by rw [append_assoc]; rfl⟩
          have hcut := Text.cutAt?_isSome_iff.mpr hclosing
          rw [Option.map_eq_none_iff.mp hmatch.symm] at hcut
          cases hcut
        simp only [hrest, hnone]
        rfl
    · rw [if_neg hpre, Option.map_eq_none_iff] at hmatch
      rw [hmatch]
      simp only
      rw [hrest, Text.between?, Text.between?, Text.cutAt?, if_neg hpre, Option.bind_map]
      rfl

theorem search?_between (hopening : opening ≠ []) (hline : '\n' ∉ line) :
    ((between opening closing).search? line).map (·.group 1) = Text.between? opening closing line := by
  rw [search?]
  exact searchFrom_between hopening hline

/-! ### Texts of several lines -/

theorem matcher_between (calls : Nat → Matcher) (caps : Captures) (k : Continuation) {after : Text}
    (hafter : c.after = opening ++ after) :
    matcher calls .forward (between opening closing) c caps k =
      matcher calls .forward (.seq (.group 1 .restFew) (.lit [closing]))
        ⟨opening.reverse ++ c.before, after, c.pos + opening.length⟩ caps k := by
  show matcher calls .forward (.seq (.lit opening) (.seq (.group 1 .restFew) (.lit [closing]))) c caps k = _
  rw [matcher_seq, matcher_lit, hafter, if_pos (List.isPrefixOf_iff_prefix.mpr (prefix_append _ _)), drop_left]

theorem matchAt_between_of (depth : Nat) {inner rest : Text} (hinner : closing ∉ inner) (hline : '\n' ∉ inner)
    (hafter : c.after = opening ++ (inner ++ closing :: rest)) :
    ∃ m, (between opening closing).matchAt depth false c = some m ∧ m.group 1 = inner ∧
      c.Over (opening ++ inner ++ [closing]) m.stop := by
  rw [matchAt, matcher_between _ _ _ hafter, matcher_closing _ hinner hline rfl (by simp)]
  refine ⟨_, rfl, ?_, by simp [hafter], by simp, ?_⟩
  · simp [Match.group, Span.text, Cursor.upTo]
  · simp
    omega

theorem between_of_matchAt {m : Match} (h : (between opening closing).matchAt depth false c = some m) :
    ∃ inner rest, closing ∉ inner ∧ '\n' ∉ inner ∧ c.after = opening ++ (inner ++ closing :: rest) ∧
      m.group 1 = inner ∧ c.Over (opening ++ inner ++ [closing]) m.stop := by
  obtain ⟨-, d, ⟨hd, -⟩, e, ⟨_, ⟨u, -, hu, he, -⟩, -⟩, hm, -⟩ := reads_of_matchAt h
  have hline : '\n' ∉ u := fun hmem => absurd (hu _ hmem) (by decide)
  obtain ⟨inner, rest, hcut, hinner⟩ :=
    eq_append_cons_of_mem (show closing ∈ u ++ closing :: m.stop.after by simp)
  have hpre : inner <+: u := by
    rcases Text.cut_eq_or_behind hinner hcut with ⟨rfl, -⟩ | ⟨mid, rfl, -⟩
    · exact prefix_refl u
    · exact prefix_append _ _
  have hafter : c.after = opening ++ (inner ++ closing :: rest) := by
    rw [hd.after, he.after, hm.after, ← hcut]
    rfl
  have hline' : '\n' ∉ inner := fun hmem => hline (hpre.subset hmem)
  obtain ⟨m', hm', hgroup, hover⟩ := matchAt_between_of depth hinner hline' hafter
  obtain rfl := Option.some.inj (h.symm.trans hm')
  exact ⟨inner, rest, hinner, hline', hafter, hgroup, hover⟩

/-- No opening in the text is still without a closing or the end of its line. -/
def Shut (opening : Text) (closing : Char) (t : Text) : Prop :=
  ∀ s, s <:+ t → opening <+: s → closing ∈ s ∨ '\n' ∈ s

theorem Shut.suffix {t s : Text} (h : Shut opening closing t) (hs : s <:+ t) : Shut opening closing s :=
  fun r hr => h r (hr.trans hs)

theorem Shut.split {s inner rest after : Text} (hs : Shut opening closing s) (hclosing : closing ∉ opening)
    (hnewline : '\n' ∉ opening) (hpre : opening <+: s) (hinner : closing ∉ inner) (hline : '\n' ∉ inner)
    (h : s ++ after = opening ++ (inner ++ closing :: rest)) :
    ∃ back, s = opening ++ (inner ++ closing :: back) := by
  have hmem := hs s (suffix_refl s) hpre
  obtain ⟨s', rfl⟩ := hpre
  rw [append_assoc] at h
  rcases Text.cut_or (append_cancel_left h) with ⟨mid, rfl, -⟩ | ⟨mid, rfl, -⟩
  · exact ⟨mid, rfl⟩
  · simp_all

section Shut
variable {inner rest a : Text} (hclosing : closing ∉ opening) (hnewline : '\n' ∉ opening)
  (hborder : ∀ s after, s ≠ [] → opening <+: s ++ (opening ++ after) → opening <+: s)
  (hinner : closing ∉ inner) (hline : '\n' ∉ inner)

include hclosing hnewline hborder in
theorem exists_over_of_shut {s after : Text} {m : Match} (hs : Shut opening closing s) (hne : s ≠ [])
    (hafter : c.after = s ++ (opening ++ after)) (h : (between opening closing).matchAt depth false c = some m) :
    ∃ x y, x ≠ [] ∧ s = x ++ y ∧ c.Over x m.stop := by
  obtain ⟨inner, rest, hinner, hline, hafter', -, hover⟩ := between_of_matchAt h
  have hpre : opening <+: s := hborder s _ hne (by rw [← hafter, hafter']; exact prefix_append _ _)
  obtain ⟨back, rfl⟩ := hs.split hclosing hnewline hpre hinner hline (hafter.symm.trans hafter')
  exact ⟨opening ++ inner ++ [closing], back, by simp, by simp, hover⟩

include hclosing hnewline hborder hinner hline in
theorem exists_mem_occurrences_between (ha : Shut opening closing a) :
    ∃ m ∈ (between opening closing).occurrences (a ++ (opening ++ (inner ++ closing :: rest))), m.group 1 = inner := by
  obtain ⟨c', hc', hafter⟩ :=
    Cursor.exists_over (c := .start (a ++ (opening ++ (inner ++ closing :: rest)))) (u := a) rfl
  obtain ⟨m, hm, hgroup, -⟩ := matchAt_between_of _ hinner hline hafter
  rw [occurrences]
  refine ⟨m, mem_matchesFrom_of_matchAt hc' hm (fun v w c₁ m₁ hcut hw hc₁ hm₁ => ?_) ?_, hgroup⟩
  · have hboth : v ++ (w ++ (opening ++ (inner ++ closing :: rest))) = v ++ c₁.after := by
      rw [← append_assoc, ← hcut]
      exact hc₁.after
    exact exists_over_of_shut hclosing hnewline hborder (ha.suffix ⟨v, hcut.symm⟩) hw
      (append_cancel_left hboth).symm hm₁
  · simp only [length_append]
    omega

end Shut

end Pattern

end Geoscript
