import Geoscript.Proofs.Pattern.Search
import Geoscript.Proofs.Text.Replace

/-! When a matcher accepts, the other half of `Reads`: fixed texts, single characters and looks as equations, runs and
repetitions as far as it takes to get to a match. -/

namespace Geoscript
open List

namespace Cursor
variable {c : Cursor}

theorem readAhead_append (t read rest : Text) (n : Nat) :
    readAhead t read (t ++ rest) n = some (t.reverse ++ read, rest, n + t.length) := by
  induction t generalizing read n with
  | nil => rfl
  | cons ch t ih =>
    rw [cons_append, readAhead, if_pos rfl, ih]
    simp [Nat.add_assoc, Nat.add_comm 1]

theorem read?_of_after {t rest : Text} (h : c.after = t ++ rest) :
    c.read? .forward t = some ⟨t.reverse ++ c.before, rest, c.pos + t.length⟩ := by
  simp [read?, h, readAhead_append]

end Cursor

namespace Pattern
variable {c : Cursor} {caps : Captures} {k : Continuation} {calls : Nat → Matcher} {s : CharSet} {p q : Pattern}
  {m : Matcher} {ch : Char} {room n least : Nat} {t read u rest : Text}

/-! ### Sets of characters -/

theorem space_has : CharSet.space.has ch = Text.isSpace ch := by
  simp [CharSet.has, CharSet.space, CharClass.covers]

theorem nonSpace_has (ch : Char) : CharSet.nonSpace.has ch = !Text.isSpace ch := by
  simp [CharSet.nonSpace, CharSet.has, CharClass.covers]

theorem space_has_blank : ∀ ch ∈ " ".toList, CharSet.space.has ch :=
  forall_mem_singleton.mpr rfl

theorem inLine_has (h : ch ≠ '\n') : CharSet.inLine.has ch := by
  simp [CharSet.inLine, CharSet.has, CharClass.covers, h]

theorem inLine_of_not_mem (h : '\n' ∉ t) : ∀ ch ∈ t, CharSet.inLine.has ch :=
  fun _ hch => inLine_has fun heq => h (heq ▸ hch)

/-! ### Equations -/

theorem matcher_seq (calls : Nat → Matcher) (p q : Pattern) : matcher calls .forward (.seq p q) c caps k =
      matcher calls .forward p c caps fun c' caps' => matcher calls .forward q c' caps' k :=
  rfl

theorem matcher_many (calls : Nat → Matcher) (p : Pattern) (greed : Greed) (least : Nat) (most : Option Nat) :
    matcher calls .forward (.many p greed least most) c caps k =
      manyMatcher (matcher calls .forward p) greed most c.after.length 0 least c caps k :=
  rfl

theorem matcher_group (calls : Nat → Matcher) (n : Nat) (p : Pattern) : matcher calls .forward (.group n p) c caps k =
      matcher calls .forward p c caps fun c' caps' => k c' ((n, ⟨c, c'.pos⟩) :: caps') :=
  rfl

theorem matcher_longest (calls : Nat → Matcher) (s : CharSet) (least : Nat) (most : Option Nat) :
    matcher calls .forward (.run s .longest least most) c caps k =
      runLongest s most (fun n read rest => if n < least then none else k ⟨read, rest, c.pos + n⟩ caps) 0 c.before
        c.after :=
  rfl

theorem matcher_shortest (calls : Nat → Matcher) (s : CharSet) (least : Nat) (most : Option Nat) :
    matcher calls .forward (.run s .shortest least most) c caps k =
      runShortest s most (fun n read rest => if n < least then none else k ⟨read, rest, c.pos + n⟩ caps) 0 c.before
        c.after :=
  rfl

theorem matcher_either (calls : Nat → Matcher) (p q : Pattern) : matcher calls .forward (.either p q) c caps k =
      (matcher calls .forward p c caps k).or (matcher calls .forward q c caps k) := by
  simp only [matcher]
  cases matcher calls .forward p c caps k <;> rfl

theorem matcher_atomic (calls : Nat → Matcher) (p : Pattern) : matcher calls .forward (.atomic p) c caps k =
      (matcher calls .forward p c caps fun c' caps' => some ⟨c', caps'⟩).bind fun e => k e.stop e.captures := by
  simp only [matcher]
  cases matcher calls .forward p c caps fun c' caps' => some ⟨c', caps'⟩ <;> rfl

theorem matcher_lit (calls : Nat → Matcher) (t : Text) : matcher calls .forward (.lit t) c caps k =
      if t.isPrefixOf c.after then k ⟨t.reverse ++ c.before, c.after.drop t.length, c.pos + t.length⟩ caps
      else none := by
  simp only [matcher]
  by_cases h : t.isPrefixOf c.after
  · obtain ⟨rest, hrest⟩ := isPrefixOf_iff_prefix.mp h
    rw [if_pos h, Cursor.read?_of_after hrest.symm, ← hrest, drop_left]
  · rw [if_neg h]
    cases hread : c.read? .forward t with
    | none => rfl
    | some c' => exact absurd (List.isPrefixOf_iff_prefix.mpr ⟨_, (Cursor.over_of_read? hread).after.symm⟩) h

theorem lit_of_after (hafter : c.after = t ++ rest) :
    matcher calls .forward (.lit t) c caps k = k ⟨t.reverse ++ c.before, rest, c.pos + t.length⟩ caps := by
  rw [matcher_lit, hafter, if_pos (List.isPrefixOf_iff_prefix.mpr (prefix_append t rest)), drop_left]

theorem matcher_one (calls : Nat → Matcher) (s : CharSet) (h : c.after = ch :: rest) :
    matcher calls .forward (.one s) c caps k = if s.has ch then k ⟨ch :: c.before, rest, c.pos + 1⟩ caps else none := by
  simp only [matcher, Cursor.step?, Cursor.next?, h]

theorem matcher_notBehind (calls : Nat → Matcher) (s : CharSet) :
    matcher calls .forward (.notBehind (.one s)) c caps k = if c.before.head?.any s.has then none else k c caps := by
  simp only [notBehind, matcher, Cursor.step?, Cursor.prev?]
  cases c.before with
  | nil => rfl
  | cons ch rest => cases h : s.has ch <;> simp [h]

theorem matcher_notAhead (calls : Nat → Matcher) (s : CharSet) : matcher calls .forward (.notAhead (.one s)) c caps k =
      if c.after.head?.any s.has then none else k c caps := by
  simp only [notAhead, matcher, Cursor.step?, Cursor.next?]
  cases c.after with
  | nil => rfl
  | cons ch rest => cases h : s.has ch <;> simp [h]

theorem either_of_left {e : Ending}
    (h : matcher calls .forward p c caps k = some e) : matcher calls .forward (.either p q) c caps k = some e := by
  rw [matcher_either, h, Option.some_or]

theorem either_of_right (h : matcher calls .forward p c caps k = none) :
    matcher calls .forward (.either p q) c caps k = matcher calls .forward q c caps k := by
  rw [matcher_either, h, Option.none_or]

theorem matchAt_isSome {depth : Nat} {moving : Bool}
    (h : (matcher (p.calls depth) .forward p c [] (stopAt moving c.pos)).isSome) :
    (p.matchAt depth moving c).isSome := by
  unfold matchAt
  split
  · rfl
  · next hnone =>
    rw [hnone] at h
    cases h

/-! ### Runs and repetitions -/

theorem runShortest_isSome {k : Nat → Text → Text → Option Ending}
    (hu : ∀ ch ∈ u, s.has ch) (hk : (k (n + u.length) (u.reverse ++ read) rest).isSome) :
    (runShortest s none k n read (u ++ rest)).isSome := by
  induction u generalizing n read with
  | nil =>
    cases rest with
    | nil => exact hk
    | cons ch rest =>
      rw [nil_append, runShortest]
      split
      · rfl
      · next hnone =>
        rw [length_nil, reverse_nil, nil_append, Nat.add_zero, hnone] at hk
        cases hk
  | cons ch u ih =>
    rw [cons_append, runShortest]
    split
    · rfl
    · rw [if_pos (by simp [hu ch mem_cons_self, allowsMore])]
      refine ih (fun d hd => hu d (mem_cons_of_mem ch hd)) ?_
      rw [length_cons, reverse_cons, append_assoc, singleton_append] at hk
      rwa [Nat.add_right_comm, Nat.add_assoc]

theorem runLongest_isSome {k : Nat → Text → Text → Option Ending}
    (hu : ∀ ch ∈ u, s.has ch) (hk : (k (n + u.length) (u.reverse ++ read) rest).isSome) :
    (runLongest s none k n read (u ++ rest)).isSome := by
  induction u generalizing n read with
  | nil =>
    rw [← Bool.not_eq_false, Option.isSome_eq_false_iff, Option.isNone_iff_eq_none]
    intro hnone
    have hstop : k n read rest = none := runLongest_none hnone
    rw [length_nil, Nat.add_zero, reverse_nil, nil_append, hstop] at hk
    cases hk
  | cons ch u ih =>
    rw [cons_append, runLongest, if_pos (by simp [hu ch mem_cons_self, allowsMore])]
    have hmore : (runLongest s none k (n + 1) (ch :: read) (u ++ rest)).isSome := by
      refine ih (fun d hd => hu d (mem_cons_of_mem ch hd)) ?_
      rw [length_cons, reverse_cons, append_assoc, singleton_append] at hk
      rwa [Nat.add_right_comm, Nat.add_assoc]
    obtain ⟨e, he⟩ := Option.isSome_iff_exists.mp hmore
    rw [he]
    rfl

theorem runLongest_eq {k : Nat → Text → Text → Option Ending} (hu : ∀ ch ∈ u, s.has ch)
    (hlast : ∀ v w, rest = v ++ w → v ≠ [] → (∀ ch ∈ v, s.has ch) →
      k (n + u.length + v.length) (v.reverse ++ (u.reverse ++ read)) w = none)
    (hk : (k (n + u.length) (u.reverse ++ read) rest).isSome) :
    runLongest s none k n read (u ++ rest) = k (n + u.length) (u.reverse ++ read) rest := by
  induction u generalizing n read with
  | nil =>
    cases rest with
    | nil => rfl
    | cons ch rest =>
      rw [nil_append, runLongest]
      split
      · next hch =>
        have hmore : runLongest s none k (n + 1) (ch :: read) rest = none := by
          rw [Option.eq_none_iff_forall_ne_some]
          intro e he
          obtain ⟨v, w, rfl, hv, hkv, -⟩ := run_of_runLongest he
          have hset : ∀ d ∈ ch :: v, s.has d :=
            forall_mem_cons.mpr ⟨(Bool.and_eq_true_iff.mp hch).1, hv⟩
          have hnone := hlast (ch :: v) w rfl (cons_ne_nil _ _) hset
          rw [length_nil, Nat.add_zero, reverse_nil, nil_append, length_cons, reverse_cons,
            append_assoc, singleton_append, Nat.add_comm v.length 1, ← Nat.add_assoc, hkv] at hnone
          cases hnone
        rw [hmore]
        rfl
      · rfl
  | cons ch u ih =>
    have hcount : n + 1 + u.length = n + (ch :: u).length := by
      rw [length_cons]
      omega
    have hread : u.reverse ++ ch :: read = (ch :: u).reverse ++ read := by
      simp
    have hmore : runLongest s none k (n + 1) (ch :: read) (u ++ rest) =
        k (n + (ch :: u).length) ((ch :: u).reverse ++ read) rest := by
      rw [← hcount, ← hread] at hk hlast ⊢
      exact ih (fun d hd => hu d (mem_cons_of_mem ch hd)) hlast hk
    rw [cons_append, runLongest, if_pos (by simp [hu ch mem_cons_self, allowsMore]), hmore]
    split
    · next heq => exact heq.symm
    · next hnone =>
      rw [hnone] at hk
      cases hk

theorem longest_of_after
    (hlen : least ≤ u.length) (hset : ∀ ch ∈ u, s.has ch) (hrest : ∀ ch ∈ rest.head?, s.has ch = false)
    (hafter : c.after = u ++ rest) (hk : (k ⟨u.reverse ++ c.before, rest, c.pos + u.length⟩ caps).isSome) :
    matcher calls .forward (.run s .longest least none) c caps k =
      k ⟨u.reverse ++ c.before, rest, c.pos + u.length⟩ caps := by
  have hleast : ¬0 + u.length < least := by omega
  rw [matcher_longest, hafter, runLongest_eq hset ?_ (by rwa [if_neg hleast, Nat.zero_add]), if_neg hleast, Nat.zero_add]
  -- Nothing longer is tried: the next character is not in the set.
  intro v w hvw hv hset'
  obtain ⟨d, v, rfl⟩ := exists_cons_of_ne_nil hv
  have hd := hrest d (by rw [hvw]; rfl)
  rw [hset' d mem_cons_self] at hd
  cases hd

/-- A group that reads as far as possible before a character ends at the last one, if that is accepted. -/
theorem group_rest_of_last {i : Nat} {v : Text} (hafter : c.after = u ++ ch :: v) (hline : '\n' ∉ u) (hlast : ch ∉ v)
    (hk : (k ⟨ch :: (u.reverse ++ c.before), v, c.pos + u.length + 1⟩
      ((i, ⟨c, c.pos + u.length⟩) :: caps)).isSome) :
    (matcher calls .forward (.group i .rest) c caps fun c' caps' => matcher calls .forward (.lit [ch]) c' caps' k) =
      k ⟨ch :: (u.reverse ++ c.before), v, c.pos + u.length + 1⟩ ((i, ⟨c, c.pos + u.length⟩) :: caps) := by
  rw [matcher_group, rest, star, matcher_longest, hafter]
  simp only [Nat.not_lt_zero, if_false, matcher_lit]
  rw [runLongest_eq (inLine_of_not_mem hline)]
  · simp
  · intro v' w hvw hv' _
    obtain ⟨d, v', rfl⟩ := exists_cons_of_ne_nil hv'
    rw [cons_append, cons.injEq] at hvw
    rw [if_neg]
    rw [List.isPrefixOf_iff_prefix]
    intro hpre
    exact hlast (hvw.2 ▸ mem_append_right v' (hpre.subset mem_cons_self))
  · simpa using hk

theorem manyMatcher_succ (m : Matcher) (room n least : Nat) : manyMatcher m .longest none (room + 1) n least c caps k =
      (m c caps fun c' caps' => if c'.pos = c.pos then none
        else manyMatcher m .longest none room (n + 1) least c' caps' k).or (if n < least then none else k c caps) := by
  simp only [manyMatcher, allowsMore, if_true]
  split
  · next heq => rw [heq, Option.some_or]
  · next heq => rw [heq, Option.none_or]

theorem manyMatcher_step {c₁ : Cursor}
    (hm : ∀ k', (k' c₁ caps).isSome → m c caps k' = k' c₁ caps) (hpos : c₁.pos ≠ c.pos)
    (hrest : (manyMatcher m .longest none room (n + 1) least c₁ caps k).isSome) :
    manyMatcher m .longest none (room + 1) n least c caps k =
      manyMatcher m .longest none room (n + 1) least c₁ caps k := by
  obtain ⟨e, he⟩ := Option.isSome_iff_exists.mp hrest
  have hmore := hm (fun c' caps' => if c'.pos = c.pos then none
    else manyMatcher m .longest none room (n + 1) least c' caps' k) (by rwa [if_neg hpos])
  rw [if_neg hpos, he] at hmore
  rw [manyMatcher_succ, hmore, he, Option.some_or]

theorem manyMatcher_isSome_of_stop (hk : (k c caps).isSome) :
    (manyMatcher m .longest none room n 0 c caps k).isSome := by
  cases room with
  | zero => exact hk
  | succ room =>
    rw [manyMatcher_succ, Option.isSome_or, if_neg (Nat.not_lt_zero n), hk, Bool.or_true]

theorem manyMatcher_isSome_of_step (h : (m c caps fun c' caps' =>
      if c'.pos = c.pos then none else manyMatcher m .longest none room (n + 1) 0 c' caps' k).isSome) :
    (manyMatcher m .longest none (room + 1) n 0 c caps k).isSome := by
  rw [manyMatcher_succ, Option.isSome_or, h, Bool.true_or]

theorem lit_isSome (hafter : c.after = t ++ rest)
    (hk : (k ⟨t.reverse ++ c.before, rest, c.pos + t.length⟩ caps).isSome) :
    (matcher calls .forward (.lit t) c caps k).isSome := by
  rw [lit_of_after hafter]
  exact hk

theorem one_isSome (hch : s.has ch)
    (hafter : c.after = ch :: rest) (hk : (k ⟨ch :: c.before, rest, c.pos + 1⟩ caps).isSome) :
    (matcher calls .forward (.one s) c caps k).isSome := by
  rw [matcher_one calls s hafter, if_pos hch]
  exact hk

theorem run_isSome {greed : Greed} (hlen : least ≤ u.length) (hset : ∀ ch ∈ u, s.has ch)
    (hafter : c.after = u ++ rest) (hk : (k ⟨u.reverse ++ c.before, rest, c.pos + u.length⟩ caps).isSome) :
    (matcher calls .forward (.run s greed least none) c caps k).isSome := by
  have hleast : ¬0 + u.length < least := by omega
  cases greed with
  | shortest =>
    rw [matcher_shortest, hafter]
    exact runShortest_isSome hset (by rwa [if_neg hleast, Nat.zero_add])
  | longest =>
    rw [matcher_longest, hafter]
    exact runLongest_isSome hset (by rwa [if_neg hleast, Nat.zero_add])

theorem run_isSome_nil {greed : Greed} (hk : (k c caps).isSome) :
    (matcher calls .forward (.run s greed 0 none) c caps k).isSome :=
  run_isSome (u := []) (Nat.le_refl 0) (by simp) rfl hk

theorem either_isSome_left (h : (matcher calls .forward p c caps k).isSome) :
    (matcher calls .forward (.either p q) c caps k).isSome := by
  rw [matcher_either, Option.isSome_or, h, Bool.true_or]

theorem either_isSome_right (h : (matcher calls .forward q c caps k).isSome) :
    (matcher calls .forward (.either p q) c caps k).isSome := by
  rw [matcher_either, Option.isSome_or, h, Bool.or_true]

theorem atomic_plus_isSome (hu : u ≠ [])
    (hset : ∀ ch ∈ u, s.has ch) (hrest : ∀ ch ∈ rest.head?, s.has ch = false)
    (hafter : c.after = u ++ rest)
    (hk : (k ⟨u.reverse ++ c.before, rest, c.pos + u.length⟩ caps).isSome) :
    (matcher calls .forward (.atomic (.either (.plus s) q)) c caps k).isSome := by
  have hread : matcher calls .forward (.run s .longest 1 none) c caps (fun c' caps' => some ⟨c', caps'⟩) = _ :=
    longest_of_after (length_pos_iff.mpr hu) hset hrest hafter rfl
  rw [plus, matcher_atomic, matcher_either, hread]
  exact hk

theorem many_plus_isSome
    (hset : ∀ ch ∈ u, s.has ch) (hrest : ∀ ch ∈ rest.head?, s.has ch = false) (hafter : c.after = u ++ rest)
    (hk : ∀ c', c.Over u c' → (k c' caps).isSome) :
    (matcher calls .forward (.many (.atomic (.either (.plus s) q)) .longest 0 none) c caps k).isSome := by
  by_cases hu : u = []
  · subst hu
    exact manyMatcher_isSome_of_stop (hk c (.refl c))
  · have hpos : 0 < u.length := length_pos_iff.mpr hu
    have hroom : c.after.length = (u.length - 1 + rest.length) + 1 := by
      rw [hafter, length_append]
      omega
    rw [matcher_many, hroom]
    refine manyMatcher_isSome_of_step (atomic_plus_isSome hu hset hrest hafter ?_)
    rw [if_neg (by simp only; omega)]
    exact manyMatcher_isSome_of_stop (hk _ ⟨hafter, rfl, rfl⟩)

end Pattern

end Geoscript
