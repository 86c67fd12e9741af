import Geoscript.Proofs.Script.Operator
import Geoscript.Proofs.Script.Unquoted

/-! A text with one piece in double quotes: the piece is found (`search?_quoted`), and the passes that respect quotes
leave it alone. -/

namespace Geoscript.Script
open List Text Pattern
variable {a b s : Text} {c : Cursor} {caps : Captures} {k : Continuation}

/-! ### The first quoted piece -/

def quotedStep : Pattern :=
  .all [.ahead (.group 2 (.run (.single '\\') .longest 0 (some 1))), .sameAs 2, .one .inLine]

theorem matcher_quotedStep (calls : Nat → Matcher) {ch : Char} {rest : Text} (hafter : c.after = ch :: rest)
    (hslash : ch ≠ '\\') (hline : ch ≠ '\n') : matcher calls .forward quotedStep c caps k =
      k ⟨ch :: c.before, rest, c.pos + 1⟩ ((2, ⟨c, c.pos⟩) :: caps) := by
  obtain ⟨before, after, pos⟩ := c
  obtain rfl : after = ch :: rest := hafter
  have hslash' : (CharSet.single '\\').has ch = false := by
    simp [CharSet.has, CharSet.single, CharClass.covers, hslash]
  have hline' : CharSet.inLine.has ch := by
    simp [CharSet.has, CharSet.inLine, CharClass.covers, hline]
  simp [quotedStep, Pattern.all, Pattern.ahead, matcher, runMatcher, runLongest, hslash', Span.text, Cursor.upTo,
    Cursor.read?, Cursor.readAhead, Cursor.step?, Cursor.next?, hline']

theorem matcher_quoted_rest (calls : Nat → Matcher) (hs : Quotable s) (hafter : c.after = s ++ '"' :: b)
    {span : Span} (hcaps : caps.lookup 1 = some span) (hspan : span.text = ['"']) {room n : Nat}
    (hroom : s.length ≤ room)
    (hk : ∀ caps', (k ⟨'"' :: (s.reverse ++ c.before), b, c.pos + s.length + 1⟩ caps').isSome) :
    ∃ caps', manyMatcher (matcher calls .forward quotedStep) .shortest none room n 0 c caps
        (fun c' caps' => matcher calls .forward (.sameAs 1) c' caps' k) =
      k ⟨'"' :: (s.reverse ++ c.before), b, c.pos + s.length + 1⟩ caps' := by
  have hclose : ∀ {c : Cursor} {caps : Captures}, caps.lookup 1 = some span →
      matcher calls .forward (.sameAs 1) c caps k =
        if ['"'].isPrefixOf c.after then k ⟨'"' :: c.before, c.after.drop 1, c.pos + 1⟩ caps else none := by
    intro c caps hcaps
    have hlit : matcher calls .forward (.sameAs 1) c caps k = matcher calls .forward (.lit ['"']) c caps k := by
      simp only [matcher, hcaps, hspan]
    rw [hlit, matcher_lit]
    rfl
  induction s generalizing c caps room n with
  | nil =>
    refine ⟨caps, ?_⟩
    have hstop : matcher calls .forward (.sameAs 1) c caps k = k ⟨'"' :: c.before, b, c.pos + 1⟩ caps := by
      rw [hclose hcaps, hafter]
      rfl
    obtain ⟨e, he⟩ := Option.isSome_iff_exists.mp (hk caps)
    have he : k ⟨'"' :: c.before, b, c.pos + 1⟩ caps = some e := he
    cases room with
    | zero =>
      simp only [manyMatcher, hstop, he, Nat.not_lt_zero, if_false]
      exact he.symm
    | succ room =>
      simp only [manyMatcher, hstop, he, Nat.not_lt_zero, if_false]
      exact he.symm
  | cons ch s ih =>
    obtain ⟨hquote, hapostrophe, hslash, hline⟩ := hs
    rw [mem_cons, not_or] at hquote hapostrophe hslash hline
    cases room with
    | zero => simp at hroom
    | succ room =>
      have hstop : matcher calls .forward (.sameAs 1) c caps k = none := by
        rw [hclose hcaps, hafter, if_neg]
        simpa using hquote.1
      have hcount : ∀ x : Nat, x + 1 + s.length + 1 = x + (ch :: s).length + 1 := by
        intro x
        rw [length_cons]
        omega
      have hread : s.reverse ++ ch :: c.before = (ch :: s).reverse ++ c.before := by
        simp
      obtain ⟨caps', hrest⟩ := @ih ⟨ch :: c.before, s ++ '"' :: b, c.pos + 1⟩ ((2, ⟨c, c.pos⟩) :: caps)
        ⟨hquote.2, hapostrophe.2, hslash.2, hline.2⟩ rfl hcaps room (n + 1) (Nat.le_of_succ_le_succ hroom)
        (by rw [hread, hcount]; exact hk)
      refine ⟨caps', ?_⟩
      rw [hread, hcount] at hrest
      simp only [manyMatcher, hstop, Nat.not_lt_zero, if_false, allowsMore, if_true]
      rw [matcher_quotedStep calls hafter (Ne.symm hslash.1) (Ne.symm hline.1), if_neg (by simp)]
      exact hrest

theorem matchAt_quoted (hs : Quotable s) (hafter : c.after = '"' :: (s ++ '"' :: b)) (depth : Nat) (moving : Bool) :
    ∃ m, quoted.matchAt depth moving c = some m ∧ m.text = '"' :: (s ++ ['"']) := by
  obtain ⟨before, after, pos⟩ := c
  obtain rfl : after = '"' :: (s ++ '"' :: b) := hafter
  have hopen : (CharSet.of "\"'").has '"' := rfl
  have hrest := @matcher_quoted_rest b s ⟨'"' :: before, s ++ '"' :: b, pos + 1⟩
    [(1, ⟨⟨before, '"' :: (s ++ '"' :: b), pos⟩, pos + 1⟩)]
    (stopAt moving pos) (calls quoted depth) hs rfl _ rfl (by simp [Span.text, Cursor.upTo]) (s ++ '"' :: b).length 0
    (by simp) fun _ => Option.isSome_of_eq_some (stopAt_of_lt (by simp only; omega))
  obtain ⟨caps, hrest⟩ := hrest
  refine ⟨⟨⟨before, '"' :: (s ++ '"' :: b), pos⟩,
    ⟨'"' :: (s.reverse ++ '"' :: before), b, pos + 1 + s.length + 1⟩, caps⟩, ?_, ?_⟩
  · have hmatch : matcher (calls quoted depth) .forward quoted ⟨before, '"' :: (s ++ '"' :: b), pos⟩ []
        (stopAt moving pos) = some ⟨⟨'"' :: (s.reverse ++ '"' :: before), b, pos + 1 + s.length + 1⟩, caps⟩ := by
      refine (matcher_seq (calls quoted depth) (.group 1 (.one (.of "\"'"))) _).trans ?_
      rw [matcher_group, matcher_one _ _ rfl, if_pos hopen]
      refine (matcher_seq (calls quoted depth) (.many quotedStep .shortest 0 none) _).trans ?_
      exact hrest.trans (stopAt_of_lt (by simp only; omega))
    simp only [matchAt, hmatch]
  · have hlen : pos + 1 + s.length + 1 - pos = ('"' :: (s ++ ['"'])).length := by
      simp only [length_cons, length_append, length_nil]
      omega
    have hcut : '"' :: (s ++ '"' :: b) = '"' :: (s ++ ['"']) ++ b := by simp
    simp only [Match.text, Cursor.upTo]
    rw [hlen, hcut, take_left]

theorem not_matchAt_quoted {depth : Nat} {moving : Bool} {d : Char} {rest : Text} (hafter : c.after = d :: rest)
    (hd : d ≠ '"' ∧ d ≠ '\'') : quoted.matchAt depth moving c = none := by
  have hset : (CharSet.of "\"'").has d = false := by
    simp [CharSet.of, CharSet.has, CharClass.covers, hd]
  have hmatch : ∀ k, matcher (calls quoted depth) .forward quoted c [] k = none := by
    intro k
    refine (matcher_seq (calls quoted depth) (.group 1 (.one (.of "\"'"))) _).trans ?_
    rw [matcher_group, matcher_one _ _ hafter, hset]
    rfl
  simp only [matchAt, hmatch]

theorem search?_quoted (ha : '"' ∉ a ∧ '\'' ∉ a) (hs : Quotable s) :
    ∃ m, quoted.search? (a ++ '"' :: (s ++ '"' :: b)) = some m ∧ m.text = '"' :: (s ++ ['"']) := by
  obtain ⟨c, hover, hafter⟩ := @Cursor.exists_over (.start (a ++ '"' :: (s ++ '"' :: b))) a _ rfl
  obtain ⟨m, hm, htext⟩ := matchAt_quoted hs hafter ((a ++ '"' :: (s ++ '"' :: b)).length + 1) false
  refine ⟨m, search?_of_first hover hm ?_, htext⟩
  intro v w c₁ hvw hw hc₁
  cases w with
  | nil => exact absurd rfl hw
  | cons d w =>
    have hc₁after : c₁.after = d :: (w ++ '"' :: (s ++ '"' :: b)) := by
      have hsplit := hc₁.after
      simp only [Cursor.start, hvw, append_assoc] at hsplit
      exact (append_cancel_left hsplit).symm
    have hd : d ∈ a := by
      rw [hvw]
      simp
    exact not_matchAt_quoted hc₁after ⟨fun h => ha.1 (h ▸ hd), fun h => ha.2 (h ▸ hd)⟩

/-! ### Replacing outside of quotes -/

/-- Where all dots of a text are in its quoted piece, what has a dot is there, too: it may go on to the closing
quote, but not beyond it. -/
theorem infix_quoted_of_dot {u x : Text} (ha : '"' ∉ a ∧ '.' ∉ a) (hs : '"' ∉ s) (hb : '"' ∉ b ∧ '.' ∉ b)
    (hdot : '.' ∈ u) (hu : '"' ∉ u) (hx : x.length ≤ 1) (h : u ++ x <:+: a ++ '"' :: (s ++ '"' :: b)) :
    u ++ x <:+: '"' :: (s ++ ['"']) := by
  by_cases hquote : '"' ∈ x
  · obtain rfl : x = ['"'] := by
      match x, hx, hquote with
      | [d], _, hquote => rw [mem_singleton.mp hquote]
    obtain ⟨front, back, hback⟩ := h
    rw [← append_assoc, append_assoc, singleton_append] at hback
    rcases cut_eq_or_behind ha.1 hback with ⟨rfl, -⟩ | ⟨mid, hmid, hrest⟩
    · exact absurd (mem_append_right _ hdot) ha.2
    · rcases cut_eq_or_behind hs hrest.symm with ⟨rfl, -⟩ | ⟨mid', -, rfl⟩
      · obtain ⟨z, -, rfl⟩ := cut_left hu hmid
        exact ⟨'"' :: z, [], by simp⟩
      · exact absurd (by simp) hb.1
  · have hux : '"' ∉ u ++ x := by
      simp [hu, hquote]
    have hdot' : '.' ∈ u ++ x := mem_append_left x hdot
    rcases (infix_append_cons_iff hux).mp h with h | h
    · exact absurd (h.subset hdot') ha.2
    · rcases (infix_append_cons_iff hux).mp h with h | h
      · exact h.trans ⟨['"'], ['"'], by simp⟩
      · exact absurd (h.subset hdot') hb.2

theorem replaceOutsideQuotes_eq_self {u x new : Text} (ha : '"' ∉ a ∧ '\'' ∉ a ∧ '.' ∉ a) (hs : Quotable s)
    (hb : '"' ∉ b ∧ '.' ∉ b) (hdot : '.' ∈ u) (hu : '"' ∉ u) (hx : x.length ≤ 1) :
    replaceOutsideQuotes (a ++ '"' :: (s ++ '"' :: b)) (a ++ '"' :: (s ++ '"' :: b)) (u ++ x) new =
      a ++ '"' :: (s ++ '"' :: b) := by
  obtain ⟨m, hm, htext⟩ := @search?_quoted a b s ⟨ha.1, ha.2.1⟩ hs
  have hin : inQuotes (a ++ '"' :: (s ++ '"' :: b)) (u ++ x) = has (u ++ x) ('"' :: (s ++ ['"'])) := by
    simp only [inQuotes, hm, htext]
  rw [replaceOutsideQuotes, hin]
  split
  · rfl
  · next hout =>
    refine replace_of_not_occurs (by simp [ne_nil_of_mem hdot]) fun h => hout (has_iff.mpr ?_)
    exact infix_quoted_of_dot ⟨ha.1, ha.2.2⟩ hs.1 hb hdot hu hx h

/-! ### The plus sign -/

theorem convertPlus_quoted (hne : a ≠ []) (ha : Quotable a) (hplus : '+' ∉ a) (hs : Quotable s) :
    convertPlus (a ++ '"' :: (s ++ ['"'])) = (a ++ '"' :: (s ++ ['"']), []) := by
  obtain ⟨hquote, hapostrophe, hslash, -⟩ := ha
  have hmarkless : ∀ c ∈ a, Markless c := fun c hc =>
    ⟨fun h => hapostrophe (h ▸ hc), fun h => hquote (h ▸ hc), fun h => hslash (h ▸ hc)⟩
  refine convertPlus_of_eq ?_
  rw [replaceUnquoted_quoted (.inr rfl) hne hmarkless hs.1, replaceMany_single,
    replace_of_not_occurs (by simp) fun h => hplus (h.subset mem_cons_self)]
  rfl

end Geoscript.Script
