import Geoscript.Proofs.Pattern.Accept
import Geoscript.Proofs.Script.OneLine
import Geoscript.Proofs.Script.Parens

/-! Text in parentheses. The inside of a header is found by a pattern that takes closed, non-empty, single parentheses
(`Shallow`), what follows it by counting (`Balanced`). A balanced inside is found as a whole if and only if it is
shallow. -/

namespace Geoscript.Script
open List Pattern
open Text hiding count
variable {t u v rest : Text} {c c' : Cursor} {caps : Captures} {k : Continuation}

theorem Balanced.getLast?_ne (h : Balanced t) : t.getLast? ≠ some '(' := by
  intro hlast
  obtain ⟨front, rfl⟩ := getLast?_eq_some_iff.mp hlast
  have hopened := h.opened front (prefix_append front ['('])
  have hclosed := h.closed
  simp at hclosed
  omega

/-! ### Shallow text -/

/-- Text whose parentheses are closed, not empty and not nested. -/
inductive Shallow : Text → Prop where
  | nil : Shallow []
  | char {ch : Char} {t : Text} (hopen : ch ≠ '(') (hclose : ch ≠ ')') (h : Shallow t) : Shallow (ch :: t)
  | group {u t : Text} (hne : u ≠ []) (hopen : '(' ∉ u) (hclose : ')' ∉ u) (h : Shallow t) :
      Shallow ('(' :: (u ++ ')' :: t))

/-- What the pattern reads: a piece in parentheses ends with the first one that closes. -/
inductive Pieces : Text → Prop where
  | nil : Pieces []
  | char {ch : Char} {t : Text} (hopen : ch ≠ '(') (hclose : ch ≠ ')') (h : Pieces t) : Pieces (ch :: t)
  | group {u t : Text} (hne : u ≠ []) (hclose : ')' ∉ u) (h : Pieces t) : Pieces ('(' :: (u ++ ')' :: t))

theorem Pieces.append (hu : Pieces u) (hv : Pieces v) : Pieces (u ++ v) := by
  induction hu with
  | nil => exact hv
  | char hopen hclose _ ih => exact .char hopen hclose ih
  | group hne hclose _ ih =>
    rw [cons_append, append_assoc]
    exact .group hne hclose ih

theorem Pieces.count_le (h : Pieces t) : count ')' t ≤ count '(' t := by
  induction h with
  | nil => exact Nat.le_refl _
  | char hopen hclose _ ih => simpa [hopen, hclose] using ih
  | group hne hclose _ ih =>
    simp [count_eq_zero.mpr hclose]
    omega

theorem Pieces.shallow (h : Pieces t) (hclosed : count '(' t = count ')' t) : Shallow t := by
  induction h with
  | nil => exact .nil
  | char hopen hclose _ ih => exact .char hopen hclose (ih (by simpa [hopen, hclose] using hclosed))
  | @group u t hne hclose h ih =>
    have hle := h.count_le
    simp [count_eq_zero.mpr hclose] at hclosed
    exact .group hne (count_eq_zero.mp (by omega)) hclose (ih (by omega))

theorem Shallow.of_not_mem (hopen : '(' ∉ t) (hclose : ')' ∉ t) : Shallow t := by
  induction t with
  | nil => exact .nil
  | cons ch t ih =>
    rw [mem_cons, not_or] at hopen hclose
    exact .char (Ne.symm hopen.1) (Ne.symm hclose.1) (ih hopen.2 hclose.2)

theorem Shallow.append (hu : Shallow u) (hv : Shallow v) : Shallow (u ++ v) := by
  induction hu with
  | nil => exact hv
  | char hopen hclose _ ih => exact .char hopen hclose ih
  | group hne hopen hclose _ ih =>
    rw [cons_append, append_assoc]
    exact .group hne hopen hclose ih

theorem Shallow.closed (h : Shallow t) : count '(' t = count ')' t := by
  induction h with
  | nil => rfl
  | char hopen hclose _ ih => simpa [hopen, hclose] using ih
  | group hne hopen hclose _ ih => simpa [count_eq_zero.mpr hopen, count_eq_zero.mpr hclose] using ih

theorem Shallow.count_take (h : Shallow t) (n : Nat) : count ')' (t.take n) ≤ count '(' (t.take n) ∧
    count '(' (t.take n) ≤ count ')' (t.take n) + 1 := by
  induction h generalizing n with
  | nil => simp
  | char hopen hclose _ ih =>
    cases n with
    | zero => simp
    | succ n => simpa [hopen, hclose] using ih n
  | @group u t hne hopen hclose _ ih =>
    cases n with
    | zero => simp
    | succ n =>
      have hopen' : count '(' (u.take n) = 0 := count_eq_zero.mpr fun h => hopen (mem_of_mem_take h)
      have hclose' : count ')' (u.take n) = 0 := count_eq_zero.mpr fun h => hclose (mem_of_mem_take h)
      rw [take_succ_cons, take_append]
      cases n - u.length with
      | zero => simp [hopen', hclose']
      | succ m => simpa [hopen', hclose'] using ih m

theorem Shallow.count_prefix (h : Shallow t) {p : Text} (hp : p <+: t) :
    p.count ')' ≤ p.count '(' ∧ p.count '(' ≤ p.count ')' + 1 := by
  rw [prefix_iff_eq_take.mp hp]
  exact h.count_take _

theorem Shallow.balanced (h : Shallow t) : Balanced t :=
  ⟨fun _ hp => (h.count_prefix hp).1, h.closed⟩

theorem infix_of_infix_append {d : Char} {o : Text} (hd : d ∉ u) (h : d :: o <:+: u ++ v) : d :: o <:+: v := by
  induction u with
  | nil => exact h
  | cons ch u ih =>
    rw [mem_cons, not_or] at hd
    rcases infix_cons_iff.mp h with h | h
    · exact absurd (cons_prefix_cons.mp h).1 hd.1
    · exact ih hd.2 h

theorem Shallow.not_empty (h : Shallow t) : ¬"()" <:+: t := by
  induction h with
  | nil => simp
  | char hopen hclose _ ih =>
    intro h
    rcases infix_cons_iff.mp h with h | h
    · exact hopen (cons_prefix_cons.mp h).1.symm
    · exact ih h
  | @group u t hne hopen hclose _ ih =>
    intro h
    rcases infix_cons_iff.mp h with h | h
    · obtain ⟨d, u, rfl⟩ := exists_cons_of_ne_nil hne
      have hd : ')' = d := (cons_prefix_cons.mp (cons_prefix_cons.mp h).2).1
      exact hclose (hd ▸ mem_cons_self)
    · rcases infix_cons_iff.mp (infix_of_infix_append hopen h) with h | h
      · exact absurd (cons_prefix_cons.mp h).1 (by decide)
      · exact ih h

theorem exists_first_paren (h : '(' ∈ t ∨ ')' ∈ t) : ∃ u d rest, t = u ++ d :: rest ∧ '(' ∉ u ∧ ')' ∉ u ∧
    (d = '(' ∨ d = ')') := by
  induction t with
  | nil => simp at h
  | cons ch t ih =>
    by_cases hch : ch = '(' ∨ ch = ')'
    · exact ⟨[], ch, t, rfl, not_mem_nil, not_mem_nil, hch⟩
    · rw [not_or] at hch
      obtain ⟨u, d, rest, rfl, hopen, hclose, hd⟩ := ih (by simpa [Ne.symm hch.1, Ne.symm hch.2] using h)
      refine ⟨ch :: u, d, rest, rfl, ?_, ?_, hd⟩
      · simp [hopen, Ne.symm hch.1]
      · simp [hclose, Ne.symm hch.2]

theorem Balanced.of_append (hu : Balanced u) (h : Balanced (u ++ v)) : Balanced v where
  opened p hp := by
    have hopened := h.opened (u ++ p) ((prefix_append_right_inj u).mpr hp)
    have hclosed := hu.closed
    rw [count_append, count_append] at hopened
    omega
  closed := by
    have hboth := h.closed
    have hclosed := hu.closed
    rw [count_append, count_append] at hboth
    omega

theorem shallow_of_depth (h : Balanced t) (hempty : ¬"()" <:+: t)
    (hdepth : ∀ p, p <+: t → count '(' p ≤ count ')' p + 1) : Shallow t := by
  induction hn : t.length using Nat.strongRecOn generalizing t with
  | ind n ih =>
    -- Each step takes off a shallow piece: one character, or what stands in the first parentheses.
    have hrest {u v : Text} (hu : Shallow u) (hne : u ≠ []) (huv : t = u ++ v) : Shallow v := by
      subst huv
      have hlen : v.length < n := by
        have := length_pos_iff.mpr hne
        rw [← hn, length_append]
        omega
      refine ih _ hlen (hu.balanced.of_append h) (fun hv => hempty (infix_append_of_infix_right hv))
        (fun p hp => ?_) rfl
      have hup := hdepth (u ++ p) ((prefix_append_right_inj u).mpr hp)
      have hclosed := hu.closed
      rw [count_append, count_append] at hup
      omega
    cases t with
    | nil => exact .nil
    | cons ch t =>
      by_cases hopen : ch = '('
      · subst hopen
        have hmem : '(' ∈ t ∨ ')' ∈ t := by
          have hclosed := h.closed
          rw [count_cons_self, count_cons_of_ne (by decide)] at hclosed
          exact .inr (count_pos_iff.mp (by omega))
        obtain ⟨u, d, rest, rfl, huopen, huclose, rfl | rfl⟩ := exists_first_paren hmem
        · have htwo := hdepth ('(' :: (u ++ ['('])) ⟨rest, by simp⟩
          simp [count_eq_zero.mpr huclose] at htwo
        · have hne : u ≠ [] := by
            rintro rfl
            exact hempty ⟨[], rest, rfl⟩
          have hgroup : Shallow ('(' :: (u ++ [')'])) := .group hne huopen huclose .nil
          exact .group hne huopen huclose (hrest hgroup (cons_ne_nil _ _) (by simp))
      · have hclose : ch ≠ ')' := by
          rintro rfl
          have hfirst := h.opened [')'] ⟨t, rfl⟩
          simp at hfirst
        exact .char hopen hclose (hrest (.char hopen hclose .nil) (cons_ne_nil _ _) rfl)

theorem shallow_iff (h : Balanced t) : Shallow t ↔ ¬"()" <:+: t ∧ ∀ p, p <+: t → p.count '(' ≤ p.count ')' + 1 :=
  ⟨fun hs => ⟨hs.not_empty, fun _ hp => (hs.count_prefix hp).2⟩,
    fun ⟨hempty, hdepth⟩ => shallow_of_depth h hempty hdepth⟩

/-! ### Reading the inside -/

def headerPiece : Pattern :=
  .either (.one (.except "()")) (.all [.str "(", .plus (.except ")"), .str ")"])

theorem except_parens_has {ch : Char} : (CharSet.except "()").has ch ↔ ch ≠ '(' ∧ ch ≠ ')' := by
  simp [CharSet.has, CharSet.except, CharClass.covers]

theorem except_close_has {ch : Char} : (CharSet.except ")").has ch ↔ ch ≠ ')' := by
  simp [CharSet.has, CharSet.except, CharClass.covers]

theorem matcher_group_piece (calls : Nat → Matcher) (hne : u ≠ []) (hclose : ')' ∉ u)
    (hover : c.Over ('(' :: (u ++ [')'])) c') (hk : (k c' caps).isSome) :
    matcher calls .forward headerPiece c caps k = k c' caps := by
  have hafter : c.after = "(" ++ (u ++ ')' :: c'.after) := by
    rw [hover.after]
    simp
  have hplain : matcher calls .forward (.one (.except "()")) c caps k = none := by
    rw [matcher_one calls _ hafter]
    rfl
  have hset : ∀ ch ∈ u, (CharSet.except ")").has ch := fun ch hch =>
    except_close_has.mpr fun h => hclose (h ▸ hch)
  have hclosing : ∀ ch ∈ (')' :: c'.after).head?, (CharSet.except ")").has ch = false := by
    simp [CharSet.has, CharSet.except, CharClass.covers]
  -- Where the three parts end is the place that the whole piece is over.
  have hstop : (⟨[')'] ++ (u.reverse ++ (['('] ++ c.before)), c'.after, c.pos + 1 + u.length + 1⟩ : Cursor) = c' := by
    refine hover.unique ⟨hover.after, by simp, ?_⟩
    simp only [length_cons, length_append, length_nil]
    omega
  have hend : ∀ b : Cursor, b.after = ")" ++ c'.after →
      matcher calls .forward (.str ")") b caps k = k ⟨[')'] ++ b.before, c'.after, b.pos + 1⟩ caps := fun b hb =>
    lit_of_after hb
  show matcher calls .forward (.either (.one (.except "()"))
    (.seq (.lit "(") (.seq (.run (.except ")") .longest 1 none) (.str ")")))) c caps k = _
  rw [either_of_right hplain, matcher_seq, lit_of_after hafter, matcher_seq,
    longest_of_after (u := u) (length_pos_iff.mpr hne) hset hclosing rfl, hend _ rfl]
  · exact congrArg (k · caps) hstop
  · rw [hend _ rfl]
    exact (congrArg (fun b => (k b caps).isSome) hstop).trans hk

theorem matcher_char_piece (calls : Nat → Matcher) {ch : Char} (hopen : ch ≠ '(') (hclose : ch ≠ ')')
    (hover : c.Over [ch] c') (hk : (k c' caps).isSome) :
    matcher calls .forward headerPiece c caps k = k c' caps := by
  have hafter : c.after = ch :: c'.after := hover.after
  have hstop := (Cursor.Over.cons hafter).unique hover
  obtain ⟨e, he⟩ := Option.isSome_iff_exists.mp hk
  rw [he]
  refine either_of_left ?_
  rw [matcher_one calls _ hafter, if_pos (except_parens_has.mpr ⟨hopen, hclose⟩), ← hstop]
  exact he

theorem manyMatcher_shallow {calls : Nat → Matcher} {room n : Nat} (hs : Shallow u) (hover : c.Over u c')
    (hafter : c'.after = ')' :: rest) (hroom : u.length ≤ room) (hleast : 1 ≤ n + u.length)
    (hk : (k c' caps).isSome) :
    manyMatcher (matcher calls .forward headerPiece) .longest none room n 1 c caps k = k c' caps := by
  induction hs generalizing c n room with
  | nil =>
    obtain rfl := hover.eq_of_nil
    have hn : ¬n < 1 := by
      rw [length_nil] at hleast
      omega
    have hstop (k' : Continuation) : matcher calls .forward headerPiece c' caps k' = none := by
      obtain ⟨before', after', pos'⟩ := c'
      subst hafter
      rfl
    cases room with
    | zero => simp only [manyMatcher, if_neg hn]
    | succ room => simp only [manyMatcher, allowsMore, if_true, hstop, if_neg hn]
  | @char ch t hopen hclose _ ih =>
    obtain ⟨c₁, hc₁, hrest⟩ := Cursor.Over.split (u := [ch]) (v := t) hover
    rw [length_cons] at hroom hleast
    obtain ⟨room, rfl⟩ : ∃ r, room = r + 1 := ⟨room - 1, by omega⟩
    have hmore := @ih _ room (n + 1) hrest (by omega) (by omega)
    rw [manyMatcher_step (fun k' => matcher_char_piece calls hopen hclose hc₁) (by simp [hc₁.pos]) (by rwa [hmore]),
      hmore]
  | @group u t hne hopen hclose _ ih =>
    have hsplit : '(' :: (u ++ ')' :: t) = ('(' :: (u ++ [')'])) ++ t := by simp
    rw [hsplit] at hover
    obtain ⟨c₁, hc₁, hrest⟩ := hover.split
    rw [hsplit, length_append, length_cons] at hroom
    obtain ⟨room, rfl⟩ : ∃ r, room = r + 1 := ⟨room - 1, by omega⟩
    have hmore := @ih _ room (n + 1) hrest (by omega) (by omega)
    rw [manyMatcher_step (fun k' => matcher_group_piece calls hne hclose hc₁) (by simp [hc₁.pos]) (by rwa [hmore]),
      hmore]

theorem pieces_of_reads {R : Nat → Cursor → Cursor → Prop} {a b : Cursor × Captures}
    (h : Relation.ReflTransGen (Reads R headerPiece) a b) : ∃ u, a.1.Over u b.1 ∧ Pieces u := by
  induction h with
  | refl => exact ⟨[], .refl _, .nil⟩
  | @tail b d _ hstep ih =>
    obtain ⟨u, hu, hpieces⟩ := ih
    rcases hstep with ⟨ch, hch, hover, -⟩ | ⟨m, ⟨hopen, -⟩, m', ⟨v, hlen, hv, hover, -⟩, hclose, -⟩
    · obtain ⟨hopen, hclose⟩ := except_parens_has.mp hch
      exact ⟨u ++ [ch], hu.trans hover, hpieces.append (.char hopen hclose .nil)⟩
    · have hne : v ≠ [] := length_pos_iff.mp hlen
      have hv' : ')' ∉ v := fun hmem => except_close_has.mp (hv _ hmem) rfl
      have hgroup : b.1.Over ('(' :: (v ++ [')'])) d.1 := (hopen.trans hover).trans hclose
      exact ⟨u ++ '(' :: (v ++ [')']), hu.trans hgroup, hpieces.append (.group hne hv' .nil)⟩

/-! ### Finding the inside -/

/-- The inside of a header that begins with a word and what may stand between it and the parenthesis. -/
def insideOf (word gap : Pattern) : Pattern :=
  .all [.behind (.all [word, gap, .str "("]), parenthesized]

variable {word gap : Pattern} {depth : Nat} {moving : Bool} {m : Match} {inside front back : Text}

theorem open_of_behind {calls : Nat → Matcher}
    (h : (matcher calls .forward (.behind (.all [word, gap, .str "("])) c caps k).isSome) :
    c.before.head? = some '(' := by
  obtain ⟨before, after, pos⟩ := c
  cases before with
  | nil =>
    simp [Pattern.behind, Pattern.all, str, matcher, Cursor.read?, Cursor.readAhead] at h
  | cons ch before =>
    by_cases hch : '(' = ch
    · rw [← hch]
      rfl
    · simp [Pattern.behind, Pattern.all, str, matcher, Cursor.read?, Cursor.readAhead, hch] at h

/-- What a look back over characters of a set finds: the word, and those characters between it and the parenthesis. -/
theorem word_of_behind {calls : Nat → Matcher} {word : Text} {s : CharSet}
    (h : (matcher calls .forward (.behind (.all [.lit word, .star s, .str "("])) c caps k).isSome) :
    ∃ gap before, c.before = '(' :: (gap ++ (word.reverse ++ before)) ∧ ∀ ch ∈ gap, s.has ch := by
  have hopen := open_of_behind h
  obtain ⟨before, after, pos⟩ := c
  obtain ⟨before, rfl⟩ := head?_eq_some_iff.mp hopen
  simp only [Pattern.behind, matcher] at h
  split at h
  · next e he =>
    obtain ⟨gap, rest, hrest, hgap, hword, -⟩ := run_of_runLongest he
    simp only [matcher, Cursor.read?, Nat.not_lt_zero, if_false] at hword
    split at hword
    · next hread =>
      split at hread
      · next hahead =>
        obtain ⟨rfl, -⟩ := Cursor.over_of_readAhead hahead
        exact ⟨gap, _, by simpa using hrest, hgap⟩
      · cases hread
    · cases hword
  · cases h

theorem matcher_wordBehind (calls : Nat → Matcher) {word gap before : Text} {s : CharSet}
    (hgap : ∀ ch ∈ gap, s.has ch) (hbefore : c.before = '(' :: (gap ++ (word.reverse ++ before))) :
    matcher calls .forward (.behind (.all [.lit word, .star s, .str "("])) c caps k = k c caps := by
  have hfound : ∃ stop, matcher calls .backward (.all [.lit word, .star s, .str "("]) c caps
      (fun c' caps' => some ⟨c', caps'⟩) = some ⟨stop, caps⟩ := by
    obtain ⟨before', after, pos⟩ := c
    subst hbefore
    have hrun : (matcher calls .backward (.all [.lit word, .star s, .str "("])
        ⟨'(' :: (gap ++ (word.reverse ++ before)), after, pos⟩ caps
        (fun c' caps' => some ⟨c', caps'⟩)).isSome := by
      refine runLongest_isSome hgap ?_
      simp [matcher, Cursor.read?, Cursor.readAhead_append]
    obtain ⟨e, he⟩ := Option.isSome_iff_exists.mp hrun
    -- Wherever the look stops, it has read no group.
    obtain ⟨u, rest, -, -, hk, -⟩ := run_of_runLongest he
    simp only [matcher, Nat.not_lt_zero, if_false] at hk
    split at hk
    · cases hk
      exact ⟨_, he⟩
    · cases hk
  obtain ⟨stop, hstop⟩ := hfound
  simp only [Pattern.behind, matcher, hstop, if_true]

theorem close_of_ahead {calls : Nat → Matcher} {e : Ending}
    (h : matcher calls .forward (.ahead (.str ")")) c caps k = some e) :
    c.after.head? = some ')' ∧ ∃ caps', k c caps' = some e := by
  obtain ⟨before, after, pos⟩ := c
  cases after with
  | nil => cases h
  | cons ch after =>
    by_cases hch : ')' = ch
    · subst hch
      exact ⟨rfl, caps, h⟩
    · simp [Pattern.ahead, str, matcher, Cursor.read?, Cursor.readAhead, hch] at h

theorem pieces_of_matchAt (h : (insideOf word gap).matchAt depth moving c = some m) :
    c.before.head? = some '(' ∧ ∃ u, c.Over u m.stop ∧ Pieces u ∧ m.stop.after.head? = some ')' := by
  unfold matchAt at h
  split at h
  · next e he =>
    cases h
    change matcher _ .forward (.seq (.behind (.all [word, gap, .str "("]))
      (.seq (.many headerPiece .longest 1 none) (.ahead (.str ")")))) c [] _ = some e at he
    rw [matcher_seq] at he
    have hopen := open_of_behind (Option.isSome_iff_exists.mpr ⟨e, he⟩)
    have hcalls := sound_calls (insideOf word gap) depth
    obtain ⟨⟨a, caps⟩, ha, he⟩ := reads_of_matcher hcalls he
    obtain rfl : a = c := ha
    rw [matcher_seq] at he
    obtain ⟨⟨b, caps'⟩, hb, he⟩ := reads_of_matcher hcalls he
    obtain ⟨hclose, caps'', he⟩ := close_of_ahead he
    obtain ⟨u, hu, hpieces⟩ := pieces_of_reads hb
    refine ⟨hopen, u, ?_, hpieces, ?_⟩
    all_goals
      split at he
      · cases he
      · cases he
        assumption
  · cases h

theorem inside_ne_nil_of_matchAt (h : (insideOf word gap).matchAt depth moving c = some m) :
    c.after.head? ≠ some ')' := by
  intro hclose
  obtain ⟨before, after, pos⟩ := c
  obtain ⟨after, rfl⟩ := head?_eq_some_iff.mp hclose
  have hnone (calls : Nat → Matcher) (caps : Captures) (k : Continuation) :
      matcher calls .forward parenthesized ⟨before, ')' :: after, pos⟩ caps k = none := rfl
  unfold matchAt at h
  split at h
  · next e he =>
    change matcher _ .forward (.seq (.behind (.all [word, gap, .str "("])) parenthesized) _ [] _ = some e at he
    rw [matcher_seq] at he
    obtain ⟨⟨a, caps⟩, ha, he⟩ := reads_of_matcher (sound_calls (insideOf word gap) depth) he
    obtain rfl : a = _ := ha
    rw [hnone] at he
    cases he
  · cases h

theorem pieces_of_lastInside? {line : Text} (h : lastInside? (insideOf word gap) line = some inside) :
    Pieces inside ∧ inside <:+: line := by
  obtain ⟨m, hm, rfl⟩ := mem_map.mp (mem_of_getLast? h)
  obtain ⟨u, depth, moving, hu, hmatch⟩ := mem_occurrences hm
  obtain ⟨-, v, hv, hpieces, -⟩ := pieces_of_matchAt hmatch
  have htext : m.text = v := hv.upTo
  have hline : line = u ++ (v ++ m.stop.after) := hu.after.trans (by rw [hv.after])
  exact ⟨htext ▸ hpieces, u, m.stop.after, by rw [htext, hline, append_assoc]⟩

theorem matchAt_shallow (depth : Nat) (hs : Shallow inside) (hne : inside ≠ [])
    (hopening : ∀ calls k, matcher calls .forward (.behind (.all [word, gap, .str "("])) c [] k = k c [])
    (hafter : c.after = inside ++ ')' :: back) :
    ∃ c', c.Over inside c' ∧ c'.after = ')' :: back ∧ (insideOf word gap).matchAt depth false c = some ⟨c, c', []⟩ := by
  obtain ⟨c', hover, hc'⟩ := Cursor.exists_over hafter
  refine ⟨c', hover, hc', ?_⟩
  have hlength : 1 ≤ 0 + inside.length := by
    have := length_pos_iff.mpr hne
    omega
  have hroom : inside.length ≤ c.after.length := by
    rw [hafter, length_append]
    omega
  have hclosed : ∀ calls k', matcher calls .forward (.ahead (.str ")")) c' [] k' = k' c' [] := by
    intro calls k'
    obtain ⟨before', after', pos'⟩ := c'
    subst hc'
    rfl
  have hmatcher : matcher (calls (insideOf word gap) depth) .forward (insideOf word gap) c [] (stopAt false c.pos) =
      some ⟨c', []⟩ := by
    show matcher _ .forward (.seq (.behind (.all [word, gap, .str "("]))
      (.seq (.many headerPiece .longest 1 none) (.ahead (.str ")")))) c [] _ = _
    rw [matcher_seq, hopening, matcher_seq, matcher_many,
      manyMatcher_shallow hs hover hc' hroom hlength (by rw [hclosed]; rfl), hclosed]
    rfl
  rw [matchAt, hmatcher]

theorem searchFrom_inside_none (hbefore : c.before.head? ≠ some '(') (hafter : '(' ∉ c.after) :
    (insideOf word gap).searchFrom depth moving c.before c.after c.pos = none := by
  rw [← Option.not_isSome_iff_eq_none]
  intro hsome
  obtain ⟨m, hm⟩ := Option.isSome_iff_exists.mp hsome
  obtain ⟨u, hu, hm, -⟩ := searchFrom_some hm
  have hhead := (pieces_of_matchAt hm).1
  rw [hu.before, head?_append, head?_reverse] at hhead
  rcases Option.or_eq_some_iff.mp hhead with hlast | ⟨-, hhead⟩
  · exact hafter (hu.after ▸ mem_append_left _ (mem_of_getLast? hlast))
  · exact hbefore hhead

theorem lastInside?_of_shallow (hs : Shallow inside) (hne : inside ≠ []) (hfront : '(' ∉ front) (hback : '(' ∉ back)
    (hopening : ∀ calls c k, c.before = '(' :: front.reverse →
      matcher calls .forward (.behind (.all [word, gap, .str "("])) c [] k = k c []) :
    lastInside? (insideOf word gap) (front ++ '(' :: (inside ++ ')' :: back)) = some inside := by
  obtain ⟨line, hline⟩ : ∃ line, line = front ++ '(' :: (inside ++ ')' :: back) := ⟨_, rfl⟩
  rw [← hline]
  obtain ⟨c, hc, hafter⟩ := Cursor.exists_over (c := .start line) (u := front ++ ['('])
    (show line = _ by rw [hline, append_assoc, singleton_append])
  have hbefore : c.before = '(' :: front.reverse := by
    rw [hc.before]
    simp [Cursor.start]
  obtain ⟨c', hover, hc', hmatch⟩ :=
    matchAt_shallow (line.length + 1) hs hne (fun calls k => hopening calls c k hbefore) hafter
  have hfirst : (insideOf word gap).searchFrom (line.length + 1) false [] line 0 = some ⟨c, c', []⟩ := by
    refine searchFrom_of_first (c := .start line) hc (fun u v c₁ huv hv hc₁ => ?_) hmatch
    rw [← Option.not_isSome_iff_eq_none]
    intro hsome
    obtain ⟨m, hm⟩ := Option.isSome_iff_exists.mp hsome
    have hhead := (pieces_of_matchAt hm).1
    rw [hc₁.before, Cursor.start, append_nil, head?_reverse] at hhead
    -- The parenthesis is the last character before the inside, so it does not stand in less than that.
    obtain ⟨v', x, rfl⟩ : ∃ v' x, v = v' ++ [x] := ⟨_, _, (dropLast_concat_getLast hv).symm⟩
    rw [← append_assoc] at huv
    exact hfront ((append_inj' huv rfl).1 ▸ mem_append_left v' (mem_of_getLast? hhead))
  have hlast : (insideOf word gap).searchFrom (line.length + 1) (c'.pos == c.pos) c'.before c'.after c'.pos = none := by
    refine searchFrom_inside_none (fun hhead => ?_) (by simp [hc', hback])
    rw [hover.before, head?_append, head?_reverse] at hhead
    rcases Option.or_eq_some_iff.mp hhead with hlast | ⟨hnone, -⟩
    · exact hs.balanced.getLast?_ne hlast
    · exact hne (getLast?_eq_none_iff.mp hnone)
  have hoccurrences : (insideOf word gap).occurrences line = [⟨c, c', []⟩] := by
    rw [occurrences, matchesFrom]
    simp only [Cursor.start, hfirst]
    rw [matchesFrom]
    simp only [hlast]
  rw [lastInside?, findAll, hoccurrences]
  exact congrArg some hover.upTo

end Geoscript.Script
