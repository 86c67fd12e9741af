import Geoscript.Proofs.Script.Unquoted

/-! String literals between gaps without quotes and backslashes. Replacing outside of quotes keeps a literal if a gap
stands before it and it does not escape its own quote, and no other one. -/

namespace Geoscript.Script
open List Text
variable {pairs : List (Text × Text)} {c : Char}

/-- A sign of a string literal: a character, or a character with a backslash before it. -/
inductive Sign
  | plain (c : Char)
  | escape (c : Char)
  deriving DecidableEq

def Sign.text : Sign → Text
  | .plain c => [c]
  | .escape c => ['\\', c]

/-- A string literal. The quote and the backslash stand in it as escapes only. -/
structure StringLiteral where
  quote : Char
  signs : List Sign
  isQuote : quote = '\'' ∨ quote = '"'
  plain_ne : ∀ c, .plain c ∈ signs → c ≠ quote ∧ c ≠ '\\'

def StringLiteral.text (l : StringLiteral) : Text :=
  l.quote :: (l.signs.flatMap Sign.text ++ [l.quote])

abbrev Gap := { t : Text // ∀ c ∈ t, Markless c }

/-- Literals with a gap before each of them and a last gap, where `f` is what becomes of a gap. -/
def literalText (f : Text → Text) (parts : List (Gap × StringLiteral)) (last : Gap) : Text :=
  weave (parts.map fun part => (f part.1.val, part.2.text)) (f last.val)

theorem literalText_cons (f : Text → Text) (gap : Gap) (l : StringLiteral) (parts : List (Gap × StringLiteral))
    (last : Gap) : literalText f ((gap, l) :: parts) last = f gap.val ++ (l.text ++ literalText f parts last) := by
  simp [literalText, weave]

/-! ### The first character -/

theorem exists_head_replaced (c : Char) (t : Text) : ∃ pairs, ∀ u, replaceUnquoted pairs (c :: t) ≠ c :: u := by
  obtain ⟨d, hd⟩ : ∃ d : Char, d ≠ c := by
    by_cases hc : c = 'a'
    · exact ⟨'b', by simp [hc]⟩
    · exact ⟨'a', Ne.symm hc⟩
  refine ⟨[([c], [d])], fun u hu => ?_⟩
  have hstart {a v w : Text} (h : a ≠ []) (ha : a ++ v = c :: t) : replaceMany [([c], [d])] a ++ w ≠ c :: u := by
    obtain ⟨e, a, rfl⟩ := exists_cons_of_ne_nil h
    obtain rfl : e = c := (cons.inj ha).1
    rw [replaceMany_single, replace_cons_self]
    exact fun h => hd (cons.inj h).1
  generalize hx : c :: t = x at hu
  cases x using unquoted_induction with
  | free x hopen =>
    rw [replaceUnquoted_free hopen, ← append_nil (replaceMany _ x)] at hu
    exact hstart (by simp [← hx]) (by rw [append_nil, hx]) hu
  | unclosed before mark rest hopen hclose =>
    rw [replaceUnquoted_unclosed hopen hclose] at hu
    exact hstart hopen.before_ne_nil hx.symm hu
  | closed before mark inner rest hopen hclose =>
    rw [replaceUnquoted_closed hopen hclose, append_assoc] at hu
    exact hstart hopen.before_ne_nil hx.symm hu

/-! ### One literal -/

theorem not_mem_of_not_escaped {signs : List Sign} (hc : c ≠ '\\') (hplain : .plain c ∉ signs) (hescape : .escape c ∉ signs) :
    c ∉ signs.flatMap Sign.text := by
  rw [mem_flatMap]
  rintro ⟨sign, hsign, hmem⟩
  cases sign with
  | plain d =>
    rw [mem_singleton.mp hmem] at hplain
    exact hplain hsign
  | escape d =>
    rcases mem_pair.mp hmem with h | h
    · exact hc h
    · exact hescape (h ▸ hsign)

theorem StringLiteral.quote_ne (l : StringLiteral) : l.quote ≠ '\\' := by
  rcases l.isQuote with h | h <;> simp [h]

theorem StringLiteral.plain_not_mem (l : StringLiteral) : .plain l.quote ∉ l.signs :=
  fun h => (l.plain_ne _ h).1 rfl

theorem replaceUnquoted_literal {gap : Gap} {l : StringLiteral} (hgap : gap.val ≠ [])
    (hescape : .escape l.quote ∉ l.signs) (rest : Text) :
    replaceUnquoted pairs (gap.val ++ (l.text ++ rest)) =
      replaceMany pairs gap.val ++ (l.text ++ replaceUnquoted pairs rest) := by
  have hkept := @replaceUnquoted_quoted pairs gap.val (l.signs.flatMap Sign.text) l.quote l.isQuote hgap gap.property
    (not_mem_of_not_escaped l.quote_ne l.plain_not_mem hescape) rest
  simpa [StringLiteral.text] using hkept

/-- What follows the first escape of its own quote in a literal is not quoted, so it can be replaced. -/
theorem exists_literal_replaced {gap : Gap} {l : StringLiteral} (hgap : gap.val ≠ [])
    (hescape : .escape l.quote ∈ l.signs) (rest : Text) : ∃ pairs, ∀ u,
      replaceUnquoted pairs (gap.val ++ (l.text ++ rest)) ≠ replaceMany pairs gap.val ++ (l.text ++ u) := by
  obtain ⟨front, back, hsigns, hfront⟩ := eq_append_cons_of_mem hescape
  have hplain : .plain l.quote ∉ front := fun h => l.plain_not_mem (hsigns ▸ mem_append_left _ h)
  have hinner : l.quote ∉ front.flatMap Sign.text ++ ['\\'] := by
    rw [mem_append, mem_singleton, not_or]
    exact ⟨not_mem_of_not_escaped l.quote_ne hplain hfront, l.quote_ne⟩
  obtain ⟨c, t, hback⟩ : ∃ c t, back.flatMap Sign.text ++ [l.quote] = c :: t :=
    exists_cons_of_ne_nil (by simp)
  have htext (u : Text) : l.text ++ u =
      l.quote :: ((front.flatMap Sign.text ++ ['\\']) ++ l.quote :: (c :: (t ++ u))) := by
    have hcons : c :: (t ++ u) = back.flatMap Sign.text ++ l.quote :: u := by
      rw [← cons_append, ← hback, append_assoc, singleton_append]
    rw [hcons, StringLiteral.text, hsigns]
    simp [Sign.text]
  obtain ⟨pairs, hpairs⟩ := exists_head_replaced c (t ++ rest)
  refine ⟨pairs, fun u hu => hpairs (t ++ u) ?_⟩
  rw [htext, htext, replaceUnquoted_quoted l.isQuote hgap gap.property hinner] at hu
  simpa using hu

/-! ### All literals -/

/-- All replacements keep the literals of a text and are made in all its gaps, if and only if before each literal there
is a gap that is not empty and no literal escapes its own quote. -/
theorem literals_kept_iff (parts : List (Gap × StringLiteral)) (last : Gap) :
    (∀ pairs, replaceUnquoted pairs (literalText id parts last) = literalText (replaceMany pairs) parts last) ↔
      ∀ part ∈ parts, part.1.val ≠ [] ∧ .escape part.2.quote ∉ part.2.signs := by
  induction parts with
  | nil =>
    have hlast : opening? last.val = none :=
      opening?_eq_none_of_not_mem (fun h => (last.property _ h).1 rfl) fun h => (last.property _ h).2.1 rfl
    exact iff_of_true (fun pairs => replaceUnquoted_free hlast) (by simp)
  | cons part parts ih =>
    obtain ⟨gap, l⟩ := part
    simp only [literalText_cons, id, forall_mem_cons]
    by_cases hgap : gap.val = []
    · refine iff_of_false (fun h => ?_) fun h => h.1.1 hgap
      obtain ⟨pairs, hpairs⟩ := exists_head_replaced l.quote (l.signs.flatMap Sign.text ++ [l.quote] ++
        literalText id parts last)
      refine hpairs (l.signs.flatMap Sign.text ++ [l.quote] ++ literalText (replaceMany pairs) parts last) ?_
      simpa [hgap, StringLiteral.text, replaceMany] using h pairs
    by_cases hescape : .escape l.quote ∈ l.signs
    · refine iff_of_false (fun h => ?_) fun h => h.1.2 hescape
      obtain ⟨pairs, hpairs⟩ := exists_literal_replaced hgap hescape (literalText id parts last)
      exact hpairs _ (h pairs)
    · rw [← ih]
      simp only [replaceUnquoted_literal hgap hescape, append_cancel_left_eq]
      exact (and_iff_right ⟨hgap, hescape⟩).symm

theorem literal_kept_behind_gap_only : (∃ parts last, literalText id parts last = "f('a+\\\"b')+1" ∧
      ∀ pairs, replaceUnquoted pairs (literalText id parts last) = literalText (replaceMany pairs) parts last) ∧
    (∃ parts last, literalText id parts last = "'a+b'" ∧
      ¬∀ pairs, replaceUnquoted pairs (literalText id parts last) = literalText (replaceMany pairs) parts last) ∧
    replaceUnquoted [(['+'], "|plus|")] "'a+b'" = "'a|plus|b'" := by
  refine ⟨⟨[(⟨['f', '('], ?_⟩, ⟨'\'', [.plain 'a', .plain '+', .escape '"', .plain 'b'], ?_, ?_⟩)],
      ⟨[')', '+', '1'], ?_⟩, rfl, (literals_kept_iff _ _).mpr ?_⟩,
    ⟨[(⟨[], ?_⟩, ⟨'\'', [.plain 'a', .plain '+', .plain 'b'], ?_, ?_⟩)], ⟨[], ?_⟩, rfl, fun h => ?_⟩, rfl⟩
  any_goals simp [Markless]
  exact ((literals_kept_iff _ _).mp h _ mem_cons_self).1 rfl

end Geoscript.Script
