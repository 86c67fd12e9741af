import Geoscript.Proofs.Pattern.Enclosed
import Geoscript.Proofs.Script.CallHeader
import Geoscript.Proofs.Script.CountedLoop

/-! Lines that set a variable to an attribute of an object. The attribute is found with the semicolon behind it
(`attributesOf_line`), and on two such lines both are found (`findAll_lines`). -/

namespace Geoscript.Script
open List hiding all count
open Text Pattern
variable {c : Char} {t : Text} {cur : Cursor} {m : Match} {depth : Nat} {moving : Bool}

/-! ### Letters -/

structure IsWord (t : Text) : Prop where
  ne_nil : t ≠ []
  letters : ∀ c ∈ t, c.isAlpha

theorem letter_code (h : c.isAlpha) : c.toNat ∈ range' 65 26 ++ range' 97 26 := by
  simp only [mem_append, mem_range'_1]
  rcases (Bool.or_eq_true _ _).mp h with hupper | hlower
  · have hcode : 65 ≤ c.toNat ∧ c.toNat ≤ 90 := of_decide_eq_true hupper
    exact .inl ⟨hcode.1, Nat.lt_succ_of_le hcode.2⟩
  · obtain ⟨hfirst, hlast⟩ := (Bool.and_eq_true _ _).mp hlower
    have hcode : 97 ≤ c.toNat ∧ c.toNat ≤ 122 := ⟨of_decide_eq_true hfirst, of_decide_eq_true hlast⟩
    exact .inr ⟨hcode.1, Nat.lt_succ_of_le hcode.2⟩

theorem letter_facts (h : c.isAlpha) :
    nameSet.has c ∧ ascii.has c ∧ isSpace c = false ∧ Numeral.plainDigit c = c ∧ c.isDigit = false := by
  have hall := @char_of_code c (fun c => nameSet.has c && ascii.has c && !isSpace c && Numeral.plainDigit c == c &&
    !c.isDigit) true _ (by decide +kernel) (letter_code h)
  simpa [and_assoc] using hall

theorem IsWord.not_mem (h : IsWord t) (hc : c.isAlpha = false) : c ∉ t := fun hmem => by
  rw [h.letters c hmem] at hc
  cases hc

theorem isWord_of_all {d : Char} (h : (d :: t).all Char.isAlpha) : IsWord (d :: t) :=
  ⟨cons_ne_nil d t, all_eq_true.mp h⟩

theorem IsWord.names (h : IsWord t) : ∀ c ∈ t, nameSet.has c := fun c hc =>
  (letter_facts (h.letters c hc)).1

/-- A line that sets a variable to an attribute: all its names are words. -/
structure Access where
  target : Text
  object : Text
  key : Text
  words : IsWord target ∧ IsWord object ∧ IsWord key

namespace Access
variable {x y : Access}

def word (x : Access) : Text :=
  x.object ++ '.' :: x.key

def byKey (x : Access) : Text :=
  x.object ++ '[' :: '"' :: (x.key ++ ['"', ']'])

def lead (x : Access) : Text :=
  x.target ++ [' ', '=', ' ']

def line (x : Access) : Text :=
  x.lead ++ (x.word ++ [';'])

/-- The line with the attribute read by key. -/
def keyedLine (x : Access) : Text :=
  x.lead ++ (x.byKey ++ [';'])

theorem line_eq (x : Access) : x.line = (x.lead ++ x.object) ++ '.' :: (x.key ++ [';']) := by
  simp [line, word]

theorem not_mem_line (x : Access) (hc : c.isAlpha = false) (hsigns : c ∉ [' ', '=', '.', ';']) : c ∉ x.line := by
  simp only [mem_cons, not_mem_nil, or_false, not_or] at hsigns
  simp [line_eq, lead, x.words.1.not_mem hc, x.words.2.1.not_mem hc, x.words.2.2.not_mem hc, hsigns]

theorem dot_not_mem (x : Access) : '.' ∉ x.lead ++ x.object ∧ '.' ∉ x.key ++ [';'] := by
  simp [lead, x.words.1.not_mem (show '.'.isAlpha = false by decide),
    x.words.2.1.not_mem (show '.'.isAlpha = false by decide), x.words.2.2.not_mem (show '.'.isAlpha = false by decide)]

/-! ### What is found on a line -/

theorem head_not_name {d : Char} {rest : Text} (h : nameSet.has d = false) :
    ∀ c ∈ (d :: rest).head?, nameSet.has c = false := by
  simpa using h

theorem matcher_word {calls : Nat → Matcher} {k : Continuation} (hafter : cur.after = x.word ++ [';'])
    (hk : ∀ c', cur.Over x.word c' → c'.after = [';'] → (k c' []).isSome) :
    ∃ c', cur.Over x.word c' ∧ c'.after = [';'] ∧
      matcher calls .forward (.plus nameSet) cur [] (fun c₁ caps₁ => matcher calls .forward (.str ".") c₁ caps₁
        fun c₂ caps₂ => matcher calls .forward (.plus nameSet) c₂ caps₂ k) = k c' [] := by
  have hover : cur.Over x.word ⟨x.key.reverse ++ '.' :: (x.object.reverse ++ cur.before), [';'],
      cur.pos + x.object.length + 1 + x.key.length⟩ := ⟨hafter, by simp [word], by simp [word]; omega⟩
  refine ⟨_, hover, rfl, ?_⟩
  have hkey : matcher calls .forward (.str ".") ⟨x.object.reverse ++ cur.before, '.' :: (x.key ++ [';']),
      cur.pos + x.object.length⟩ [] (fun c₂ caps₂ => matcher calls .forward (.plus nameSet) c₂ caps₂ k) =
      k ⟨x.key.reverse ++ '.' :: (x.object.reverse ++ cur.before), [';'],
        cur.pos + x.object.length + 1 + x.key.length⟩ [] := by
    refine (@lit_of_after _ _ _ _ "." (x.key ++ [';']) rfl).trans ?_
    exact longest_of_after (length_pos_iff.mpr x.words.2.2.ne_nil) x.words.2.2.names (head_not_name rfl) rfl
      (hk _ hover rfl)
  refine (longest_of_after (length_pos_iff.mpr x.words.2.1.ne_nil) x.words.2.1.names (head_not_name rfl) ?_
    ?_).trans hkey
  · simpa [word] using hafter
  · rw [hkey]
    exact hk _ hover rfl

theorem findAll_dotted {q : Pattern} {found : Text}
    (hm : ∀ cur : Cursor, cur.after = x.word ++ [';'] →
      ∃ m, (Pattern.seq (.plus nameSet) (.seq (.str ".") q)).matchAt (x.line.length + 1) false cur = some m ∧
        m.text = found ∧ '.' ∉ m.stop.after) :
    (Pattern.seq (.plus nameSet) (.seq (.str ".") q)).findAll x.line = [found] := by
  have hreads {c₁ : Cursor} {moving : Bool} {m : Match}
      (h : (Pattern.seq (.plus nameSet) (.seq (.str ".") q)).matchAt (x.line.length + 1) moving c₁ = some m) :
      ∃ n r, ' ' ∉ n ∧ c₁.after = n ++ '.' :: r := by
    obtain ⟨-, m₁, ⟨n, -, hset, hn, -⟩, m₂, ⟨hdot, -⟩, -⟩ := reads_of_matchAt h
    exact ⟨n, _, fun hmem => absurd (hset _ hmem) (by decide), hn.after.trans (by rw [hdot.after]; rfl)⟩
  obtain ⟨cur, hover, hafter⟩ := @Cursor.exists_over (.start x.line) x.lead (x.word ++ [';']) rfl
  obtain ⟨m, hmatch, htext, hstop⟩ := hm cur hafter
  rw [findAll, occurrences_eq_singleton hover hmatch, map_singleton, htext]
  · intro v w c₁ hvw hw hc₁
    rw [Option.eq_none_iff_forall_ne_some]
    intro m' hm'
    obtain ⟨n, r, hblank, hafter'⟩ := hreads hm'
    have hcut : n ++ '.' :: r = (w ++ x.object) ++ '.' :: (x.key ++ [';']) := by
      have heq := hc₁.after
      rw [hafter', Cursor.start, line, hvw, append_assoc] at heq
      simpa [word] using (append_cancel_left heq).symm
    have hdot : '.' ∉ w ++ x.object := fun hmem => x.dot_not_mem.1 (by simpa [hvw] using .inr (by simpa using hmem))
    rcases cut_eq_or_behind hdot hcut with ⟨rfl, -⟩ | ⟨mid, -, hmid⟩
    · -- A name that starts before the object has the blank after the equals sign in it.
      obtain ⟨w, d, rfl⟩ := (eq_nil_or_concat' w).resolve_left hw
      have hlead : (x.target ++ [' ', '=']) ++ [' '] = (v ++ w) ++ [d] := by simpa [lead] using hvw
      obtain rfl := (append_singleton_inj.mp hlead).2
      exact hblank (by simp)
    · exact x.dot_not_mem.2 (hmid ▸ mem_append_right mid mem_cons_self)
  · intro v c₁ moving m' hv hm'
    obtain ⟨n, r, -, hafter'⟩ := hreads hm'
    rw [hv.after, hafter'] at hstop
    simp at hstop

theorem findAll_attributeUse (x : Access) : attributeUse.findAll x.line = [x.word] := by
  refine findAll_dotted fun cur hafter => ?_
  obtain ⟨c', hover, hstop, hmatch⟩ := @matcher_word cur x (calls attributeUse (x.line.length + 1))
    (stopAt false cur.pos) hafter fun _ _ _ => rfl
  exact ⟨_, matchAt_of_matcher hmatch, hover.upTo, by simp [hstop]⟩

theorem findAll_attributeUseAndNext (x : Access) : attributeUseAndNext.findAll x.line = [x.word ++ [';']] := by
  refine findAll_dotted fun cur hafter => ?_
  have hnext {c' : Cursor} (h : c'.after = [';']) : matcher (calls attributeUseAndNext (x.line.length + 1)) .forward
      (.one .inLine) c' [] (stopAt false cur.pos) =
      some ⟨⟨';' :: c'.before, [], c'.pos + 1⟩, []⟩ := by
    rw [matcher_one _ _ h]
    rfl
  obtain ⟨c', hover, hstop, hmatch⟩ := @matcher_word cur x (calls attributeUseAndNext (x.line.length + 1))
    (fun c' captures => matcher (calls attributeUseAndNext (x.line.length + 1)) .forward (.one .inLine) c' captures
      (stopAt false cur.pos)) hafter
    fun _ _ h => by rw [hnext h]; rfl
  rw [hnext hstop] at hmatch
  have hover' : cur.Over (x.word ++ [';']) ⟨';' :: c'.before, [], c'.pos + 1⟩ := hover.trans ⟨hstop, rfl, rfl⟩
  exact ⟨_, matchAt_of_matcher hmatch, hover'.upTo, by simp⟩

theorem attributesOf_line (x : Access) : attributesOf x.line = [x.word ++ [';']] := by
  have hplain : without (fun c => c == '[' || c == ']') (x.word ++ [';']) = x.word ++ [';'] := by
    refine filter_eq_self.mpr fun c hc => ?_
    have hline : c ∈ x.line := mem_append_right _ hc
    have hopen : c ≠ '[' := fun h => x.not_mem_line rfl (by decide) (h ▸ hline)
    have hclose : c ≠ ']' := fun h => x.not_mem_line rfl (by decide) (h ▸ hline)
    simp [hopen, hclose]
  simp [attributesOf, findAll_attributeUse, findAll_attributeUseAndNext, hplain]

/-! ### The lines that are looked at -/

theorem ahead_of_some {caps : Captures} {k : Continuation} {calls : Nat → Matcher} {p : Pattern} {e : Ending}
    (h : matcher calls .forward p cur caps (fun c' caps' => some ⟨c', caps'⟩) = some e) :
    matcher calls .forward (.ahead p) cur caps k = k cur e.captures := by
  simp only [ahead, matcher, h, if_true]

theorem notAhead_of_none {caps : Captures} {k : Continuation} {calls : Nat → Matcher} {p : Pattern}
    (h : matcher calls .forward p cur caps (fun c' caps' => some ⟨c', caps'⟩) = none) :
    matcher calls .forward (.notAhead p) cur caps k = k cur caps := by
  simp [notAhead, matcher, h]

theorem one_isSome {caps : Captures} {k : Continuation} {calls : Nat → Matcher} {s : CharSet} {ch : Char} {rest : Text}
    (hafter : cur.after = ch :: rest) (hs : s.has ch)
    (hk : (k ⟨ch :: cur.before, rest, cur.pos + 1⟩ caps).isSome) :
    (matcher calls .forward (.one s) cur caps k).isSome := by
  rw [matcher_one _ _ hafter, if_pos hs]
  exact hk

section
variable {calls' : Nat → Matcher} {caps : Captures} {rest : Text} (hafter : cur.after = x.line ++ rest)
include hafter

theorem attribute_ahead : (matcher calls' .forward (.all [.rest, .one ascii, .plus .nonSpace, .str ".", .one ascii,
    .plus .nonSpace]) cur caps fun c' caps' => some ⟨c', caps'⟩).isSome := by
  have hsolid {t : Text} (ht : IsWord t) : ∀ c ∈ t, CharSet.nonSpace.has c := fun c hc => by
    rw [nonSpace_has, (letter_facts (ht.letters c hc)).2.2.1]
    rfl
  have hstart : ∀ c ∈ x.target ++ [' ', '='], CharSet.inLine.has c := by
    intro c hc
    refine inLine_has fun h => ?_
    subst h
    exact absurd hc (by simp [x.words.1.not_mem (show '\n'.isAlpha = false by decide)])
  obtain ⟨d, key, hkey⟩ := exists_cons_of_ne_nil x.words.2.2.ne_nil
  have hletters := hsolid x.words.2.2
  have hd := (letter_facts (x.words.2.2.letters d (by simp [hkey]))).2.1
  rw [hkey, forall_mem_cons] at hletters
  have hafter' : cur.after = (x.target ++ [' ', '=']) ++ ' ' :: (x.object ++ '.' :: d :: ((key ++ [';']) ++ rest)) := by
    simp [hafter, line, lead, word, hkey]
  simp only [all, matcher_seq]
  refine run_isSome (Nat.zero_le _) hstart hafter' (one_isSome rfl rfl ?_)
  refine run_isSome (length_pos_iff.mpr x.words.2.1.ne_nil) (hsolid x.words.2.1) rfl ?_
  refine @lit_isSome _ _ _ _ "." _ rfl (one_isSome rfl hd ?_)
  refine @run_isSome _ _ _ _ _ 1 (key ++ [';']) rest _ (by simp) (fun c hc => ?_) rfl rfl
  rcases mem_append.mp hc with hc | hc
  · exact hletters.2 c hc
  · rw [mem_singleton.mp hc]
    rfl

theorem no_http_ahead {whole : Pattern} (hhttp : ¬"http" <:+: x.line)
    (hrest : rest.head?.all (· == '\n')) :
    matcher (calls whole depth) .forward (.all [.rest, .str "http"]) cur caps (fun c' caps' => some ⟨c', caps'⟩) =
      none := by
  rw [Option.eq_none_iff_forall_ne_some]
  intro e he
  obtain ⟨b, ⟨d, ⟨u, -, hset, hu, -⟩, hread, -⟩, -⟩ := reads_of_matcher (sound_calls whole depth) he
  have hpre : u ++ "http".toList <+: x.line ++ rest :=
    ⟨b.1.after, by rw [append_assoc, ← hread.after, ← hu.after, hafter]⟩
  have hline : '\n' ∉ u ++ "http" := by
    rw [mem_append, not_or]
    exact ⟨fun h => absurd (hset _ h) (by decide), by decide⟩
  have hinside : u ++ "http".toList <+: x.line := by
    cases rest with
    | nil => simpa using hpre
    | cons d rest =>
      obtain rfl : d = '\n' := by simpa using hrest
      exact prefix_of_prefix_append_cons hline hpre
  exact hhttp ((suffix_append u _).isInfix.trans hinside.isInfix)

theorem matchAt_attributeLine (hhttp : ¬"http" <:+: x.line) (hrest : rest.head?.all (· == '\n'))
    (hstart : cur.before.head?.all (· == '\n')) :
    ∃ m, attributeLine.matchAt depth false cur = some m ∧ m.text = x.line ∧ cur.Over x.line m.stop := by
  have hover : cur.Over x.line ⟨x.line.reverse ++ cur.before, rest, cur.pos + x.line.length⟩ := ⟨hafter, rfl, rfl⟩
  obtain ⟨e, he⟩ := Option.isSome_iff_exists.mp (@attribute_ahead cur x (calls attributeLine depth) [] rest hafter)
  have hset : ∀ c ∈ x.line, CharSet.inLine.has c := fun c hc => inLine_has fun h =>
    x.not_mem_line (show '\n'.isAlpha = false by decide) (by decide) (h ▸ hc)
  have hnext : ∀ c ∈ rest.head?, CharSet.inLine.has c = false := fun c hc => by
    rw [Option.mem_def.mp hc] at hrest
    obtain rfl : c = '\n' := by simpa using hrest
    rfl
  have hmatch : matcher (calls attributeLine depth) .forward attributeLine cur [] (stopAt false cur.pos) =
      some ⟨⟨x.line.reverse ++ cur.before, rest, cur.pos + x.line.length⟩, e.captures⟩ := by
    have hline : matcher (calls attributeLine depth) .forward (.all [.rest, .lineEnd]) cur e.captures
        (stopAt false cur.pos) = some ⟨⟨x.line.reverse ++ cur.before, rest, cur.pos + x.line.length⟩, e.captures⟩ := by
      have hend : matcher (calls attributeLine depth) .forward .lineEnd
          ⟨x.line.reverse ++ cur.before, rest, cur.pos + x.line.length⟩ e.captures (stopAt false cur.pos) =
            some ⟨_, e.captures⟩ := if_pos hrest
      exact (@longest_of_after _ _ _ (calls attributeLine depth) _ 0 _ _ (Nat.zero_le _) hset hnext hafter
        (congrArg _ hend)).trans hend
    refine (if_pos hstart).trans ?_
    simp only [all, matcher_seq] at he hline ⊢
    rw [ahead_of_some he, notAhead_of_none, hline]
    exact no_http_ahead hafter hhttp hrest
  exact ⟨_, matchAt_of_matcher hmatch, hover.upTo, hover⟩

end

theorem getLast_line (x : Access) (t : Text) : (x.line.reverse ++ t).head? = some ';' := by
  simp [line]

theorem not_matchAt_behind {c' : Cursor} (h : cur.Over x.line c') : attributeLine.matchAt depth moving c' = none := by
  rw [Option.eq_none_iff_forall_ne_some]
  intro m hm
  obtain ⟨-, m₁, ⟨-, hstart⟩, -⟩ := reads_of_matchAt hm
  have hbefore : c'.before.head? = some ';' := h.before ▸ x.getLast_line _
  rw [hbefore] at hstart
  cases hstart

theorem findAll_lines (hx : ¬"http" <:+: x.line) (hy : ¬"http" <:+: y.line) :
    attributeLine.findAll (x.line ++ '\n' :: y.line) = [x.line, y.line] := by
  obtain ⟨m, hm, htext, hover⟩ := @matchAt_attributeLine (.start (x.line ++ '\n' :: y.line))
    ((x.line ++ '\n' :: y.line).length + 1) x ('\n' :: y.line) rfl hx rfl rfl
  have hstop : m.stop.after = '\n' :: y.line := append_cancel_left hover.after.symm
  obtain ⟨m', hm', htext', hover'⟩ := @matchAt_attributeLine ⟨'\n' :: m.stop.before, y.line, m.stop.pos + 1⟩
    ((x.line ++ '\n' :: y.line).length + 1) y [] (by simp) hy rfl rfl
  have hnext : m.stop.Over ['\n'] ⟨'\n' :: m.stop.before, y.line, m.stop.pos + 1⟩ := ⟨hstop, rfl, rfl⟩
  have hfirst := @searchFrom_of_first _ _ false (.start (x.line ++ '\n' :: y.line)) _ _ [] (.refl _)
    (fun v w _ hvw hw => absurd (append_eq_nil_iff.mp hvw.symm).2 hw) hm
  have hbetween (v w : Text) (c₁ : Cursor) (hvw : ['\n'] = v ++ w) (hw : w ≠ []) (hc₁ : m.stop.Over v c₁) :
      attributeLine.matchAt ((x.line ++ '\n' :: y.line).length + 1) ((m.stop.pos == m.start.pos) && v.isEmpty) c₁ =
        none := by
    cases v with
    | nil =>
      rw [hc₁.eq_of_nil]
      exact not_matchAt_behind hover
    | cons d v => exact absurd (append_eq_nil_iff.mp (cons.inj hvw).2.symm).2 hw
  have hsecond := searchFrom_of_first hnext hbetween (by rwa [isEmpty_cons, Bool.and_false])
  rw [findAll, occurrences, matchesFrom, hfirst]
  simp only
  rw [matchesFrom, hsecond]
  simp only [map_cons, htext, htext', cons.injEq, true_and, map_eq_nil_iff]
  refine eq_nil_iff_forall_not_mem.mpr fun m₂ hm₂ => ?_
  obtain ⟨u, moving, hu, hmatch⟩ := mem_matchesFrom hm₂
  have hstop' : m'.stop.after = [] := by simpa using hover'.after
  have hend := hu.after
  rw [hstop'] at hend
  obtain ⟨rfl, -⟩ := append_eq_nil_iff.mp hend.symm
  rw [hu.eq_of_nil, not_matchAt_behind hover'] at hmatch
  cases hmatch

end Access

end Geoscript.Script
