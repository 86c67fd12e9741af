import Mathlib.Data.List.Nodup
import Geoscript.Proofs.Pattern.Enclosed
import Geoscript.Proofs.Script.CallHeader
import Geoscript.Proofs.Script.CountedLoop
import Geoscript.Proofs.Text.Growth

/-! Quoting the keys of an object. Its entries are replaced one after the other wherever they occur
(`quoteKeys_braced`). Braces and commas keep them apart, so what is left is what the replacements do to a single entry
(`quoteKeys_eq_iff`). -/

namespace Geoscript
open List hiding all

namespace Text
variable {p n z p' n' z' : Text} {c : Char}

theorem between_eq (hp : c ∉ p) (hn : c ∉ n) (hz : c ∉ z)
    (h : p' ++ c :: (n' ++ c :: z') <:+: p ++ c :: (n ++ c :: z)) : n' = n := by
  obtain ⟨a, b, h⟩ := h
  have hcut : (a ++ p') ++ c :: (n' ++ c :: (z' ++ b)) = p ++ c :: (n ++ c :: z) := by simpa using h
  rcases cut_eq_or_behind hp hcut with ⟨-, hcut'⟩ | ⟨mid, -, hcut'⟩
  · rcases cut_eq_or_behind hn hcut' with ⟨heq, -⟩ | ⟨mid, -, hmid⟩
    · exact heq
    · exact absurd (by simp [hmid]) hz
  · rcases cut_eq_or_behind hn hcut'.symm with ⟨-, hmid⟩ | ⟨mid', -, hmid⟩
    · exact absurd (by simp [← hmid]) hz
    · exact absurd (by simp [hmid]) hz

/-- A piece that starts with the first of two blanks and goes over the `c` before the second one. -/
theorem eq_of_infix_blank (hblank : ' ' ∉ n) (hn : c ∉ ' ' :: n) (hz : c ∉ z)
    (h : ' ' :: (n' ++ c :: z') <:+: ' ' :: (n ++ c :: z)) : n' = n := by
  obtain ⟨hsuffix, -⟩ := (@infix_around_iff c (' ' :: n') z' (' ' :: n) z hn hz).mp h
  rcases suffix_cons_iff.mp hsuffix with heq | hsuffix
  · exact (cons.inj heq).2
  · exact absurd (hsuffix.subset mem_cons_self) hblank

end Text

namespace Script
open Pattern
open Text hiding count
variable {c : Char} {t x y : Text}

/-! ### One entry -/

theorem matchAt_keyValue {depth : Nat} (hcolon : ':' ∉ x) (hx : '\n' ∉ x) (hy : '\n' ∉ y) :
    ∃ m, keyValue.matchAt depth false (.start (x ++ ':' :: y)) = some m ∧ m.group 1 = x ∧ m.group 2 = y ∧
      m.stop.after = [] := by
  have hmatch : matcher (calls keyValue depth) .forward keyValue (.start (x ++ ':' :: y)) [] (stopAt false 0) =
      some ⟨⟨y.reverse ++ (':' :: x.reverse), [], x.length + 1 + y.length⟩,
        [(2, ⟨⟨':' :: x.reverse, y, x.length + 1⟩, x.length + 1 + y.length⟩),
          (1, ⟨.start (x ++ ':' :: y), x.length⟩)]⟩ := by
    refine (matcher_seq _ (.group 1 .restFew) _).trans ?_
    rw [matcher_group, restFew, starFew, matcher_shortest]
    simp only [Nat.not_lt_zero, if_false, all, Cursor.start]
    have hvalue : ∀ caps : Captures, matcher (calls keyValue depth) .forward (.seq (.str ":") (.group 2 .rest))
        ⟨x.reverse ++ [], ':' :: y, 0 + (0 + x.length)⟩ caps (stopAt false 0) =
        some ⟨⟨y.reverse ++ (':' :: x.reverse), [], x.length + 1 + y.length⟩,
          (2, ⟨⟨':' :: x.reverse, y, x.length + 1⟩, x.length + 1 + y.length⟩) :: caps⟩ := by
      intro caps
      rw [matcher_seq, str, @lit_of_after _ _ _ _ ":" y rfl, matcher_group, Pattern.rest, Pattern.star,
        @longest_of_after _ _ _ _ _ 0 y [] (Nat.zero_le _) (inLine_of_not_mem hy) (by simp) (by simp)]
      · simp
      · simp
    rw [runShortest_eq (inLine_of_not_mem hx)]
    · rw [hvalue]
      simp
    · intro v w hvw hw
      obtain ⟨d, w, rfl⟩ := exists_cons_of_ne_nil hw
      have hd : ':' ≠ d := fun heq => hcolon (by simp [hvw, ← heq])
      rw [matcher_seq, str, matcher_lit, if_neg]
      simp [hd]
    · rw [hvalue]
      rfl
  rw [matchAt]
  simp only [Cursor.start] at hmatch ⊢
  rw [hmatch]
  refine ⟨_, rfl, ?_, ?_, rfl⟩
  · simp [Match.group, Span.text, Cursor.upTo, lookup_cons]
  · simp [Match.group, Span.text, Cursor.upTo]

theorem occurrences_entry (hcolon : ':' ∉ x) (hx : '\n' ∉ x) (hy : '\n' ∉ y) :
    ∃ m, keyValue.occurrences (x ++ ':' :: y) = [m] ∧ m.group 1 = x ∧ m.group 2 = y := by
  obtain ⟨m, hm, hkey, hvalue, hstop⟩ := @matchAt_keyValue x y ((x ++ ':' :: y).length + 1) hcolon hx hy
  refine ⟨m, occurrences_eq_singleton (.refl _) hm (fun v w _ hvw hw => ?_) ?_, hkey, hvalue⟩
  · exact absurd (append_eq_nil_iff.mp hvw.symm).2 hw
  · -- Behind the match no colon is left.
    intro v c' moving m' hv hm'
    obtain ⟨-, d, ⟨_, ⟨n, -, -, hn, -⟩, -⟩, e, ⟨hread, -⟩, -⟩ := reads_of_matchAt hm'
    have hmem : ':' ∈ m.stop.after := by
      rw [hv.after, hn.after, hread.after]
      simp
    rw [hstop] at hmem
    cases hmem

def bareKey (key : Text) : Text :=
  without (fun c => c == '"' || c == '\'' || c == ' ') key

/-- The replacement for an entry: what is before its first colon is put in quotes. -/
def quoteRule (t : Text) : Text × Text :=
  (t, '\'' :: (bareKey (t.takeWhile (· != ':')) ++ '\'' :: t.dropWhile (· != ':')))

theorem quoteRule_eq (h : ':' ∉ x) (y : Text) :
    quoteRule (x ++ ':' :: y) = (x ++ ':' :: y, '\'' :: (bareKey x ++ '\'' :: ':' :: y)) := by
  have hx : ∀ c ∈ x, (c != ':') := fun c hc => bne_iff_ne.mpr fun heq => h (heq ▸ hc)
  simp [quoteRule, takeWhile_append_of_pos hx, dropWhile_append_of_pos hx]

theorem count_quote_quoted (x y : Text) : count '\'' ('\'' :: (bareKey x ++ '\'' :: y)) = count '\'' y + 2 := by
  have hbare : '\'' ∉ bareKey x := by simp [bareKey, without]
  simp [count_eq_zero.mpr hbare]

theorem count_blank_quoted (x y : Text) : count ' ' ('\'' :: (bareKey x ++ '\'' :: y)) = count ' ' y := by
  have hbare : ' ' ∉ bareKey x := by simp [bareKey, without]
  simp [count_eq_zero.mpr hbare]

theorem mem_quoteRule (h : c ∈ (quoteRule t).2) : c ∈ t ∨ c = '\'' := by
  simp only [quoteRule, mem_cons, mem_append] at h
  rcases h with h | h | h | h
  · exact .inr h
  · exact .inl ((takeWhile_sublist _).subset (mem_of_mem_filter h))
  · exact .inr h
  · exact .inl ((dropWhile_sublist _).subset h)

theorem foldl_quoteKey {items : List Text} (hcolon : ∀ i ∈ items, ':' ∈ i) (hline : ∀ i ∈ items, '\n' ∉ i) (t : Text) :
    items.foldl (fun t entry => (keyValue.occurrences entry).foldl quoteKey t) t =
      replaceEach (items.map quoteRule) t := by
  induction items generalizing t with
  | nil => rfl
  | cons item items ih =>
    rw [forall_mem_cons] at hcolon hline
    obtain ⟨x, y, rfl, hx⟩ := eq_append_cons_of_mem hcolon.1
    have hline' := hline.1
    simp only [mem_append, mem_cons, not_or] at hline'
    obtain ⟨m, hm, hkey, hvalue⟩ := occurrences_entry hx hline'.1 hline'.2.2
    have hstep : quoteKey t m = replace (quoteRule (x ++ ':' :: y)).1 (quoteRule (x ++ ':' :: y)).2 t := by
      simp [quoteKey, hkey, hvalue, quoteRule_eq hx, bareKey]
    rw [foldl_cons, hm, foldl_cons, foldl_nil, hstep, map_cons, replaceEach_cons, ih hcolon.2 hline.2]

/-- Texts in braces, with commas between them. -/
def braced (items : List Text) : Text :=
  '{' :: (join [','] items ++ ['}'])

theorem quoteKeys_braced {items : List Text} (hne : items ≠ []) (hcolon : ∀ i ∈ items, ':' ∈ i)
    (hplain : ∀ i ∈ items, ∀ c ∈ [',', '{', '}', '\n'], c ∉ i) :
    quoteKeys (braced items) = replaceEach (items.map quoteRule) (braced items) := by
  have hinner : ∀ c ∈ ['{', '}'], c ∉ join [','] items := by
    intro c hc hmem
    rcases mem_join hmem with h | ⟨i, hi, h⟩
    · obtain rfl := mem_singleton.mp h
      exact absurd hc (by decide)
    · refine hplain i hi c ?_ h
      rcases mem_pair.mp hc with rfl | rfl <;> decide
  obtain ⟨m, hm, hgroup⟩ := @occurrences_enclosed [] ['{'] ['}'] (join [','] items) [] (by simp)
    (before_singleton (by simp)) (before_singleton (hinner '}' (by decide))) (by simp)
  have hocc : objectLiteral.occurrences (braced items) = [m] := hm
  rw [quoteKeys, hocc, foldl_cons, foldl_nil, hgroup, fields_join hne fun i hi => hplain i hi ',' (by decide),
    foldl_quoteKey hcolon fun i hi => hplain i hi '\n' (by decide)]

theorem replaceEach_braced {pairs : List (Text × Text)} (hold : ∀ r ∈ pairs, r.1 ≠ [])
    (hplain : ∀ r ∈ pairs, ∀ c ∈ [',', '{', '}'], c ∉ r.1) (items : List Text) :
    replaceEach pairs (braced items) = braced (items.map (replaceEach pairs)) := by
  have hat (c : Char) (hc : c ∈ [',', '{', '}']) : ∀ r ∈ pairs, r.1 ≠ [] ∧ c ∉ r.1 :=
    fun r hr => ⟨hold r hr, hplain r hr c hc⟩
  have hnil : replaceEach pairs [] = [] :=
    replaceEach_of_not_occurs hold fun r hr hocc => hold r hr (infix_nil.mp hocc)
  have hopen := replaceEach_append_cons (hat '{' (by decide)) [] (join [','] items ++ ['}'])
  rw [nil_append, replaceEach_append_cons (hat '}' (by decide)), hnil, replaceEach_join (hat ',' (by decide))] at hopen
  exact hopen

theorem braced_inj {items items' : List Text} (hne : items ≠ []) (hne' : items' ≠ [])
    (h : ∀ i ∈ items, ',' ∉ i) (h' : ∀ i ∈ items', ',' ∉ i) (heq : braced items = braced items') : items = items' := by
  have hjoin : join [','] items = join [','] items' := append_cancel_right (cons.inj heq).2
  rw [← fields_join hne h, hjoin, fields_join hne' h']

/-! ### Objects with numbers -/

/-- An entry of an object: a key, bare or in single quotes, and a whole number. A bare key is a name of any kind; in
quotes there is anything on a line but a quote, a comma or a brace. -/
structure Entry where
  name : Text
  quoted : Bool
  value : Int
  plain : ∀ c ∈ ['\'', '"', ',', '{', '}', '\n'], c ∉ name
  bare : quoted = false → name ≠ [] ∧ ' ' ∉ name ∧ ':' ∉ name

namespace Entry
variable {e f : Entry}

def key (e : Entry) : Text :=
  if e.quoted then '\'' :: (e.name ++ ['\'']) else e.name

def written (e : Entry) : Text :=
  e.key ++ ':' :: ' ' :: decimal e.value

def inQuotes (e : Entry) : Text :=
  '\'' :: (e.name ++ '\'' :: ':' :: ' ' :: decimal e.value)

theorem key_of_bare (h : e.quoted = false) : e.key = e.name := by
  simp [key, h]

theorem key_of_quoted (h : e.quoted) : e.key = '\'' :: (e.name ++ ['\'']) := by
  simp [key, h]

theorem quoted_of_mem (h : c ∈ e.name) (hc : c = ' ' ∨ c = ':') : e.quoted := by
  rw [← Bool.not_eq_false]
  intro hbare
  rcases hc with rfl | rfl
  · exact (e.bare hbare).2.1 h
  · exact (e.bare hbare).2.2 h

theorem mem_key (h : c ∈ e.key) : c ∈ e.name ∨ c = '\'' := by
  unfold key at h
  split at h
  · simpa [or_comm, or_assoc] using h
  · exact .inl h

theorem not_mem_value (e : Entry) (h : c ∈ ['\'', ' ', ':', ',', '{', '}', '\n']) : c ∉ decimal e.value := by
  have hall : ['\'', ' ', ':', ',', '{', '}', '\n'].all (fun c => !c.isDigit && c != '-') := by decide
  have hc := all_eq_true.mp hall c h
  rw [Bool.and_eq_true, Bool.not_eq_true', bne_iff_ne] at hc
  exact not_mem_decimal hc.1 hc.2

theorem not_mem_key (h : ' ' ∉ e.name ∧ ':' ∉ e.name) : ' ' ∉ e.key ∧ ':' ∉ e.key :=
  ⟨fun hmem => (mem_key hmem).elim h.1 (by decide), fun hmem => (mem_key hmem).elim h.2 (by decide)⟩

theorem colon_not_mem_value (e : Entry) : ':' ∉ ' ' :: decimal e.value := by
  simp [e.not_mem_value (show ':' ∈ _ by decide)]

theorem quote_not_mem (e : Entry) : '\'' ∉ e.name ∧ '\'' ∉ decimal e.value :=
  ⟨e.plain _ (by decide), e.not_mem_value (by decide)⟩

theorem count_quote_inQuotes (e : Entry) : count '\'' e.inQuotes = 2 := by
  simp [inQuotes, count_eq_zero.mpr e.quote_not_mem.1, count_eq_zero.mpr e.quote_not_mem.2]

theorem count_blank_inQuotes (e : Entry) : count ' ' e.inQuotes = count ' ' e.name + 1 := by
  simp [inQuotes, count_eq_zero.mpr (e.not_mem_value (show ' ' ∈ _ by decide))]

theorem comma_not_mem_inQuotes (e : Entry) : ',' ∉ e.inQuotes := by
  simp [inQuotes, e.plain ',' (by decide), e.not_mem_value (show ',' ∈ _ by decide)]

theorem quoted_of_suffix {a : Text} (he : e.quoted) (h : f.key <:+ a ++ e.key) : f.quoted := by
  rw [← Bool.not_eq_false]
  intro hf
  rw [key_of_quoted he, key_of_bare hf] at h
  obtain ⟨n, d, hn⟩ := (eq_nil_or_concat' f.name).resolve_left (f.bare hf).1
  obtain ⟨x, hx⟩ := h
  rw [hn, ← append_assoc, ← cons_append, ← append_assoc] at hx
  obtain rfl : d = '\'' := (append_singleton_inj.mp hx).2
  exact absurd (by simp [hn]) f.quote_not_mem.1

theorem eq_or_bare_of_suffix (h : f.key <:+ e.key) : f.key = e.key ∨ f.quoted = false ∧ e.quoted = false := by
  cases he : e.quoted with
  | false =>
    refine .inr ⟨?_, rfl⟩
    rw [← Bool.not_eq_true]
    intro hf
    rw [key_of_bare he, key_of_quoted hf] at h
    exact e.quote_not_mem.1 (h.subset mem_cons_self)
  | true =>
    have hf : f.quoted := @quoted_of_suffix e f [] he h
    rw [key_of_quoted he, key_of_quoted hf] at h ⊢
    have hname : f.name = e.name :=
      @between_eq [] e.name [] [] f.name [] '\'' (by simp) e.quote_not_mem.1 (by simp) h.isInfix
    exact .inl (by rw [hname])

end Entry

def objectText (es : List Entry) : Text :=
  '{' :: (join ", " (es.map Entry.written) ++ ['}'])

/-! ### The places of the entries -/

/-- An entry and the blanks that stand before it. -/
structure Slot where
  lead : Text
  entry : Entry
  blanks : ∀ c ∈ lead, c = ' '

namespace Slot
variable {s s' : Slot}

def first (e : Entry) : Slot := ⟨[], e, by simp⟩

def later (e : Entry) : Slot := ⟨[' '], e, by simp⟩

def text (s : Slot) : Text :=
  s.lead ++ s.entry.written

theorem text_eq (s : Slot) : s.text = (s.lead ++ s.entry.key) ++ ':' :: ' ' :: decimal s.entry.value := by
  simp [text, Entry.written]

theorem text_of_quoted (h : s.entry.quoted) :
    s.text = s.lead ++ '\'' :: (s.entry.name ++ '\'' :: ':' :: ' ' :: decimal s.entry.value) := by
  simp [text_eq, Entry.key_of_quoted h]

theorem not_mem_lead (s : Slot) (h : c ≠ ' ') : c ∉ s.lead := fun hmem =>
  h (s.blanks c hmem)

theorem not_mem_text (s : Slot) (h : c ∈ [',', '{', '}', '\n']) : c ∉ s.text := by
  have hother (d : Char) (hd : d ∉ [',', '{', '}', '\n']) : c ≠ d := fun heq => hd (heq ▸ h)
  have hblank := hother ' ' (by decide)
  have hcolon := hother ':' (by decide)
  have hquote := hother '\'' (by decide)
  have hname : c ∉ s.entry.name := s.entry.plain c (mem_cons_of_mem _ (mem_cons_of_mem _ h))
  have hvalue : c ∉ decimal s.entry.value :=
    s.entry.not_mem_value (mem_cons_of_mem _ (mem_cons_of_mem _ (mem_cons_of_mem _ h)))
  have hkey : c ∉ s.entry.key := fun hmem => (Entry.mem_key hmem).elim hname hquote
  simp [text_eq, s.not_mem_lead hblank, hkey, hcolon, hblank, hvalue]

theorem colon_mem_text (s : Slot) : ':' ∈ s.text := by
  simp [text_eq]

theorem text_ne_nil (s : Slot) : s.text ≠ [] :=
  ne_nil_of_mem s.colon_mem_text

theorem colon_not_mem (s : Slot) (h : ':' ∉ s.entry.name) : ':' ∉ s.lead ++ s.entry.key := by
  simp only [mem_append, not_or]
  exact ⟨s.not_mem_lead (by decide), fun hmem => (Entry.mem_key hmem).elim h (by decide)⟩

theorem count_quote_text (h : s.entry.quoted) : count '\'' s.text = 2 := by
  rw [text_of_quoted h]
  simp [count_eq_zero.mpr (s.not_mem_lead (show '\'' ≠ ' ' by decide)),
    count_eq_zero.mpr s.entry.quote_not_mem.1, count_eq_zero.mpr s.entry.quote_not_mem.2]

/-- Quoting never takes quotes away, and adds some unless the key is quoted and without a colon. -/
theorem count_quote_quoteRule (s : Slot) : count '\'' s.text < count '\'' (quoteRule s.text).2 ∨
      count '\'' s.text = count '\'' (quoteRule s.text).2 ∧ s.entry.quoted ∧ ':' ∉ s.entry.name := by
  have hlead : count '\'' s.lead = 0 := count_eq_zero.mpr (s.not_mem_lead (by decide))
  have hlead' : ':' ∉ s.lead := s.not_mem_lead (by decide)
  have hvalue := count_eq_zero.mpr s.entry.quote_not_mem.2
  have hname := count_eq_zero.mpr s.entry.quote_not_mem.1
  by_cases hcolon : ':' ∈ s.entry.name
  · have hquoted := Entry.quoted_of_mem hcolon (Or.inr rfl)
    obtain ⟨n, n', hn, hcolon'⟩ := eq_append_cons_of_mem hcolon
    have htext : s.text = (s.lead ++ '\'' :: n) ++ ':' :: (n' ++ '\'' :: ':' :: ' ' :: decimal s.entry.value) := by
      simp [text_of_quoted hquoted, hn]
    rw [hn] at hname
    simp only [count_append, count_cons] at hname
    left
    rw [htext, quoteRule_eq (by simp [hlead', hcolon']), count_append, count_quote_quoted]
    have hn₁ : count '\'' n = 0 := by omega
    have hn₂ : count '\'' n' = 0 := by omega
    simp [hlead, hvalue, hn₁, hn₂]
  · rw [text_eq, quoteRule_eq (s.colon_not_mem hcolon), count_append, count_quote_quoted]
    cases hquoted : s.entry.quoted with
    | true => exact Or.inr (by simp [Entry.key_of_quoted hquoted, hlead, hname, hvalue, hcolon])
    | false => exact Or.inl (by simp [Entry.key_of_bare hquoted, hlead, hname, hvalue])

theorem count_blank_quoteRule (h : ':' ∉ s.entry.name) : count ' ' (quoteRule s.text).2 = 1 := by
  rw [text_eq, quoteRule_eq (s.colon_not_mem h), count_blank_quoted]
  simp [count_eq_zero.mpr (s.entry.not_mem_value (show ' ' ∈ _ by decide))]

theorem count_blank_le (h : ':' ∉ s.entry.name) : count ' ' (quoteRule s.text).2 ≤ count ' ' (quoteRule s.text).1 := by
  rw [count_blank_quoteRule h]
  exact count_pos_iff.mpr (by simp [quoteRule, text_eq])

theorem name_eq_of_occurs (hs' : s'.entry.quoted) (hs : s.entry.quoted) (h : s'.text <:+: s.text) :
    s'.entry.name = s.entry.name := by
  rw [text_of_quoted hs', text_of_quoted hs] at h
  refine between_eq (s.not_mem_lead (by decide)) s.entry.quote_not_mem.1 ?_ h
  simp [s.entry.quote_not_mem.2]

theorem key_eq_of_occurs (hs : s.entry.quoted) (hcolon : ':' ∉ s.entry.name) (h : s'.text <:+: s.text) :
    s'.entry.key = s.entry.key := by
  have hs' : s'.entry.quoted := by
    have haround := h
    rw [text_eq, text_eq, infix_around_iff (s.colon_not_mem hcolon) s.entry.colon_not_mem_value] at haround
    exact Entry.quoted_of_suffix hs ((suffix_append _ _).trans haround.1)
  rw [Entry.key_of_quoted hs', Entry.key_of_quoted hs, name_eq_of_occurs hs' hs h]

theorem quoteRule_text (hblank : ' ' ∉ s.entry.name) (hcolon : ':' ∉ s.entry.name) :
    quoteRule s.text = (s.text, s.entry.inQuotes) := by
  have hlead : bareKey s.lead = [] := filter_eq_nil_iff.mpr fun c hc => by
    simp [s.blanks c hc]
  have hname : bareKey s.entry.name = s.entry.name := filter_eq_self.mpr fun c hc => by
    have hquote : c ≠ '\'' := fun h => s.entry.quote_not_mem.1 (h ▸ hc)
    have hdouble : c ≠ '"' := fun h => s.entry.plain '"' (by decide) (h ▸ hc)
    have hspace : c ≠ ' ' := fun h => hblank (h ▸ hc)
    simp [hquote, hdouble, hspace]
  have hkey : bareKey s.entry.key = s.entry.name := by
    unfold Entry.key
    split
    · simpa [bareKey, without] using hname
    · exact hname
  have hboth : bareKey (s.lead ++ s.entry.key) = s.entry.name := by
    rw [bareKey, without_append]
    exact (congrArg₂ (· ++ ·) hlead hkey).trans (nil_append _)
  rw [text_eq, quoteRule_eq (s.colon_not_mem hcolon), hboth]
  rfl

end Slot

/-- The entries of an object in their places: all but the first have a blank before them. -/
def slots (first : Entry) (rest : List Entry) : List Slot :=
  .first first :: rest.map .later

def quoteRules (first : Entry) (rest : List Entry) : List (Text × Text) :=
  (slots first rest).map fun s => quoteRule s.text

section
variable {first e : Entry} {rest : List Entry} {s : Slot} {r : Text × Text}

theorem join_comma_blank (t : Text) (ts : List Text) : join ", " (t :: ts) = join [','] (t :: ts.map ([' '] ++ ·)) := by
  induction ts generalizing t with
  | nil => rfl
  | cons u ts ih =>
    have hfirst : [' '] ++ join ", " (u :: ts) = join [','] (([' '] ++ u) :: ts.map ([' '] ++ ·)) := by
      rw [ih]
      cases ts <;> rfl
    rw [join_cons _ t (cons_ne_nil u ts), map_cons, join_cons _ t (cons_ne_nil _ _), ← hfirst]
    simp

theorem objectText_eq : objectText (first :: rest) = braced ((slots first rest).map Slot.text) := by
  rw [objectText, map_cons, join_comma_blank, map_map, braced, slots, map_cons, map_map]
  rfl

theorem forall_slots {P : Entry → Prop} : (∀ s ∈ slots first rest, P s.entry) ↔ ∀ e ∈ first :: rest, P e := by
  simp [slots, Slot.first, Slot.later]

theorem later_mem_slots (h : e ∈ rest) : Slot.later e ∈ slots first rest :=
  mem_cons_of_mem _ (mem_map_of_mem h)

theorem exists_of_mem_quoteRules (h : r ∈ quoteRules first rest) : ∃ s ∈ slots first rest, r = quoteRule s.text := by
  obtain ⟨s, hs, rfl⟩ := mem_map.mp h
  exact ⟨s, hs, rfl⟩

theorem old_ne_nil (h : r ∈ quoteRules first rest) : r.1 ≠ [] := by
  obtain ⟨s, -, rfl⟩ := exists_of_mem_quoteRules h
  exact s.text_ne_nil

theorem slot_inj (h : ((first :: rest).map Entry.key).Nodup) {s' : Slot} (hs : s ∈ slots first rest)
    (hs' : s' ∈ slots first rest) (hkey : s'.entry.key = s.entry.key) : s' = s := by
  have hkeys : (slots first rest).map (fun s => s.entry.key) = (first :: rest).map Entry.key := by
    rw [slots, map_cons, map_map]
    rfl
  rw [← hkeys] at h
  exact inj_on_of_nodup_map h hs' hs hkey

/-- The keys of an object are quoted as they should be if this is so for every entry in its place. -/
theorem quoteKeys_eq_iff : quoteKeys (objectText (first :: rest)) = braced ((first :: rest).map Entry.inQuotes) ↔
    ∀ s ∈ slots first rest, replaceEach (quoteRules first rest) s.text = s.entry.inQuotes := by
  have hplain : ∀ i ∈ (slots first rest).map Slot.text, ∀ c ∈ [',', '{', '}', '\n'], c ∉ i :=
    forall_mem_map.mpr fun s _ c hc => s.not_mem_text hc
  have hquoted : (first :: rest).map Entry.inQuotes = (slots first rest).map fun s => s.entry.inQuotes := by
    rw [slots, map_cons, map_cons, map_map]
    rfl
  have hrules : quoteRules first rest = ((slots first rest).map Slot.text).map quoteRule := by
    rw [map_map]
    rfl
  rw [objectText_eq, quoteKeys_braced (by simp [slots]) (forall_mem_map.mpr fun s _ => s.colon_mem_text) hplain,
    ← hrules, replaceEach_braced (fun r hr => old_ne_nil hr), hquoted, map_map, ← map_inj_left]
  · refine ⟨braced_inj (by simp [slots]) (by simp [slots]) ?_ ?_, congrArg braced⟩
    · refine forall_mem_map.mpr fun s _ hmem => ?_
      rcases mem_replaceEach (fun r hr => old_ne_nil hr) hmem with h | ⟨r, hr, h⟩
      · exact s.not_mem_text (by decide) h
      · obtain ⟨s', -, rfl⟩ := exists_of_mem_quoteRules hr
        exact (mem_quoteRule h).elim (s'.not_mem_text (by decide)) (by decide)
    · exact forall_mem_map.mpr fun s _ => s.entry.comma_not_mem_inQuotes
  · intro r hr c hc
    obtain ⟨s, -, rfl⟩ := exists_of_mem_quoteRules hr
    exact s.not_mem_text (mem_append_left ['\n'] hc)

/-! ### What has to hold -/

theorem quotes_le (h : r ∈ quoteRules first rest) : count '\'' r.1 ≤ count '\'' r.2 := by
  obtain ⟨s, -, rfl⟩ := exists_of_mem_quoteRules h
  rcases s.count_quote_quoteRule with h | ⟨h, -⟩
  · exact Nat.le_of_lt h
  · exact Nat.le_of_eq h

/-- Entries that come out right have no colon in the key: the quote put before it would be one too many. -/
theorem colon_not_mem_of_quoted
    (h : ∀ s ∈ slots first rest, replaceEach (quoteRules first rest) s.text = s.entry.inQuotes)
    (hs : s ∈ slots first rest) : ':' ∉ s.entry.name := by
  intro hcolon
  have hquoted := Entry.quoted_of_mem hcolon (Or.inr rfl)
  obtain ⟨r, hr, hocc, later, hlater, heq⟩ :=
    replaceEach_first (fun r hr => old_ne_nil hr) ⟨_, mem_map_of_mem hs, infix_refl s.text⟩
  have hgrow : count '\'' (replace r.1 r.2 s.text) ≤ 2 := by
    rw [← s.entry.count_quote_inQuotes, ← h s hs, heq]
    exact countP_le_replaceEach fun r hr => ⟨old_ne_nil (hlater hr), quotes_le (hlater hr)⟩
  have hstep := (@countP_le_replace r.1 r.2 s.text (· == '\'') (old_ne_nil hr) (quotes_le hr)).2
  obtain ⟨s', -, rfl⟩ := exists_of_mem_quoteRules hr
  rcases s'.count_quote_quoteRule with hlt | ⟨-, hquoted', hcolon'⟩
  · have hmore : count '\'' s.text < _ := hstep hlt hocc
    rw [Slot.count_quote_text hquoted] at hmore
    exact absurd (Nat.lt_of_lt_of_le hmore hgrow) (Nat.lt_irrefl 2)
  · exact hcolon' (Slot.name_eq_of_occurs hquoted' hquoted hocc ▸ hcolon)

theorem blank_not_mem_of_quoted (hkeys : ((first :: rest).map Entry.key).Nodup)
    (h : ∀ s ∈ slots first rest, replaceEach (quoteRules first rest) s.text = s.entry.inQuotes)
    (hs : s ∈ slots first rest) : ' ' ∉ s.entry.name := by
  intro hblank
  have hquoted := Entry.quoted_of_mem hblank (Or.inl rfl)
  have hcolon {s : Slot} (hs : s ∈ slots first rest) : ':' ∉ s.entry.name := colon_not_mem_of_quoted h hs
  obtain ⟨r, hr, hocc, later, hlater, heq⟩ :=
    replaceEach_first (fun r hr => old_ne_nil hr) ⟨_, mem_map_of_mem hs, infix_refl s.text⟩
  obtain ⟨s', hs', rfl⟩ := exists_of_mem_quoteRules hr
  obtain rfl : s' = s := slot_inj hkeys hs hs' (Slot.key_eq_of_occurs hquoted (hcolon hs) hocc)
  have hfew : count ' ' s'.entry.inQuotes ≤ 1 := by
    have hwhole : replace (quoteRule s'.text).1 (quoteRule s'.text).2 s'.text = (quoteRule s'.text).2 :=
      replace_whole s'.text_ne_nil
    rw [← h s' hs, heq, ← Slot.count_blank_quoteRule (hcolon hs), hwhole]
    refine countP_replaceEach_le fun r hr => ⟨old_ne_nil (hlater hr), ?_⟩
    obtain ⟨s, hs, rfl⟩ := exists_of_mem_quoteRules (hlater hr)
    exact Slot.count_blank_le (hcolon hs)
  have hmany := count_pos_iff.mpr hblank
  rw [Entry.count_blank_inQuotes] at hfew
  omega

/-- The replacements for the entries behind the first, without blanks and colons in the keys. -/
def laterRules (rest : List Entry) : List (Text × Text) :=
  rest.map fun e => ((Slot.later e).text, e.inQuotes)

theorem later_ne_nil (h : r ∈ laterRules rest) : r.1 ≠ [] := by
  obtain ⟨f, -, rfl⟩ := mem_map.mp h
  exact Slot.text_ne_nil _

section
variable (hplain : ∀ e ∈ first :: rest, ' ' ∉ e.name ∧ ':' ∉ e.name) (hkeys : ((first :: rest).map Entry.key).Nodup)
include hplain

theorem quoteRules_eq : quoteRules first rest = (first.written, first.inQuotes) :: laterRules rest := by
  rw [forall_mem_cons] at hplain
  rw [quoteRules, slots, map_cons, map_map, @Slot.quoteRule_text (.first first) hplain.1.1 hplain.1.2]
  refine congrArg _ (map_congr_left fun e he => ?_)
  exact @Slot.quoteRule_text (.later e) (hplain.2 e he).1 (hplain.2 e he).2

/-- Entries behind the first do not occur in an entry with its key in quotes, which has but one blank. -/
theorem later_not_occurs (he : e ∈ first :: rest) (f : Entry) : ¬(Slot.later f).text <:+: e.inQuotes := by
  intro h
  have hle := h.sublist.count_le ' '
  rw [Entry.count_blank_inQuotes, count_eq_zero.mpr (hplain e he).1] at hle
  have htwo : 2 ≤ count ' ' (Slot.later f).text := by
    simp [Slot.later, Slot.text, Entry.written]
    omega
  omega

theorem replaceEach_inQuotes {later : List (Text × Text)} (hlater : later ⊆ laterRules rest) (he : e ∈ first :: rest) :
    replaceEach later e.inQuotes = e.inQuotes := by
  refine replaceEach_of_not_occurs (fun r hr => later_ne_nil (hlater hr)) fun r hr => ?_
  obtain ⟨f, -, rfl⟩ := mem_map.mp (hlater hr)
  exact later_not_occurs hplain he f

theorem clash_of_occurs (he : e ∈ rest) (h : first.written <:+: (Slot.later e).text) :
    first.key <:+ e.key ∧ decimal first.value <+: decimal e.value := by
  have hcolon := (Entry.not_mem_key (hplain e (mem_cons_of_mem _ he))).2
  have hcolon' : ':' ∉ ' ' :: e.key := by simpa using hcolon
  obtain ⟨hsuffix, hpre⟩ := (infix_around_iff hcolon' e.colon_not_mem_value).mp h
  refine ⟨?_, (cons_prefix_cons.mp hpre).2⟩
  rcases suffix_cons_iff.mp hsuffix with heq | hsuffix
  · have hblank := (Entry.not_mem_key (hplain first mem_cons_self)).1
    exact absurd (by simp [heq]) hblank
  · exact hsuffix

include hkeys

/-- An entry behind the first, if the key of the first ends its key and the value of the first starts its value: the
first part of its key is left before the quotes. -/
theorem clash_kept (he : e ∈ rest) (hkey : first.key <:+ e.key) (hvalue : decimal first.value <+: decimal e.value) :
    replaceEach (quoteRules first rest) (Slot.later e).text ≠ e.inQuotes := by
  have hne : first.key ≠ e.key := fun h => (nodup_cons.mp hkeys).1 (h ▸ mem_map_of_mem he)
  obtain ⟨hf, he'⟩ := (Entry.eq_or_bare_of_suffix hkey).resolve_left hne
  rw [Entry.key_of_bare hf, Entry.key_of_bare he'] at hkey hne
  obtain ⟨x, hx⟩ := hkey
  obtain ⟨d, hd⟩ := hvalue
  obtain ⟨hblank, hcolon⟩ := hplain e (mem_cons_of_mem _ he)
  have hquote := e.quote_not_mem.1
  rw [← hx, mem_append, not_or] at hblank hcolon hquote
  have hstep : replace first.written first.inQuotes (Slot.later e).text =
      ' ' :: ((x ++ '\'' :: (first.name ++ ['\''])) ++ ':' :: ' ' :: decimal e.value) := by
    have hwritten : first.written = first.name ++ ':' :: (' ' :: decimal first.value) := by
      rw [Entry.written, Entry.key_of_bare hf]
    have htext : (Slot.later e).text = ((' ' :: x) ++ first.name) ++ ':' :: ((' ' :: decimal first.value) ++ d) := by
      simp [Slot.later, Slot.text, Entry.written, Entry.key_of_bare he', ← hx, ← hd]
    have hcolon' : ':' ∉ decimal first.value ++ d := hd ▸ e.not_mem_value (by decide)
    rw [hwritten, htext, replace_around (by simpa using hcolon) (by simpa using hcolon'), ← hd]
    simp [Entry.inQuotes]
  rw [quoteRules_eq hplain, replaceEach_cons, hstep, replaceEach_of_not_occurs]
  · intro heq
    exact absurd (cons.inj heq).1 (by decide)
  · exact fun r hr => later_ne_nil hr
  · refine forall_mem_map.mpr fun f _ hocc => ?_
    have hfkey : f.key = x ++ '\'' :: (first.name ++ ['\'']) := by
      refine eq_of_infix_blank ?_ ?_ ?_ hocc
      · simp [hblank]
      · simp [hcolon]
      · exact e.colon_not_mem_value
    cases hfq : f.quoted with
    | false =>
      rw [Entry.key_of_bare hfq] at hfkey
      exact f.quote_not_mem.1 (by simp [hfkey])
    | true =>
      rw [Entry.key_of_quoted hfq] at hfkey
      cases x with
      | nil => exact hne hx
      | cons d x => exact hquote.1 ((cons.inj hfkey).1 ▸ mem_cons_self)

theorem quoted_of_no_clash
    (hclash : ∀ e ∈ rest, ¬(first.key <:+ e.key ∧ decimal first.value <+: decimal e.value))
    (hs : s ∈ slots first rest) : replaceEach (quoteRules first rest) s.text = s.entry.inQuotes := by
  rw [quoteRules_eq hplain, replaceEach_cons]
  have hwritten : first.written ≠ [] := Slot.text_ne_nil (.first first)
  rcases mem_cons.mp hs with rfl | hs'
  · have hwhole : replace first.written first.inQuotes (Slot.first first).text = first.inQuotes :=
      replace_whole hwritten
    rw [hwhole]
    exact replaceEach_inQuotes hplain (Subset.refl _) mem_cons_self
  · obtain ⟨e, he, rfl⟩ := mem_map.mp hs'
    have hkept : replace first.written first.inQuotes (Slot.later e).text = (Slot.later e).text :=
      replace_of_not_occurs hwritten fun h => hclash e he (clash_of_occurs hplain he h)
    rw [hkept]
    obtain ⟨r, hr, hocc, later, hlater, heq⟩ :=
      replaceEach_first (fun r hr => later_ne_nil hr) ⟨_, mem_map_of_mem he, infix_refl (Slot.later e).text⟩
    obtain ⟨f, hf, rfl⟩ := mem_map.mp hr
    -- The entry that is found is the entry itself, as its key is.
    obtain ⟨hblank, hcolon⟩ := Entry.not_mem_key (hplain e (mem_cons_of_mem _ he))
    have hkey : f.key = e.key := eq_of_infix_blank hblank (by simpa using hcolon) e.colon_not_mem_value hocc
    obtain rfl : f = e := congrArg Slot.entry (slot_inj hkeys (later_mem_slots he) (later_mem_slots hf) hkey)
    rw [heq, replace_whole (Slot.text_ne_nil _)]
    exact replaceEach_inQuotes hplain hlater (mem_cons_of_mem _ he)

end

/-- The keys of an object with numbers are quoted, and nothing else changes, exactly if no key has a blank or a colon in
its quotes and the first entry does not occur in another one, as the end of its key and the start of its value. -/
theorem keys_quoted_iff (first : Entry) (rest : List Entry) (hkeys : ((first :: rest).map Entry.key).Nodup) :
    quoteKeys (objectText (first :: rest)) = braced ((first :: rest).map Entry.inQuotes) ↔
      (∀ e ∈ first :: rest, ' ' ∉ e.name ∧ ':' ∉ e.name) ∧
        ∀ e ∈ rest, ¬(first.key <:+ e.key ∧ decimal first.value <+: decimal e.value) := by
  rw [quoteKeys_eq_iff]
  constructor
  · intro h
    have hplain : ∀ e ∈ first :: rest, ' ' ∉ e.name ∧ ':' ∉ e.name := forall_slots.mp fun s hs =>
      ⟨blank_not_mem_of_quoted hkeys h hs, colon_not_mem_of_quoted h hs⟩
    refine ⟨hplain, ?_⟩
    rintro e he ⟨hkey, hvalue⟩
    exact clash_kept hplain hkeys he hkey hvalue (h _ (later_mem_slots he))
  · rintro ⟨hplain, hclash⟩ s hs
    exact quoted_of_no_clash hplain hkeys hclash hs

/-- The first entry of `{a: 1, ba: 1}` occurs in the second one. -/
theorem first_key_quoted_in_second : ∃ a ba : Entry, objectText [a, ba] = "\x7ba: 1, ba: 1\x7d" ∧
    ([a, ba].map Entry.key).Nodup ∧ quoteKeys (objectText [a, ba]) ≠ braced ([a, ba].map Entry.inQuotes) := by
  refine ⟨⟨['a'], false, 1, by simp, by simp⟩, ⟨['b', 'a'], false, 1, by simp, by simp⟩, by decide, by decide,
    fun h => ?_⟩
  exact ((keys_quoted_iff _ _ (by decide)).mp h).2 _ mem_cons_self ⟨⟨['b'], rfl⟩, prefix_refl _⟩

end

end Script

end Geoscript
