import Geoscript.Proofs.Script.QuoteMarks
import Geoscript.Script.Operator

/-! Replacing outside of quotes, piece by piece (`unquoted_induction`). If neither the old nor the new characters are
quotes or backslashes, the result is cut at the same places, and a second run finds nothing (`replaceUnquoted_idem`).
-/

namespace Geoscript.Script
open List Text
variable {pairs : List (Text × Text)} {mark before inner rest t u v w new : Text} {c d e : Char}

/-! ### The pieces of a text -/

/-- A quoted piece opens behind `before`, and `rest` is behind the mark. -/
def Opens (before mark rest : Text) : Prop :=
  opening? (before ++ (mark ++ rest)) = some (before, mark, mark ++ rest)

def Closes (mark inner rest : Text) : Prop :=
  cutAt? mark (inner ++ (mark ++ rest)) = some (inner, mark ++ rest)

theorem Opens.mem_quoteMarks (h : Opens before mark rest) : mark ∈ quoteMarks :=
  mem_quoteMarks_of_mem_visible (opening?_eq_some_iff.mp h).2.2.1

theorem Opens.before_ne_nil (h : Opens before mark rest) : before ≠ [] :=
  ne_nil_of_opening? h

theorem Closes.of_same_front (h : Closes mark inner rest) (w : Text) : Closes mark inner w :=
  cutAt?_of_same_front h w

theorem exists_opens_of_opening? (h : opening? t = some (before, mark, w)) :
    ∃ rest, w = mark ++ rest ∧ t = before ++ (mark ++ rest) ∧ Opens before mark rest := by
  obtain ⟨rfl, -, -, rest, rfl⟩ := opening?_eq_some_iff.mp h
  exact ⟨rest, rfl, rfl, h⟩

theorem exists_closes_of_cutAt? (h : cutAt? mark t = some (inner, w)) :
    ∃ rest, w = mark ++ rest ∧ t = inner ++ (mark ++ rest) ∧ Closes mark inner rest := by
  obtain ⟨rfl, rest, rfl⟩ := cutAt?_eq_some h
  exact ⟨rest, rfl, rfl, h⟩

theorem unquoted_induction {P : Text → Prop} (free : ∀ t, opening? t = none → P t)
    (unclosed : ∀ before mark rest, Opens before mark rest → cutAt? mark rest = none → P (before ++ (mark ++ rest)))
    (closed : ∀ before mark inner rest, Opens before mark (inner ++ (mark ++ rest)) → Closes mark inner rest →
      P rest → P (before ++ (mark ++ (inner ++ (mark ++ rest))))) (t : Text) : P t := by
  obtain ⟨n, hn⟩ : ∃ n, t.length = n := ⟨_, rfl⟩
  induction n using Nat.strongRecOn generalizing t with
  | ind n ih =>
    cases hopen : opening? t with
    | none => exact free t hopen
    | some place =>
      obtain ⟨before, mark, w⟩ := place
      obtain ⟨w, -, rfl, hopens⟩ := exists_opens_of_opening? hopen
      cases hclose : cutAt? mark w with
      | none => exact unclosed before mark w hopens hclose
      | some cut =>
        obtain ⟨inner, rest⟩ := cut
        obtain ⟨rest, -, rfl, hcloses⟩ := exists_closes_of_cutAt? hclose
        refine closed before mark inner rest hopens hcloses (ih rest.length ?_ rest rfl)
        have hbefore := length_pos_iff.mpr hopens.before_ne_nil
        simp only [length_append] at hn
        omega

/-! ### What becomes of the pieces -/

theorem replaceUnquotedFrom_free (h : opening? t = none) (fuel : Nat) :
    replaceUnquotedFrom pairs fuel t = replaceMany pairs t := by
  cases fuel with
  | zero => rfl
  | succ fuel => rw [replaceUnquotedFrom, h]

theorem replaceUnquotedFrom_unclosed (h : Opens before mark rest) (hclose : cutAt? mark rest = none) (fuel : Nat) :
    replaceUnquotedFrom pairs (fuel + 1) (before ++ (mark ++ rest)) =
      replaceMany pairs before ++ replaceMany pairs (mark ++ rest) := by
  have hdrop : cutAt? mark ((mark ++ rest).drop mark.length) = none := by
    rwa [drop_left]
  rw [replaceUnquotedFrom, h]
  simp only [hdrop]

theorem replaceUnquotedFrom_closed (h : Opens before mark (inner ++ (mark ++ rest))) (hclose : Closes mark inner rest)
    (fuel : Nat) : replaceUnquotedFrom pairs (fuel + 1) (before ++ (mark ++ (inner ++ (mark ++ rest)))) =
      replaceMany pairs before ++ (mark ++ inner ++ mark) ++ replaceUnquotedFrom pairs fuel rest := by
  have hdrop : cutAt? mark ((mark ++ (inner ++ (mark ++ rest))).drop mark.length) = some (inner, mark ++ rest) := by
    rwa [drop_left]
  rw [replaceUnquotedFrom, h]
  simp only [hdrop]
  rw [drop_left]

theorem replaceUnquotedFrom_eq {fuel : Nat} (h : t.length < fuel) :
    replaceUnquotedFrom pairs fuel t = replaceUnquoted pairs t := by
  suffices hall : ∀ n m, t.length < n → t.length < m →
      replaceUnquotedFrom pairs n t = replaceUnquotedFrom pairs m t from hall _ _ h (Nat.lt_succ_self _)
  clear h
  induction t using unquoted_induction with
  | free t hopen =>
    intro n m _ _
    rw [replaceUnquotedFrom_free hopen, replaceUnquotedFrom_free hopen]
  | unclosed before mark rest hopen hclose =>
    intro n m hn hm
    obtain ⟨n, rfl⟩ := Nat.exists_eq_succ_of_ne_zero (Nat.ne_zero_of_lt hn)
    obtain ⟨m, rfl⟩ := Nat.exists_eq_succ_of_ne_zero (Nat.ne_zero_of_lt hm)
    rw [replaceUnquotedFrom_unclosed hopen hclose, replaceUnquotedFrom_unclosed hopen hclose]
  | closed before mark inner rest hopen hclose ih =>
    intro n m hn hm
    obtain ⟨n, rfl⟩ := Nat.exists_eq_succ_of_ne_zero (Nat.ne_zero_of_lt hn)
    obtain ⟨m, rfl⟩ := Nat.exists_eq_succ_of_ne_zero (Nat.ne_zero_of_lt hm)
    have hbefore := length_pos_iff.mpr hopen.before_ne_nil
    simp only [length_append] at hn hm
    rw [replaceUnquotedFrom_closed hopen hclose, replaceUnquotedFrom_closed hopen hclose, ih n m (by omega) (by omega)]

theorem replaceUnquoted_free (h : opening? t = none) : replaceUnquoted pairs t = replaceMany pairs t :=
  replaceUnquotedFrom_free h _

theorem replaceUnquoted_unclosed (h : Opens before mark rest) (hclose : cutAt? mark rest = none) :
    replaceUnquoted pairs (before ++ (mark ++ rest)) = replaceMany pairs before ++ replaceMany pairs (mark ++ rest) :=
  replaceUnquotedFrom_unclosed h hclose _

theorem replaceUnquoted_closed (h : Opens before mark (inner ++ (mark ++ rest))) (hclose : Closes mark inner rest) :
    replaceUnquoted pairs (before ++ (mark ++ (inner ++ (mark ++ rest)))) =
      replaceMany pairs before ++ (mark ++ inner ++ mark) ++ replaceUnquoted pairs rest := by
  have hbefore := length_pos_iff.mpr h.before_ne_nil
  rw [replaceUnquoted, replaceUnquotedFrom_closed h hclose, replaceUnquotedFrom_eq]
  simp only [length_append]
  omega

theorem replaceUnquoted_nil (t : Text) : replaceUnquoted [] t = t := by
  have hmany : ∀ t, replaceMany [] t = t := by
    intro t
    cases t <;> rfl
  induction t using unquoted_induction with
  | free t hopen => rw [replaceUnquoted_free hopen, hmany]
  | unclosed before mark rest hopen hclose => rw [replaceUnquoted_unclosed hopen hclose, hmany, hmany]
  | closed before mark inner rest hopen hclose ih =>
    rw [replaceUnquoted_closed hopen hclose, hmany, ih]
    simp

/-- Behind text without quotes and backslashes a quoted piece goes to the next quote of its kind. -/
theorem replaceUnquoted_quoted (hc : c = '\'' ∨ c = '"') (hne : before ≠ []) (hbefore : ∀ c ∈ before, Markless c)
    (hinner : c ∉ inner) (rest : Text) : replaceUnquoted pairs (before ++ c :: (inner ++ c :: rest)) =
      replaceMany pairs before ++ c :: (inner ++ c :: replaceUnquoted pairs rest) := by
  have hmark : [c] ∈ quoteMarks := mem_quoteMarks_iff.mpr ⟨c, hc, .inl rfl⟩
  have hopens : Opens before [c] (inner ++ ([c] ++ rest)) :=
    opening?_of_markless hne hbefore hmark (prefix_append _ _)
  have hcloses : Closes [c] inner rest := cutAt?_singleton hinner
  simpa using replaceUnquoted_closed hopens hcloses

/-! ### One character replaced -/

theorem replaceMany_single (d : Char) (new t : Text) : replaceMany [([d], new)] t = replace [d] new t := by
  cases t with
  | nil => exact (replace_nil (cons_ne_nil d [])).symm
  | cons c t => rfl

/-- Some of the characters `d` of a text are replaced by a new text, and all else is kept. -/
inductive SomeReplaced (d : Char) (new : Text) : Text → Text → Prop
  | nil : SomeReplaced d new [] []
  | keep (c : Char) {t u : Text} : SomeReplaced d new t u → SomeReplaced d new (c :: t) (c :: u)
  | replaced {t u : Text} : SomeReplaced d new t u → SomeReplaced d new (d :: t) (new ++ u)

theorem SomeReplaced.refl (d : Char) (new t : Text) : SomeReplaced d new t t := by
  induction t with
  | nil => exact .nil
  | cons c t ih => exact .keep c ih

theorem SomeReplaced.append (h : SomeReplaced d new t u) (h' : SomeReplaced d new v w) :
    SomeReplaced d new (t ++ v) (u ++ w) := by
  induction h with
  | nil => exact h'
  | keep c _ ih => exact .keep c ih
  | replaced _ ih =>
    rw [append_assoc]
    exact .replaced ih

theorem someReplaced_replace (d : Char) (new t : Text) : SomeReplaced d new t (replace [d] new t) := by
  induction t with
  | nil =>
    rw [replace_nil (cons_ne_nil d [])]
    exact .nil
  | cons c t ih =>
    by_cases hc : c = d
    · rw [hc, replace_cons_self]
      exact .replaced ih
    · rw [replace_cons_of_ne hc]
      exact .keep c ih

theorem someReplaced_replaceUnquoted (d : Char) (new t : Text) :
    SomeReplaced d new t (replaceUnquoted [([d], new)] t) := by
  induction t using unquoted_induction with
  | free t hopen =>
    rw [replaceUnquoted_free hopen, replaceMany_single]
    exact someReplaced_replace d new t
  | unclosed before mark rest hopen hclose =>
    rw [replaceUnquoted_unclosed hopen hclose, replaceMany_single, replaceMany_single]
    exact (someReplaced_replace d new before).append (someReplaced_replace d new (mark ++ rest))
  | closed before mark inner rest hopen hclose ih =>
    rw [replaceUnquoted_closed hopen hclose, replaceMany_single]
    have hquoted := (SomeReplaced.refl d new (mark ++ inner ++ mark)).append ih
    simpa using (someReplaced_replace d new before).append hquoted

theorem SomeReplaced.undo (h : SomeReplaced d (e :: new) t u) (he : e ∉ t) : replace (e :: new) [d] u = t := by
  induction h with
  | nil => exact replace_nil (cons_ne_nil e new)
  | keep c _ ih =>
    rw [mem_cons, not_or] at he
    have hpre (u : Text) : ¬e :: new <+: c :: u := fun h => he.1 (cons_prefix_cons.mp h).1
    rw [replace_cons (cons_ne_nil e new) (hpre _), ih he.2]
  | replaced _ ih =>
    rw [mem_cons, not_or] at he
    rw [replace_append (cons_ne_nil e new), ih he.2]
    rfl

theorem not_mem_replace (hnew : d ∉ new) (t : Text) : d ∉ replace [d] new t := by
  induction t with
  | nil =>
    rw [replace_nil (cons_ne_nil d [])]
    exact not_mem_nil
  | cons c t ih =>
    by_cases hc : c = d
    · rw [hc, replace_cons_self, mem_append, not_or]
      exact ⟨hnew, ih⟩
    · rw [replace_cons_of_ne hc, mem_cons, not_or]
      exact ⟨Ne.symm hc, ih⟩

theorem replace_replace (hnew : d ∉ new) (t : Text) : replace [d] new (replace [d] new t) = replace [d] new t :=
  replace_of_not_occurs (cons_ne_nil d []) fun h => not_mem_replace hnew t (h.subset mem_cons_self)

theorem clear_of_markless (hmark : mark ∈ quoteMarks) (hw : ∀ c ∈ w, Markless c) : Clear mark w where
  last c hc hmem := not_markless_of_mem hmark hmem (hw c (mem_of_getLast? hc))
  other := by
    obtain ⟨c, hc⟩ := exists_mem_of_ne_nil mark (ne_nil_of_mem_quoteMarks hmark)
    exact ⟨c, hc, fun hmem => not_markless_of_mem hmark hc (hw c hmem)⟩
  edge x hx hsuffix hpre := by
    obtain ⟨c, hc⟩ := exists_mem_of_ne_nil x hx
    exact not_markless_of_mem hmark (hsuffix.subset hc) (hw c (hpre.subset hc))

section
variable (hd : Markless d) (hne : new ≠ []) (hnew : ∀ c ∈ new, Markless c)
include hd hne hnew

theorem Opens.replace (h : Opens before mark rest) (w : Text) : Opens (replace [d] new before) mark w :=
  opening?_replace hd hne hnew h (prefix_append mark w)

theorem replaceUnquoted_idem (hfresh : d ∉ new) (t : Text) :
    replaceUnquoted [([d], new)] (replaceUnquoted [([d], new)] t) = replaceUnquoted [([d], new)] t := by
  have hne' : ([d] : Text) ≠ [] := cons_ne_nil d []
  have hd' : ∀ c ∈ ([d] : Text), Markless c := by
    simpa using hd
  induction t using unquoted_induction with
  | free t hopen =>
    rw [replaceUnquoted_free hopen, replaceMany_single,
      replaceUnquoted_free (opening?_replace_none hd hne hnew hopen), replaceMany_single, replace_replace hfresh]
  | unclosed before mark rest hopen hclose =>
    have hold := clear_of_markless hopen.mem_quoteMarks hd'
    have hclose' : cutAt? mark (replace [d] new rest) = none := by
      rw [cutAt?_replace hne' hne hold (clear_of_markless hopen.mem_quoteMarks hnew), hclose]
      rfl
    rw [replaceUnquoted_unclosed hopen hclose, replaceMany_single, replaceMany_single,
      replace_append_of_clear hne' hold, replaceUnquoted_unclosed (hopen.replace hd hne hnew _) hclose',
      replaceMany_single, replaceMany_single, replace_append_of_clear hne' hold, replace_replace hfresh,
      replace_replace hfresh]
  | closed before mark inner rest hopen hclose ih =>
    rw [replaceUnquoted_closed hopen hclose, replaceMany_single]
    simp only [append_assoc]
    rw [replaceUnquoted_closed (hopen.replace hd hne hnew _) (hclose.of_same_front _), replaceMany_single,
      replace_replace hfresh, ih]
    simp only [append_assoc]

end

/-! ### The plus sign -/

theorem convertPlus_text (t : Text) : (convertPlus t).1 = replaceUnquoted [(['+'], "|plus|")] t := by
  rw [convertPlus]
  split
  · next h => exact h.symm
  · rfl

theorem convertPlus_of_eq (h : replaceUnquoted [(['+'], "|plus|")] t = t) : convertPlus t = (t, []) := by
  rw [convertPlus]
  exact if_pos h

/-- Nothing but plus signs is changed, those of a text without quotes all are, and they can be told from the text when
it has no bar. A second conversion changes nothing and needs no definition. Without replacements a text is put together
again from its pieces, whatever quotes it has. -/
theorem plus_signs_converted_once (t : Text) : SomeReplaced '+' "|plus|".toList t (convertPlus t).1 ∧
      ('\'' ∉ t → '"' ∉ t → (convertPlus t).1 = replace ['+'] "|plus|".toList t) ∧
      ('|' ∉ t → replace "|plus|".toList ['+'] (convertPlus t).1 = t) ∧
      convertPlus (convertPlus t).1 = ((convertPlus t).1, []) ∧
      replaceUnquoted [] t = t := by
  have hplus : Markless '+' := by
    simp [Markless]
  have hnew : ∀ c ∈ "|plus|".toList, Markless c := by
    simp [Markless]
  have hwritten := someReplaced_replaceUnquoted '+' "|plus|".toList t
  have hagain := replaceUnquoted_idem hplus (by simp) hnew (by simp) t
  rw [← convertPlus_text t] at hwritten hagain
  refine ⟨hwritten, fun h h' => ?_, hwritten.undo, convertPlus_of_eq hagain, replaceUnquoted_nil t⟩
  rw [convertPlus_text, replaceUnquoted_free (opening?_eq_none_of_not_mem h h'), replaceMany_single]

theorem plus_signs_around_quotes_converted :
    ('|' ∉ "x+'a+b'+\"".toList ∧ (convertPlus "x+'a+b'+\"".toList).1 = "x|plus|'a+b'|plus|\"".toList ∧
      replace "|plus|" ['+'] (convertPlus "x+'a+b'+\"").1 = "x+'a+b'+\"") ∧
    '\'' ∉ "a+1".toList ∧ '"' ∉ "a+1".toList ∧
      (convertPlus "a+1").1 = replace ['+'] "|plus|" "a+1" :=
  ⟨⟨by simp, by rfl, (plus_signs_converted_once "x+'a+b'+\"".toList).2.2.1 (by simp)⟩, by simp, by simp,
    (plus_signs_converted_once "a+1").2.1 (by simp) (by simp)⟩

end Geoscript.Script
